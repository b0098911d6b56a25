import FluentThis.Document.FloatText
/-!
The formats that documents are written in.
-/

namespace FluentThis

/-- The formats. They differ in how a variant may be written, in what becomes of items that a record has no field for,
and in how a message shows a number. -/
inductive DocumentFormat where
  | json
  | toml
  deriving DecidableEq, Repr

namespace DocumentFormat

/-- How messages about a document show its numbers: about JSON with an exponent below `1e-5` and from `1e16` on, about
TOML always without one. -/
def floatStyle : DocumentFormat → FloatStyle
  | json => { tiesToEven := true, pointRange := some (-4, 16) }
  | toml => { tiesToEven := false, pointRange := none }

end DocumentFormat

end FluentThis
