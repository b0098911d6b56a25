import FluentThis.Document.Format
import FluentThis.Document.Node
import FluentThis.Text.Quoted
/-!
What can be wrong with a document: its text is malformed, or a value in it is not what is asked for in its place.
-/

namespace FluentThis

inductive Mismatch where
  | unknownField (key : String) (fields : List String)
  | duplicateField (key : String)
  | missingField (key : String)
  | unknownVariant (name : String) (variants : List String)
  | invalidType (found : ValueKind) (expected : String)
  | invalidValue (found : ValueKind) (expected : String)
  | invalidLength (found : Nat) (expected : String)
  | noVariantForm
  | noVariant
  | manyVariants
  | variantContent (problem : String)
  | noAnnotationForm
  | hugeInteger
  | hugeFloat
  deriving DecidableEq, Repr

inductive Fault where
  | malformed
  | mismatch (cause : Mismatch)
  deriving DecidableEq, Repr

namespace ValueKind

def mention (format : DocumentFormat) : ValueKind → String
  | null => "null"
  | boolean b => "boolean `" ++ toString b ++ "`"
  | integer i =>
    let width :=
      if fits 64 i then ""
      else if fitsSigned 128 i then " as i128"
      else " as u128"
    "integer `" ++ toString i ++ "`" ++ width
  | float x => "floating point `" ++ x.text format.floatStyle ++ "`"
  | text s => "string " ++ Text.quoted s
  | sequence => "sequence"
  | map => "map"

end ValueKind

namespace Mismatch

def ticked (s : String) : String := "`" ++ s ++ "`"

def alternatives : List String → String
  | [a] => ticked a
  | [a, b] => ticked a ++ " or " ++ ticked b
  | names => "one of " ++ String.intercalate ", " (names.map ticked)

/-- The text that says what is wrong in a document of the given format. -/
def message (format : DocumentFormat) : Mismatch → String
  | unknownField key fields => "unknown field " ++ ticked key ++ ", expected " ++ alternatives fields
  | duplicateField key => "duplicate field " ++ ticked key
  | missingField key => "missing field " ++ ticked key
  | unknownVariant name variants => "unknown variant " ++ ticked name ++ ", expected " ++ alternatives variants
  | invalidType found expected => "invalid type: " ++ found.mention format ++ ", expected " ++ expected
  | invalidValue found expected => "invalid value: " ++ found.mention format ++ ", expected " ++ expected
  | invalidLength found expected => "invalid length " ++ toString found ++ ", expected " ++ expected
  | noVariantForm => "wanted string or table"
  | noVariant => "wanted exactly 1 element, found 0 elements"
  | manyVariants => "wanted exactly 1 element, more than 1 element"
  | variantContent problem => problem
  | noAnnotationForm => "data did not match any variant of untagged enum AnnotationDecl"
  | hugeInteger => "integer number overflowed"
  | hugeFloat => "floating-point number overflowed"

end Mismatch

end FluentThis
