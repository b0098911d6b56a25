import FluentThis.Generator.Recognition
/-!
Inference of `@This` on one signature. A type declared to be returned as `@This` makes the receiver `@This`, and so
does an active generator that recognizes the method; then the type to return becomes `@This` too.
-/

namespace FluentThis

namespace Signature

/-- The receiver takes on `@This` when the type to return has it. -/
def propagate (s : Signature) : Signature :=
  if s.returns.bind (·.qualifierIn .unknown) = some .receiver then s.qualifyReceiver .receiver else s

/-- Both the type to return and the receiver take on `@This`. -/
def recognize (s : Signature) : Signature := (s.qualifyReturns .receiver).qualifyReceiver .receiver

/-- Whether generators are asked about a signature: constructors and static methods have no receiver to return. -/
def isCandidate (s : Signature) : Bool := s.kind != .constructor && s.receiver.isSome

/-- Infers the qualifiers of a signature and tells which generator recognized it. The signature comes back in any
case, as far as inference got with it. -/
def infer (gs : GeneratorSet) (h : Host) (s : Signature) : Except Failure (Option Generator) × Signature :=
  let s := s.propagate
  if s.isCandidate then
    match gs.recognizer? h s with
    | .ok (some g) => (.ok (some g), s.recognize)
    | .ok none => (.ok none, s)
    | .error e => (.error e, s)
  else (.ok none, s)

end Signature

end FluentThis
