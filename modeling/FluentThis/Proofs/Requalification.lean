import FluentThis.Program.Building
import FluentThis.Proofs.InferenceFailure
/-!
What inference may change. It writes into two places of a signature, the qualifier on the type to return and the one on
the receiver, and it writes nothing but `@This`. The first pass may change the very qualifier that a second pass reads.
Main statement: inference that succeeds keeps everything else, and a second pass finds the same generator and changes
nothing.
-/

namespace FluentThis

namespace Signature

/-- `s'` is `s` with `@This` written on the type to return or on the receiver, or on both, where `g` is the generator
that recognized the method. Without one the type to return keeps its qualifier, and the receiver takes on `@This` only
along with it. -/
structure Requalified (s : Signature) (g : Option Generator) (s' : Signature) : Prop where
  element : s'.element = s.element
  enclosing : s'.enclosing = s.enclosing
  name : s'.name = s.name
  kind : s'.kind = s.kind
  isStatic : s'.isStatic = s.isStatic
  returnType : s'.returns.map (·.identity) = s.returns.map (·.identity)
  receiverType : s'.receiver.map (·.identity) = s.receiver.map (·.identity)
  returnChanged : s'.returnQualifier ≠ s.returnQualifier → s'.returnQualifier = some .receiver ∧ g.isSome = true
  receiverChanged : s'.receiverQualifier ≠ s.receiverQualifier →
    s'.receiverQualifier = some .receiver ∧ s'.returnQualifier = some .receiver
  mirrored : s'.returnQualifier = some .receiver → s'.receiver.isSome = true → s'.receiverQualifier = some .receiver

variable {s s' : Signature} {g : Option Generator} {gs : GeneratorSet} {h : Host}

@[simp] theorem qualifyReturns_qualifyReturns (s : Signature) (q r : Qualifier) :
    (s.qualifyReturns q).qualifyReturns r = s.qualifyReturns r := by
  simp [qualifyReturns, Function.comp_def]

@[simp] theorem qualifyReceiver_qualifyReceiver (s : Signature) (q r : Qualifier) :
    (s.qualifyReceiver q).qualifyReceiver r = s.qualifyReceiver r := by
  simp [qualifyReceiver, Function.comp_def]

@[simp] theorem qualifyReturns_qualifyReceiver (s : Signature) (q r : Qualifier) :
    (s.qualifyReceiver q).qualifyReturns r = (s.qualifyReturns r).qualifyReceiver q := rfl

theorem recognize_recognize (s : Signature) : s.recognize.recognize = s.recognize := by
  simp [recognize]

/-- The receiver that a recognized signature takes on is the same whatever was on it before. -/
theorem recognize_propagate (s : Signature) : s.propagate.recognize = s.recognize := by
  rw [propagate_eq]
  split
  · simp [recognize]
  · rfl

theorem propagate_propagate (s : Signature) : s.propagate.propagate = s.propagate := by
  by_cases hq : s.returnQualifier = some .receiver
  · have hagain : (s.qualifyReceiver .receiver).returnQualifier = some .receiver := hq
    rw [propagate_eq s, if_pos hq, propagate_eq, if_pos hagain, qualifyReceiver_qualifyReceiver]
  · rw [propagate_eq s, if_neg hq, propagate_eq, if_neg hq]

/-- What is settled with one outcome is settled for good with it. -/
theorem settled_settled (s : Signature) (g : Option Generator) : (s.settled g).settled g = s.settled g := by
  cases g with
  | none => exact propagate_propagate s
  | some g => rw [settled, settled, recognize_propagate, recognize_propagate, recognize_recognize]

/-- The receiver takes on a qualifier only along with the type to return, and it cannot stay behind. -/
theorem receiverQualifier_settled_of_receiver {t : QualifiedType} (ht : s.returns = some t)
    (hq : (s.settled g).returnQualifier = some .receiver) (hr : s.receiver.isSome = true) :
    (s.settled g).receiverQualifier = some .receiver := by
  obtain ⟨r, hr⟩ := Option.isSome_iff_exists.1 hr
  rw [receiverQualifier_settled ht, if_pos hq, hr]
  rfl

theorem receiverQualifier_settled_of_static {t : QualifiedType} (ht : s.returns = some t) (hr : s.receiver = none) :
    (s.settled g).receiverQualifier = s.receiverQualifier := by
  rw [receiverQualifier_settled ht, receiverQualifier, hr]
  simp

theorem requalified_settled {t : QualifiedType} (ht : s.returns = some t) (g : Option Generator) :
    s.Requalified g (s.settled g) := by
  constructor
  case element => exact settled_element s g
  case enclosing => exact settled_enclosing s g
  case name => exact settled_name s g
  case kind => exact settled_kind s g
  case isStatic => exact settled_isStatic s g
  case returnType => exact settled_identity s g
  case receiverType => exact settled_receiverType s g
  case returnChanged =>
    intro hne
    rw [returnQualifier_settled ht] at hne ⊢
    cases g with
    | none => exact absurd (by simp [returnQualifier, ht]) hne
    | some g => exact ⟨rfl, rfl⟩
  case receiverChanged =>
    intro hne
    have hq : (s.settled g).returnQualifier = some .receiver := by
      by_contra hq
      rw [receiverQualifier_settled ht, if_neg hq] at hne
      exact hne rfl
    have hr : s.receiver.isSome = true := by
      by_contra hr
      exact hne (receiverQualifier_settled_of_static ht (Option.not_isSome_iff_eq_none.1 hr))
    exact ⟨receiverQualifier_settled_of_receiver ht hq hr, hq⟩
  case mirrored =>
    intro hq hr
    rw [isSome_receiver_settled] at hr
    exact receiverQualifier_settled_of_receiver ht hq hr

/-- A signature that has lost its type to return has nothing that could be written on the receiver. -/
theorem requalified_of_lost (hs : s.returns = none) : s.Requalified none s := by
  constructor
  case mirrored =>
    intro hq
    rw [returnQualifier, hs] at hq
    cases hq
  case returnChanged => exact fun hne => absurd rfl hne
  case receiverChanged => exact fun hne => absurd rfl hne
  all_goals rfl

end Signature

namespace Host

@[simp] theorem builder?_settled (h : Host) (g : Generator) (s : Signature) (outcome : Option Generator) :
    h.builder? g (s.settled outcome) = h.builder? g s := by
  cases g <;> simp [builder?, isLombokBuilder]

end Host

namespace Signature

variable {s s' : Signature} {g : Option Generator} {gs : GeneratorSet} {h : Host}

/-- Generators look at types and not at their qualifiers, so after inference they answer as before. -/
theorem recognizer?_settled {t t' : QualifiedType} (ht : t'.identity = t.identity) (gs : GeneratorSet) (h : Host) :
    (s.settled g).recognizer? gs h t' = s.recognizer? gs h t := by
  have hsame : (s.settled g).isRecognizedBy gs h t' = s.isRecognizedBy gs h t := by
    funext g'
    simp [isRecognizedBy, Generator.returnsBuilder, ht]
  rw [recognizer?, recognizer?, hsame]

/-- A second pass over a signature with a type to return ends as the first one did. -/
theorem infer_settled {t : QualifiedType} (ht : s.returns = some t) (gs : GeneratorSet) (h : Host) :
    (s.settled (s.recognizer? gs h t)).infer gs h =
      (.ok (s.recognizer? gs h t), s.settled (s.recognizer? gs h t)) := by
  have hidentity := settled_identity s (s.recognizer? gs h t)
  rw [ht] at hidentity
  obtain ⟨t', ht', hsame⟩ := Option.map_eq_some_iff.1 hidentity
  rw [infer_of_returns ht', recognizer?_settled hsame, settled_settled]

/-- Inference that succeeds writes `@This` on the type to return or on the receiver and changes nothing else: the first
only if a generator recognized the method, the second only along with the first and then always. A second pass
recognizes the method by the same generator and leaves the signature as it is. -/
theorem infer_requalifies {gs : GeneratorSet} {h : Host} {s s' : Signature} {g : Option Generator}
    (hi : s.infer gs h = (.ok g, s')) : s.Requalified g s' ∧ s'.infer gs h = (.ok g, s') := by
  cases ht : s.returns with
  | some t =>
      rw [infer_of_returns ht] at hi
      cases hi
      exact ⟨requalified_settled ht _, infer_settled ht gs h⟩
  | none =>
      have hsettled : s.settled none = s := propagate_of_lost ht
      have hi' := hi
      rw [infer_of_lost ht, hsettled] at hi'
      split at hi'
      · cases hi'
      · cases hi'
        exact ⟨requalified_of_lost ht, hi⟩

end Signature

namespace Program

/-- A builder that Lombok generated. -/
def generated : Source where
  types := [
    { name := "a.PetBuilder", annotations := [.named lombokGenerated]
      methods := [{ name := "set", returns := "a.PetBuilder", returnQualifier := some .bottom }] }]

/-- The signature of the only method, with a qualifier on the receiver too. -/
def generatedSetter : Signature :=
  (Signature.method ⟨1⟩ ⟨0⟩ "set" { identity := .declared ⟨0⟩, qualifier := some .bottom }).qualifyReceiver .unknown

theorem infer_requalifies_generated :
    generated.program.host.signature ⟨1⟩ =
        .ok (.method ⟨1⟩ ⟨0⟩ "set" { identity := .declared ⟨0⟩, qualifier := some .bottom }) ∧
      generatedSetter.infer .all generated.program.host = (.ok (some .lombok), generatedSetter.recognize) ∧
      generatedSetter.Requalified (some .lombok) generatedSetter.recognize ∧
      generatedSetter.recognize.returnQualifier ≠ generatedSetter.returnQualifier ∧
      generatedSetter.recognize.receiverQualifier ≠ generatedSetter.receiverQualifier ∧
      generatedSetter.recognize.infer .all generated.program.host =
        (.ok (some .lombok), generatedSetter.recognize) := by
  have hi : generatedSetter.infer .all generated.program.host = (.ok (some .lombok), generatedSetter.recognize) := rfl
  obtain ⟨hrequalified, hagain⟩ := Signature.infer_requalifies hi
  exact ⟨rfl, hi, hrequalified, by decide, by decide, hagain⟩

end Program

end FluentThis
