import FluentThis.Inference
import Mathlib.Data.List.Basic
/-!
What inference does to one signature. Asking the generators one after the other is a search through the active ones
while the signature has a type to return, and a single test when it has lost that type. `Host.inferred` is inference
on the declared signature of an element, as a function of the host alone.
-/

namespace FluentThis

namespace Signature

@[simp] theorem propagate_element (s : Signature) : s.propagate.element = s.element := by
  unfold propagate
  split <;> rfl

@[simp] theorem propagate_enclosing (s : Signature) : s.propagate.enclosing = s.enclosing := by
  unfold propagate
  split <;> rfl

@[simp] theorem propagate_name (s : Signature) : s.propagate.name = s.name := by
  unfold propagate
  split <;> rfl

@[simp] theorem propagate_kind (s : Signature) : s.propagate.kind = s.kind := by
  unfold propagate
  split <;> rfl

@[simp] theorem propagate_returns (s : Signature) : s.propagate.returns = s.returns := by
  unfold propagate
  split <;> rfl

@[simp] theorem propagate_isStatic (s : Signature) : s.propagate.isStatic = s.isStatic := by
  unfold propagate
  split <;> rfl

@[simp] theorem propagate_receiverType (s : Signature) :
    s.propagate.receiver.map (·.identity) = s.receiver.map (·.identity) := by
  unfold propagate
  split <;> simp [qualifyReceiver, Function.comp_def]

@[simp] theorem isCandidate_propagate (s : Signature) : s.propagate.isCandidate = s.isCandidate := by
  unfold propagate
  split <;> simp [isCandidate, qualifyReceiver]

/-- Propagation looks only at the qualifier on the type that is returned. -/
theorem propagate_eq (s : Signature) :
    s.propagate = if s.returnQualifier = some .receiver then s.qualifyReceiver .receiver else s := by
  have hq : s.returns.bind (·.qualifierIn .unknown) = s.returnQualifier := by simp [returnQualifier]
  rw [propagate, hq]

/-- The receiver of a propagated signature, told by the qualifier on the type that is returned. -/
theorem receiverQualifier_propagate (s : Signature) :
    s.propagate.receiverQualifier =
      if s.returnQualifier = some .receiver then s.receiver.map (fun _ => Qualifier.receiver)
      else s.receiverQualifier := by
  rw [propagate_eq]
  split
  · cases hr : s.receiver <;> simp [receiverQualifier, qualifyReceiver, hr]
  · rfl

@[simp] theorem recognize_enclosing (s : Signature) : s.recognize.enclosing = s.enclosing := rfl

@[simp] theorem recognize_name (s : Signature) : s.recognize.name = s.name := rfl

@[simp] theorem recognize_kind (s : Signature) : s.recognize.kind = s.kind := rfl

@[simp] theorem recognize_returns (s : Signature) :
    s.recognize.returns = s.returns.map (·.qualify .receiver) := rfl

/-- A signature after inference, by the generator that recognized it. -/
def settled (s : Signature) : Option Generator → Signature
  | some _ => s.propagate.recognize
  | none => s.propagate

@[simp] theorem settled_enclosing (s : Signature) (g : Option Generator) :
    (s.settled g).enclosing = s.enclosing := by
  cases g <;> simp [settled]

@[simp] theorem settled_name (s : Signature) (g : Option Generator) : (s.settled g).name = s.name := by
  cases g <;> simp [settled]

@[simp] theorem settled_kind (s : Signature) (g : Option Generator) : (s.settled g).kind = s.kind := by
  cases g <;> simp [settled]

@[simp] theorem settled_identity (s : Signature) (g : Option Generator) :
    (s.settled g).returns.map (·.identity) = s.returns.map (·.identity) := by
  cases g <;> simp [settled, Function.comp_def]

@[simp] theorem settled_element (s : Signature) (g : Option Generator) : (s.settled g).element = s.element := by
  cases g with
  | none => exact propagate_element s
  | some g => exact propagate_element s

@[simp] theorem settled_isStatic (s : Signature) (g : Option Generator) : (s.settled g).isStatic = s.isStatic := by
  cases g with
  | none => exact propagate_isStatic s
  | some g => exact propagate_isStatic s

@[simp] theorem settled_receiverType (s : Signature) (g : Option Generator) :
    (s.settled g).receiver.map (·.identity) = s.receiver.map (·.identity) := by
  rw [← propagate_receiverType s]
  cases g <;> simp [settled, recognize, qualifyReturns, qualifyReceiver, Function.comp_def]

@[simp] theorem isSome_receiver_settled (s : Signature) (g : Option Generator) :
    (s.settled g).receiver.isSome = s.receiver.isSome := by
  have hsome := congrArg Option.isSome (settled_receiverType s g)
  rwa [Option.isSome_map, Option.isSome_map] at hsome

@[simp] theorem isCandidate_settled (s : Signature) (g : Option Generator) :
    (s.settled g).isCandidate = s.isCandidate := by
  simp [isCandidate]

theorem returnQualifier_settled {s : Signature} {t : QualifiedType} (ht : s.returns = some t)
    (g : Option Generator) :
    (s.settled g).returnQualifier = if g.isSome then some .receiver else t.qualifier := by
  cases g <;> simp [settled, returnQualifier, ht]

/-- The receiver is `@This` exactly along with the type that is returned, and otherwise as it was declared. -/
theorem receiverQualifier_settled {s : Signature} {t : QualifiedType} (ht : s.returns = some t)
    (g : Option Generator) :
    (s.settled g).receiverQualifier =
      if (s.settled g).returnQualifier = some .receiver then s.receiver.map (fun _ => .receiver)
      else s.receiverQualifier := by
  rw [returnQualifier_settled ht]
  cases g with
  | none => simp [settled, receiverQualifier_propagate, returnQualifier, ht]
  | some g =>
      have hr := congrArg Option.isSome (propagate_receiverType s)
      rw [Option.isSome_map, Option.isSome_map] at hr
      cases hs : s.receiver <;> cases hp : s.propagate.receiver <;>
        simp_all [settled, receiverQualifier, recognize, qualifyReturns, qualifyReceiver]

end Signature

namespace Host

@[simp] theorem mention_propagate (h : Host) (s : Signature) : h.mention s.propagate = h.mention s := by
  simp [mention, Signature.mention]

/-- The builder of a method is told without any look at qualifiers. -/
@[simp] theorem builder?_propagate (h : Host) (g : Generator) (s : Signature) :
    h.builder? g s.propagate = h.builder? g s := by
  cases g <;> simp [builder?, isLombokBuilder]

end Host

namespace Generator

/-- Whether a method is one of a builder of the generator and `t`, the type that it returns, is exactly that
builder. -/
def returnsBuilder (h : Host) (s : Signature) (t : QualifiedType) (g : Generator) : Bool :=
  (h.builder? g s).any fun builder => t.identity = .declared builder

theorem returnsBuilder_iff {h : Host} {s : Signature} {t : QualifiedType} {g : Generator} :
    g.returnsBuilder h s t = true ↔ ∃ builder, h.builder? g s = some builder ∧ t.identity = .declared builder := by
  simp [returnsBuilder, Option.any_eq_true]

/-- With a type to return, a generator has an answer. -/
theorem recognizes_of_returns {h : Host} {s : Signature} {t : QualifiedType} (ht : s.returns = some t)
    (g : Generator) : g.recognizes h s = .ok (g.returnsBuilder h s t) := by
  cases hb : h.builder? g s with
  | none => simp [recognizes, returnsBuilder, hb]
  | some builder =>
      have he : (t.identity.element? == some builder) = decide (t.identity = .declared builder) := by
        rw [← Bool.coe_iff_coe]
        simp [TypeIdentity.element?_eq_some_iff]
      simp [recognizes, returnsBuilder, Signature.returnsElement, hb, ht, he]

/-- Without a type to return, a generator fails on every method of one of its builders and refuses all others. -/
theorem recognizes_of_lost {h : Host} {s : Signature} (hs : s.returns = none) (g : Generator) :
    g.recognizes h s =
      if (h.builder? g s).isSome then .error (.missingReturnType (h.mention s)) else .ok false := by
  cases hb : h.builder? g s with
  | none => simp [recognizes, hb]
  | some builder => simp [recognizes, Signature.returnsElement, hb, hs]

theorem firstRecognizing_of_returns {h : Host} {s : Signature} {t : QualifiedType} (ht : s.returns = some t)
    (gs : List Generator) : firstRecognizing h s gs = .ok (gs.find? (·.returnsBuilder h s t)) := by
  induction gs with
  | nil => rfl
  | cons g gs ih =>
      rw [firstRecognizing, recognizes_of_returns ht, List.find?_cons]
      cases hg : g.returnsBuilder h s t with
      | true => rfl
      | false => exact ih

theorem firstRecognizing_of_lost {h : Host} {s : Signature} (hs : s.returns = none) (gs : List Generator) :
    firstRecognizing h s gs =
      if gs.any (fun g => (h.builder? g s).isSome) then .error (.missingReturnType (h.mention s))
      else .ok none := by
  induction gs with
  | nil => rfl
  | cons g gs ih =>
      rw [firstRecognizing, recognizes_of_lost hs, List.any_cons]
      cases hg : (h.builder? g s).isSome with
      | true => simp
      | false => simpa using ih

end Generator

namespace Signature

/-- Whether a generator would recognize a signature that returns `t`: never a constructor or a static method. -/
def isRecognizedBy (gs : GeneratorSet) (h : Host) (s : Signature) (t : QualifiedType) (g : Generator) : Bool :=
  s.isCandidate && (gs.contains g && g.returnsBuilder h s t)

/-- The first generator that recognizes a signature that returns `t`. -/
def recognizer? (gs : GeneratorSet) (h : Host) (s : Signature) (t : QualifiedType) : Option Generator :=
  Generator.all.find? (s.isRecognizedBy gs h t)

/-- Inference on a signature with a type to return never fails. -/
theorem infer_of_returns {s : Signature} {t : QualifiedType} (ht : s.returns = some t) (gs : GeneratorSet)
    (h : Host) : s.infer gs h = (.ok (s.recognizer? gs h t), s.settled (s.recognizer? gs h t)) := by
  have hb (g : Generator) : g.returnsBuilder h s.propagate t = g.returnsBuilder h s t := by
    simp [Generator.returnsBuilder]
  have ht' : s.propagate.returns = some t := by rw [propagate_returns, ht]
  have hp : s.isRecognizedBy gs h t = fun g => s.isCandidate && (gs.contains g && g.returnsBuilder h s t) := rfl
  unfold infer recognizer?
  simp only [isCandidate_propagate, GeneratorSet.recognizer?, Generator.firstRecognizing_of_returns ht', hb,
    GeneratorSet.toList, List.find?_filter, Bool.decide_and, Bool.decide_eq_true, hp]
  cases s.isCandidate with
  | true =>
      simp only [Bool.true_and]
      cases Generator.all.find? fun g => gs.contains g && g.returnsBuilder h s t <;> rfl
  | false => rfl

/-- Whether inference looks at the type that a signature returns: an active generator wrote the method for one of its
builders. -/
def needsReturns (gs : GeneratorSet) (h : Host) (s : Signature) : Bool :=
  s.isCandidate && gs.toList.any fun g => (h.builder? g s).isSome

/-- Inference on a signature that has lost the type to return fails if it is looked for. -/
theorem infer_of_lost {s : Signature} (hs : s.returns = none) (gs : GeneratorSet) (h : Host) :
    s.infer gs h =
      (if s.needsReturns gs h then .error (.missingReturnType (h.mention s)) else .ok none, s.settled none) := by
  have hs' : s.propagate.returns = none := by rw [propagate_returns, hs]
  unfold infer needsReturns
  simp only [isCandidate_propagate, GeneratorSet.recognizer?, Generator.firstRecognizing_of_lost hs',
    Host.builder?_propagate, Host.mention_propagate]
  cases s.isCandidate with
  | true => cases gs.toList.any (fun g => (h.builder? g s).isSome) <;> rfl
  | false => rfl

end Signature

namespace Host

/-- The inferred signature of an element and the generator that recognized it. Nothing but the host is asked, and
nothing is remembered. -/
def inferred (h : Host) (gs : GeneratorSet) (id : ElementId) : Except Failure (Signature × Option Generator) :=
  match h.signature id with
  | .error e => .error e
  | .ok declared =>
    match declared.infer gs h with
    | (.error e, _) => .error e
    | (.ok g, s) => .ok (s, g)

theorem inferred_of_returns {h : Host} {id : ElementId} {s : Signature} {t : QualifiedType}
    (hs : h.signature id = .ok s) (ht : s.returns = some t) (gs : GeneratorSet) :
    h.inferred gs id = .ok (s.settled (s.recognizer? gs h t), s.recognizer? gs h t) := by
  simp only [inferred, hs, Signature.infer_of_returns ht]

theorem inferred_of_lost {h : Host} {id : ElementId} {s : Signature} (hs : h.signature id = .ok s)
    (hl : s.returns = none) (gs : GeneratorSet) :
    h.inferred gs id =
      if s.needsReturns gs h then .error (.missingReturnType (h.mention s)) else .ok (s.settled none, none) := by
  simp only [inferred, hs, Signature.infer_of_lost hl]
  cases s.needsReturns gs h <;> rfl

/-- The inferred signature of an element. -/
def inferredSignature (h : Host) (gs : GeneratorSet) (id : ElementId) : Except Failure Signature :=
  (h.inferred gs id).map Prod.fst

/-- The generator that recognized an element whose inference did not fail. -/
def recognizer? (h : Host) (gs : GeneratorSet) (id : ElementId) : Option Generator :=
  (h.inferred gs id).toOption.bind Prod.snd

section

variable {h : Host} {gs : GeneratorSet} {id : ElementId}

theorem inferredSignature_of_error {e : Failure} (he : h.inferred gs id = .error e) :
    h.inferredSignature gs id = .error e := by
  rw [inferredSignature, he]
  rfl

theorem inferredSignature_of_ok {s : Signature} {g : Option Generator} (hs : h.inferred gs id = .ok (s, g)) :
    h.inferredSignature gs id = .ok s := by
  rw [inferredSignature, hs]
  rfl

theorem recognizer?_of_ok {s : Signature} {g : Option Generator} (hs : h.inferred gs id = .ok (s, g)) :
    h.recognizer? gs id = g := by
  rw [recognizer?, hs]
  rfl

theorem inferred_of_inferredSignature_error {e : Failure} (he : h.inferredSignature gs id = .error e) :
    h.inferred gs id = .error e := by
  cases hi : h.inferred gs id with
  | error e' =>
      rw [inferredSignature_of_error hi] at he
      cases he
      rfl
  | ok result =>
      rw [inferredSignature_of_ok hi] at he
      cases he

/-- A generator recognizes an element exactly when inference on its declared signature tells so. -/
theorem recognizer?_eq_some_iff {g : Generator} :
    h.recognizer? gs id = some g ↔
      ∃ declared, h.signature id = .ok declared ∧ (declared.infer gs h).1 = .ok (some g) := by
  unfold recognizer? inferred
  cases hs : h.signature id with
  | error e => simp [Except.toOption]
  | ok declared =>
      rcases hi : declared.infer gs h with ⟨result, s⟩
      cases result <;> simp [hi, Except.toOption]

end

end Host

end FluentThis
