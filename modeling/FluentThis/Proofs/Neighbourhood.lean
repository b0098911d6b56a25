import FluentThis.Proofs.Inference
/-!
What inference on one signature sees of the program around it: how its type is called, what that type extends, and
whether the annotations that generators look for are on these two types and on the method. Main statement: holders of
programs that agree on this much lead to the same result and to the same signature.
-/

namespace FluentThis

namespace Host

/-- Two hosts agree on what is around a signature. It makes no difference to them which of the type and the method is
marked as generated, and nothing is asked of the type to return. -/
structure AgreesAround (h h' : Host) (s : Signature) : Prop where
  qualifiedName : h'.qualifiedName s.enclosing = h.qualifiedName s.enclosing
  simpleName : h'.simpleName s.enclosing = h.simpleName s.enclosing
  superclass : h'.superclass s.enclosing = h.superclass s.enclosing
  builder : h'.carries s.enclosing autoValueBuilder = true ↔ h.carries s.enclosing autoValueBuilder = true
  parent : ∀ parent, h.superclass s.enclosing = .declared parent →
    (h'.carries parent autoValueBuilder = true ↔ h.carries parent autoValueBuilder = true)
  generated : (h'.carries s.enclosing lombokGenerated = true ∨ h'.carries s.element lombokGenerated = true) ↔
    (h.carries s.enclosing lombokGenerated = true ∨ h.carries s.element lombokGenerated = true)

namespace AgreesAround

variable {h h' : Host} {s : Signature}

/-- Propagation changes qualifiers only, and none of them is around the signature. -/
theorem propagate (hs : h.AgreesAround h' s) : h.AgreesAround h' s.propagate := by
  constructor
  case qualifiedName => simpa using hs.qualifiedName
  case simpleName => simpa using hs.simpleName
  case superclass => simpa using hs.superclass
  case builder => simpa using hs.builder
  case parent => simpa using hs.parent
  case generated => simpa using hs.generated

theorem mention_eq (hs : h.AgreesAround h' s) : h'.mention s = h.mention s := by
  rw [mention, mention, Signature.mention, Signature.mention, hs.qualifiedName]

/-- A type that carries the annotation is its own builder, and otherwise its superclass decides; hosts that agree on
both cannot differ in a superclass of that one. -/
theorem autoValueBuilder?_eq (hs : h.AgreesAround h' s) :
    h'.autoValueBuilder? s.enclosing = h.autoValueBuilder? s.enclosing := by
  have hown := Bool.eq_iff_iff.2 hs.builder
  rw [autoValueBuilder?, autoValueBuilder?, hown, hs.superclass]
  split
  · rfl
  · cases hparent : (h.superclass s.enclosing).element? with
    | none => rfl
    | some parent =>
        have htagged := hs.parent parent (TypeIdentity.element?_eq_some_iff.1 hparent)
        rw [Option.filter_some, Option.filter_some, Bool.eq_iff_iff.2 htagged]

theorem isLombokBuilder_eq (hs : h.AgreesAround h' s) : h'.isLombokBuilder s = h.isLombokBuilder s := by
  have hgenerated := hs.generated
  rw [← Bool.or_eq_true, ← Bool.or_eq_true] at hgenerated
  rw [isLombokBuilder, isLombokBuilder, hs.simpleName, Bool.eq_iff_iff.2 hgenerated]

theorem builder?_eq (hs : h.AgreesAround h' s) (g : Generator) : h'.builder? g s = h.builder? g s := by
  cases g with
  | autoValue => exact hs.autoValueBuilder?_eq
  | lombok => rw [builder?, builder?, hs.isLombokBuilder_eq]

theorem recognizes_eq (hs : h.AgreesAround h' s) (g : Generator) : g.recognizes h' s = g.recognizes h s := by
  rw [Generator.recognizes, Generator.recognizes, hs.builder?_eq g]
  cases h.builder? g s with
  | none => rfl
  | some builder =>
      dsimp only
      rw [Signature.returnsElement, Signature.returnsElement, hs.mention_eq]

theorem firstRecognizing_eq (hs : h.AgreesAround h' s) (gs : List Generator) :
    Generator.firstRecognizing h' s gs = Generator.firstRecognizing h s gs := by
  induction gs with
  | nil => rfl
  | cons g gs ih => rw [Generator.firstRecognizing, Generator.firstRecognizing, hs.recognizes_eq g, ih]

end AgreesAround

end Host

namespace Signature

/-- Inference on a signature looks at nothing but what is around it. If two hosts agree on that, it succeeds or fails
in the same way with both, finds the same generator and leaves the same signature, whatever else sets the hosts apart:
other annotations, their order and whether they are resolved, the kinds of elements and what encloses them, superclasses
further up, and all other elements, those of the types to return included. -/
theorem infer_agrees_around (gs : GeneratorSet) (h h' : Host) (s : Signature) (hs : h.AgreesAround h' s) :
    s.infer gs h' = s.infer gs h := by
  have hpropagated := hs.propagate.firstRecognizing_eq gs.toList
  rw [infer, infer, GeneratorSet.recognizer?, GeneratorSet.recognizer?, hpropagated]

/-- A class that extends a builder, with a method that is marked as generated. -/
def quietHost : Host where
  kind id := if id = ⟨2⟩ then .method else .classType
  simpleName _ := "PetBuilder"
  qualifiedName id := if id = ⟨0⟩ then "a.PetBuilder" else "a.Pet"
  enclosing id := if id = ⟨2⟩ then some ⟨0⟩ else none
  superclass id := if id = ⟨0⟩ then .declared ⟨1⟩ else .noType
  annotations id :=
    if id = ⟨1⟩ then [⟨autoValueBuilder, true⟩] else if id = ⟨2⟩ then [⟨lombokGenerated, true⟩] else []
  executables := [⟨2⟩]
  signature id := .ok (.method id ⟨0⟩ "set" { identity := .declared ⟨1⟩ })

/-- A host that differs from it in all that is not around the method: here the class is marked and not the method, no
annotation is resolved, and the builder is an interface that extends the class. -/
def busyHost : Host where
  kind _ := .interfaceType
  simpleName id := if id = ⟨0⟩ then "PetBuilder" else "Cat"
  qualifiedName id := if id = ⟨0⟩ then "a.PetBuilder" else "b.Cat"
  enclosing _ := some ⟨1⟩
  superclass id := if id = ⟨0⟩ then .declared ⟨1⟩ else .declared ⟨0⟩
  annotations id :=
    if id = ⟨0⟩ then [⟨"b.Other", true⟩, ⟨lombokGenerated, false⟩]
    else if id = ⟨1⟩ then [⟨autoValueBuilder, false⟩, ⟨autoValueBuilder, false⟩] else []
  executables := []
  signature id := .error (.program (.unknownElement id))

theorem infer_agrees_around_busyHost :
    let set := method ⟨2⟩ ⟨0⟩ "set" { identity := .declared ⟨1⟩ }
    quietHost.AgreesAround busyHost set ∧ set.infer .all busyHost = set.infer .all quietHost ∧
      (set.infer .all busyHost).1 = .ok (some .autoValue) := by
  intro set
  have hs : quietHost.AgreesAround busyHost set := by
    constructor
    case qualifiedName => rfl
    case simpleName => rfl
    case superclass => rfl
    case builder => decide
    case parent =>
      intro parent hparent
      cases hparent
      decide
    case generated => decide
  exact ⟨hs, infer_agrees_around .all quietHost busyHost set hs, rfl⟩

end Signature

end FluentThis
