import FluentThis.Proofs.DottedNames
import FluentThis.Proofs.ProgramElements
import FluentThis.Proofs.ReportEntries
/-!
What is inferred about a program, told by its source. `Declaration.Infers` says of each declaration of a method which
entry it gets, by the annotations and references that are written down and without any element of the built program.
Main statement: the report on a built program has exactly these entries.
-/

namespace FluentThis

/-- AutoValue is asked first, so Lombok is found only where AutoValue is not. -/
theorem Generator.find?_all_eq_some_iff (p : Generator → Bool) :
    (all.find? p = some .autoValue ↔ p .autoValue = true) ∧
      (all.find? p = some .lombok ↔ ¬p .autoValue = true ∧ p .lombok = true) := by
  simp only [all, List.find?_cons, List.find?_nil]
  cases p .autoValue <;> cases p .lombok <;> simp

namespace Declaration

/-- The declaration returns the AutoValue builder that its type is or extends. The superclass counts only when the
type itself is not annotated, and then the type itself does not. -/
inductive ReturnsAutoValueBuilder (s : Source) (d : Declaration) : Prop where
  | own (tagged : Carried d.type.annotations autoValueBuilder) (returned : d.returned s = .declared d.owner)
  | inherited {parent : ElementId} {t : DeclaredType} (untagged : ¬Carried d.type.annotations autoValueBuilder)
      (isClass : d.type.kind = .classType)
      (superclass : s.scope.resolve (d.type.superclass.getD rootClass) = .declared parent)
      (declared : s.types[parent.index]? = some t) (tagged : Carried t.annotations autoValueBuilder)
      (returned : d.returned s = .declared parent)

/-- The declaration returns its type, which is named as a builder, and one of both is marked as generated. -/
structure ReturnsLombokBuilder (s : Source) (d : Declaration) : Prop where
  generated : Carried d.type.annotations lombokGenerated ∨ Carried d.method.annotations lombokGenerated
  builder : ∃ part, Name.IsLastPart d.type.trimmedName.toList part ∧ builderSuffix.toList <:+ part
  returned : d.returned s = .declared d.owner

/-- The condition on which a generator that is asked recognizes a declaration. -/
def ReturnsBuilder (s : Source) (d : Declaration) : Generator → Prop
  | .autoValue => d.ReturnsAutoValueBuilder s
  | .lombok => d.ReturnsLombokBuilder s

/-- The declaration can be recognized by a generator: it is active and the declaration, which is neither static nor a
constructor, returns one of its builders. -/
def Matches (gs : GeneratorSet) (s : Source) (d : Declaration) (g : Generator) : Prop :=
  g ∈ gs ∧ d.isInstance = true ∧ d.ReturnsBuilder s g

/-- The entry of a declaration. -/
structure Infers (gs : GeneratorSet) (s : Source) (d : Declaration) (e : Entry) : Prop where
  owner : e.owner = d.type.trimmedName
  name : e.name = d.method.elementName
  kind : e.kind = d.method.kind
  returnType : e.returnType = some ((d.returned s).display s.typeName)
  autoValue : e.generator = some .autoValue ↔ d.Matches gs s .autoValue
  lombok : e.generator = some .lombok ↔ ¬d.Matches gs s .autoValue ∧ d.Matches gs s .lombok
  returnQualifier : e.returnQualifier = if e.generator.isSome then some .receiver else d.method.returnQualifier
  receiverQualifier :
    e.receiverQualifier = if d.isInstance ∧ e.returnQualifier = some .receiver then some .receiver else none

end Declaration

namespace Host

variable {s : Source} {d : Declaration} {sig : Signature}

/-- AutoValue's condition on a signature of the built program is the one on the declaration. -/
theorem builder?_autoValue (ht : s.types[d.owner.index]? = some d.type) (he : sig.enclosing = d.owner) :
    (∃ b, s.program.host.builder? .autoValue sig = some b ∧ d.returned s = .declared b) ↔
      d.ReturnsAutoValueBuilder s := by
  have htag := Program.host_carries_type ht autoValueBuilder
  rw [builder?, he, autoValueBuilder?]
  by_cases hc : Carried d.type.annotations autoValueBuilder
  · rw [if_pos (htag.2 hc)]
    refine ⟨?_, ?_⟩
    · rintro ⟨b, hb, hr⟩
      cases hb
      exact .own hc hr
    · rintro (⟨_, hr⟩ | ⟨hu, _⟩)
      · exact ⟨d.owner, rfl, hr⟩
      · exact absurd hc hu
  · rw [if_neg fun h => hc (htag.1 h), Program.host_superclass ht]
    refine ⟨?_, ?_⟩
    · rintro ⟨b, hb, hr⟩
      obtain ⟨hel, hcb⟩ := Option.filter_eq_some_iff.1 hb
      rw [TypeIdentity.element?_eq_some_iff, DeclaredType.superclassIn_eq_declared_iff] at hel
      obtain ⟨hk, hs⟩ := hel
      -- the builder is a type of the source, because a reference means no other element
      have hm : (s.scope.resolve (d.type.superclass.getD rootClass)).Mentions b := by simp [hs]
      obtain ⟨t, hbt⟩ := Source.type_of_resolve hm
      exact .inherited hc hk hs hbt ((Program.host_carries_type hbt _).1 hcb) hr
    · rintro (⟨ho, _⟩ | ⟨_, hk, hs, hbt, hcb, hr⟩)
      · exact absurd ho hc
      · refine ⟨_, Option.filter_eq_some_iff.2 ⟨?_, (Program.host_carries_type hbt _).2 hcb⟩, hr⟩
        rw [TypeIdentity.element?_eq_some_iff, DeclaredType.superclassIn_eq_declared_iff]
        exact ⟨hk, hs⟩

theorem builder?_lombok (ht : s.types[d.owner.index]? = some d.type)
    (hd : s.program.element? sig.element = some (.executable (d.element s))) (he : sig.enclosing = d.owner) :
    (∃ b, s.program.host.builder? .lombok sig = some b ∧ d.returned s = .declared b) ↔
      d.ReturnsLombokBuilder s := by
  have hiff : s.program.host.isLombokBuilder sig = true ↔
      (Carried d.type.annotations lombokGenerated ∨ Carried d.method.annotations lombokGenerated) ∧
        ∃ part, Name.IsLastPart d.type.trimmedName.toList part ∧ builderSuffix.toList <:+ part := by
    simp only [Name.isLastPart_iff, exists_eq_left', isLombokBuilder, he, Program.host_simpleName ht,
      String.toList_ofList, Bool.and_eq_true, Bool.or_eq_true, Program.host_carries_type ht,
      Program.host_carries_executable hd, List.isSuffixOf_iff_suffix]
  rw [builder?]
  by_cases hl : s.program.host.isLombokBuilder sig = true
  · rw [if_pos hl, he]
    obtain ⟨hg, hb⟩ := hiff.1 hl
    refine ⟨?_, ?_⟩
    · rintro ⟨b, hb', hr⟩
      cases hb'
      exact ⟨hg, hb, hr⟩
    · exact fun h => ⟨d.owner, rfl, h.returned⟩
  · rw [if_neg hl]
    refine ⟨?_, ?_⟩
    · rintro ⟨b, hb, _⟩
      cases hb
    · exact fun h => absurd (hiff.2 ⟨h.generated, h.builder⟩) hl

end Host

namespace Declaration

variable {s : Source} {d : Declaration} {id : ElementId}

/-- The generators that can recognize the signature of a declaration are those that its source matches. -/
theorem isRecognizedBy_iff (ht : s.types[d.owner.index]? = some d.type)
    (hd : s.program.element? id = some (.executable (d.element s))) (gs : GeneratorSet) (g : Generator) :
    ((d.element s).signature id).isRecognizedBy gs s.program.host (d.element s).returns g = true ↔
      d.Matches gs s g := by
  have hbuilder : (∃ b, s.program.host.builder? g ((d.element s).signature id) = some b ∧
      d.returned s = .declared b) ↔ d.ReturnsBuilder s g := by
    cases g with
    | autoValue => exact Host.builder?_autoValue ht (by simp [element, DeclaredMethod.element])
    | lombok =>
        exact Host.builder?_lombok ht (by simpa using hd) (by simp [element, DeclaredMethod.element])
  have hinstance : ((d.element s).signature id).isCandidate = d.isInstance :=
    ExecutableElement.isCandidate_signature ..
  -- a match asks for the active generator first, recognition for the kind of the method
  rw [Signature.isRecognizedBy, hinstance, Bool.and_eq_true, Bool.and_eq_true, Generator.returnsBuilder_iff]
  exact and_left_comm.trans (and_congr Iff.rfl (and_congr Iff.rfl hbuilder))

theorem recognizer?_eq_autoValue_iff (ht : s.types[d.owner.index]? = some d.type)
    (hd : s.program.element? id = some (.executable (d.element s))) (gs : GeneratorSet) :
    ((d.element s).signature id).recognizer? gs s.program.host (d.element s).returns = some .autoValue ↔
      d.Matches gs s .autoValue := by
  rw [← isRecognizedBy_iff ht hd]
  exact (Generator.find?_all_eq_some_iff _).1

theorem recognizer?_eq_lombok_iff (ht : s.types[d.owner.index]? = some d.type)
    (hd : s.program.element? id = some (.executable (d.element s))) (gs : GeneratorSet) :
    ((d.element s).signature id).recognizer? gs s.program.host (d.element s).returns = some .lombok ↔
      ¬d.Matches gs s .autoValue ∧ d.Matches gs s .lombok := by
  rw [← isRecognizedBy_iff ht hd, ← isRecognizedBy_iff ht hd]
  exact (Generator.find?_all_eq_some_iff _).2

/-- The entry of one executable of a built program. -/
theorem infers_entry (hm : d ∈ s.declarations) (hd : s.program.element? id = some (.executable (d.element s)))
    (gs : GeneratorSet) : ∃ e, s.program.host.entry gs id = .ok e ∧ d.Infers gs s e := by
  have ht := (Source.mem_declarations hm).1
  have hret := ExecutableElement.returns_signature (d.element s) id
  have hentry := Host.inferred_of_returns (Program.host_signature hd) hret gs
  have hinstance : ((d.element s).signature id).receiver =
      if d.isInstance then some { identity := .declared d.owner } else none :=
    ExecutableElement.receiver_signature ..
  refine ⟨_, by rw [Host.entry, hentry]; rfl, ?_⟩
  constructor
  case owner =>
    simp only [Entry.ofSignature, Signature.settled_enclosing, ExecutableElement.enclosing_signature]
    exact Program.host_qualifiedName ht
  case name => simp only [Entry.ofSignature, Signature.settled_name, name_signature]
  case kind =>
    simp only [Entry.ofSignature, Signature.settled_kind, ExecutableElement.kind_signature]
    rfl
  case returnType =>
    rw [Entry.returnType_settled, hret, ← Program.display_returned hm]
    rfl
  case autoValue => exact recognizer?_eq_autoValue_iff ht hd gs
  case lombok => exact recognizer?_eq_lombok_iff ht hd gs
  case returnQualifier => exact Signature.returnQualifier_settled hret _
  case receiverQualifier =>
    simp only [Entry.ofSignature]
    rw [Signature.receiverQualifier_settled hret, Signature.receiverQualifier, hinstance]
    cases d.isInstance <;> simp

end Declaration

namespace Program

variable {gs : GeneratorSet} {s : Source}

theorem entries_of_elements {R : Declaration → Entry → Prop} {ids : List ElementId} {ds : List Declaration}
    (helements : List.Forall₂ (fun id d => s.program.element? id = some (.executable (d.element s))) ids ds)
    (hentry : ∀ d ∈ ds, ∀ id, s.program.element? id = some (.executable (d.element s)) →
      ∃ e, s.program.host.entry gs id = .ok e ∧ R d e) :
    ∃ es, List.Forall₂ (fun id e => s.program.host.entry gs id = .ok e) ids es ∧ List.Forall₂ R ds es := by
  induction helements with
  | nil => exact ⟨[], .nil, .nil⟩
  | cons hd _ ih =>
      obtain ⟨es, hids, hds⟩ := ih fun d hm => hentry d (List.mem_cons_of_mem _ hm)
      obtain ⟨e, he, hR⟩ := hentry _ (List.mem_cons_self ..) _ hd
      exact ⟨e :: es, .cons he hids, .cons hR hds⟩

/-- The report on a built program succeeds, with one entry for each declaration, if every declaration gets one. -/
theorem report_of_entries {R : Declaration → Entry → Prop}
    (hentry : ∀ d ∈ s.declarations, ∀ id, s.program.element? id = some (.executable (d.element s)) →
      ∃ e, s.program.host.entry gs id = .ok e ∧ R d e) :
    ∃ r, Report.ofHost gs s.program.host = .ok r ∧ List.Forall₂ R s.declarations r.entries := by
  obtain ⟨es, hids, hds⟩ := entries_of_elements s.forall₂_executableIds hentry
  exact ⟨⟨es⟩, Report.ofHost_eq_ok_iff.2 hids, hds⟩

/-- Inference over a whole program. The report on a program that is built from a source has one entry for each
declaration of a method, in the order of the declarations, and each is the one that the source determines, for any
set of active generators. -/
theorem report_infers (s : Source) (p : Program) (gs : GeneratorSet) (hp : ofSource s = .ok p) :
    ∃ r, Report.ofHost gs p.host = .ok r ∧
      List.Forall₂ (fun d e => d.Infers gs s e) s.declarations r.entries := by
  rw [eq_program_of_ofSource hp]
  exact report_of_entries fun d hm _ hd => Declaration.infers_entry hm hd gs

/-- A builder and a class that implements it, which is also marked as generated. -/
def builders : Source where
  types := [
    { name := " a.Pet.Builder", annotations := [.detailed autoValueBuilder false]
      methods := [
        { name := "set", returns := "a.Pet.Builder" },
        { name := "set", returns := "a.Pet.Builder[]" },
        { kind := .constructor }] },
    { name := "a.Made.Builder", superclass := some "a.Pet.Builder<T>", annotations := [.named lombokGenerated]
      methods := [
        { name := "set", returns := "a.Pet.Builder" },
        { name := "self", returns := "a.Made.Builder", returnQualifier := some .bottom },
        { name := "of", isStatic := true, returns := "a.Pet.Builder" }] }]

theorem report_infers_builders :
    ofSource builders = .ok builders.program ∧
      ∃ r, Report.ofHost .all builders.program.host = .ok r ∧
        r.entries.map (·.generator) = [some .autoValue, none, none, some .autoValue, some .lombok, none] ∧
        List.Forall₂ (fun d e => d.Infers .all builders e) builders.declarations r.entries := by
  have hp : ofSource builders = .ok builders.program := rfl
  obtain ⟨r, hr, hall⟩ := report_infers builders builders.program .all hp
  have hg : (Report.ofHost .all builders.program.host).toOption.map (·.entries.map (·.generator)) =
      some [some .autoValue, none, none, some .autoValue, some .lombok, none] := rfl
  rw [hr] at hg
  exact ⟨hp, r, hr, Option.some.inj hg, hall⟩

end Program

end FluentThis
