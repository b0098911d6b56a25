import FluentThis.Proofs.Acceptance
import FluentThis.Proofs.ProgramInference
/-!
Reports read off declarations. The entry of a method is told by the texts of the method and of the type around it; of
the other types it matters only whether the method is one of a builder that they declare. The elements of a built
program and their numbers do not appear here. Main statement: the report on a program that is built lists the entries
of its declarations.
-/

namespace FluentThis

instance (annotations : List DeclaredAnnotation) (name : String) : Decidable (Carried annotations name) :=
  inferInstanceAs (Decidable (∃ a ∈ annotations, _))

/-- `b` is the AutoValue builder whose methods `t` declares or implements: `t` itself or else, where `t` is not
annotated, the type that `t` extends. -/
def DeclaredType.Implements (t b : DeclaredType) : Prop :=
  Carried b.annotations autoValueBuilder ∧
    (b = t ∨ ¬Carried t.annotations autoValueBuilder ∧ t.kind = .classType ∧
      RefersTo (t.superclass.getD rootClass) b.trimmedName)

instance (t b : DeclaredType) : Decidable (t.Implements b) := inferInstanceAs (Decidable (_ ∧ _))

namespace DeclaredMethod

/-- Whether the method is called on a receiver. -/
def hasReceiver (m : DeclaredMethod) : Bool := m.kind == .method && !m.isStatic

/-- The condition on which a generator that is asked recognizes `m` as a method of `t`, told by names. -/
def ReturnsBuilder (types : List DeclaredType) (t : DeclaredType) (m : DeclaredMethod) : Generator → Prop
  | .autoValue => ∃ b ∈ types, t.Implements b ∧ RefersTo m.returns b.trimmedName
  | .lombok => (Carried t.annotations lombokGenerated ∨ Carried m.annotations lombokGenerated) ∧
      builderSuffix.toList <:+ Name.simple t.trimmedName.toList ∧ RefersTo m.returns t.trimmedName

instance (types : List DeclaredType) (t : DeclaredType) (m : DeclaredMethod) :
    DecidablePred (m.ReturnsBuilder types t)
  | .autoValue => inferInstanceAs (Decidable (∃ b ∈ types, _))
  | .lombok => inferInstanceAs (Decidable (_ ∧ _))

/-- Whether an active generator can recognize `m` as a method of `t`. -/
def isRecognizedBy (gs : GeneratorSet) (types : List DeclaredType) (t : DeclaredType) (m : DeclaredMethod)
    (g : Generator) : Bool :=
  gs.contains g && (m.hasReceiver && decide (m.ReturnsBuilder types t g))

/-- The generator that recognizes a method of `t`. -/
def generator? (gs : GeneratorSet) (types : List DeclaredType) (t : DeclaredType) (m : DeclaredMethod) :
    Option Generator :=
  Generator.all.find? (m.isRecognizedBy gs types t)

/-- How the type that a method of `t` returns is displayed. -/
def returnDisplay (t : DeclaredType) (m : DeclaredMethod) : String :=
  match m.kind with
  | .constructor => t.trimmedName
  | .method => (TypeReference.ofChars m.returns.toList).display

/-- The qualifier on the type to return that is left by inference, where `g` is the generator that was found. -/
def inferredReturn (m : DeclaredMethod) (g : Option Generator) : Option Qualifier :=
  if g.isSome then some .receiver else m.returnQualifier

/-- The entry of a method of `t` in a report on the given types. -/
def entry (gs : GeneratorSet) (types : List DeclaredType) (t : DeclaredType) (m : DeclaredMethod) : Entry where
  owner := t.trimmedName
  name := m.elementName
  kind := m.kind
  returnType := some (m.returnDisplay t)
  returnQualifier := m.inferredReturn (m.generator? gs types t)
  receiverQualifier :=
    if m.hasReceiver ∧ m.inferredReturn (m.generator? gs types t) = some .receiver then some .receiver else none
  generator := m.generator? gs types t

/-- Only the generator that is found can make a difference between two entries of a method. -/
theorem entry_congr {gs : GeneratorSet} {types types' : List DeclaredType} {t : DeclaredType} {m : DeclaredMethod}
    (h : m.generator? gs types t = m.generator? gs types' t) : m.entry gs types t = m.entry gs types' t := by
  simp only [entry, h]

theorem isRecognizedBy_iff {gs : GeneratorSet} {types : List DeclaredType} {t : DeclaredType} {m : DeclaredMethod}
    {g : Generator} :
    m.isRecognizedBy gs types t g = true ↔ g ∈ gs ∧ m.hasReceiver = true ∧ m.ReturnsBuilder types t g := by
  rw [isRecognizedBy, Bool.and_eq_true, Bool.and_eq_true, decide_eq_true_iff]
  rfl

/-- Other types make no difference to the generator that is found if the active ones cannot tell them apart. -/
theorem generator?_congr {gs : GeneratorSet} {types types' : List DeclaredType} {t : DeclaredType} {m : DeclaredMethod}
    (h : ∀ g ∈ gs, m.hasReceiver = true → (m.ReturnsBuilder types t g ↔ m.ReturnsBuilder types' t g)) :
    m.generator? gs types t = m.generator? gs types' t := by
  have hrec : m.isRecognizedBy gs types t = m.isRecognizedBy gs types' t := by
    funext g
    rw [← Bool.coe_iff_coe, isRecognizedBy_iff, isRecognizedBy_iff]
    exact and_congr_right fun hg => and_congr_right fun hr => h g hg hr
  rw [generator?, generator?, hrec]

theorem kind_of_hasReceiver {m : DeclaredMethod} (hr : m.hasReceiver = true) : m.kind = .method := by
  rw [hasReceiver, Bool.and_eq_true, beq_iff_eq] at hr
  exact hr.1

/-- The entries of a method that is AutoValue's. -/
theorem entry_autoValue {gs : GeneratorSet} {types : List DeclaredType} {t : DeclaredType} {m : DeclaredMethod}
    (hg : Generator.autoValue ∈ gs) (hr : m.hasReceiver = true) (hb : m.ReturnsBuilder types t .autoValue) :
    (m.entry gs types t).generator = some .autoValue ∧ (m.entry gs types t).returnQualifier = some .receiver ∧
      (m.entry gs types t).receiverQualifier = some .receiver := by
  have hfound : m.generator? gs types t = some .autoValue := by
    refine (Generator.find?_all_eq_some_iff _).1.2 ?_
    exact isRecognizedBy_iff.2 ⟨hg, hr, hb⟩
  simp [entry, hfound, inferredReturn, hr]

end DeclaredMethod

namespace Source

theorem display_returnIdentity {s : Source} {t : DeclaredType} {id : ElementId} (ht : s.types[id.index]? = some t)
    (m : DeclaredMethod) : (m.returnIdentity s.scope id).display s.typeName = m.returnDisplay t := by
  unfold DeclaredMethod.returnIdentity DeclaredMethod.returnDisplay
  cases m.kind with
  | method => exact Scope.display_resolve (fun _ _ hf => typeName_of_find? hf) _
  | constructor => simp [TypeIdentity.display, typeName, ht]

end Source

namespace Declaration

variable {gs : GeneratorSet} {s : Source} {d : Declaration}

theorem returned_eq_declared_iff (hn : s.scope.names.Nodup) (hk : d.method.kind = .method) {id : ElementId}
    {t : DeclaredType} (ht : s.types[id.index]? = some t) :
    d.returned s = .declared id ↔ RefersTo d.method.returns t.trimmedName := by
  rw [← Source.resolve_eq_declared_iff_refersTo hn ht, returned, DeclaredMethod.returnIdentity, hk]

theorem returnsAutoValueBuilder_iff (hn : s.scope.names.Nodup) (hk : d.method.kind = .method)
    (ht : s.types[d.owner.index]? = some d.type) :
    d.ReturnsAutoValueBuilder s ↔
      ∃ b ∈ s.types, d.type.Implements b ∧ RefersTo d.method.returns b.trimmedName := by
  refine ⟨?_, ?_⟩
  · rintro (⟨htag, hret⟩ | ⟨huntag, hclass, hsuper, hb, htag, hret⟩)
    · exact ⟨d.type, List.mem_of_getElem? ht, ⟨htag, .inl rfl⟩, (returned_eq_declared_iff hn hk ht).1 hret⟩
    · refine ⟨_, List.mem_of_getElem? hb, ⟨htag, .inr ⟨huntag, hclass, ?_⟩⟩, ?_⟩
      · exact (Source.resolve_eq_declared_iff_refersTo hn hb).1 hsuper
      · exact (returned_eq_declared_iff hn hk hb).1 hret
  · rintro ⟨b, hb, ⟨htag, hb'⟩, hret⟩
    obtain rfl | ⟨huntag, hclass, hsuper⟩ := hb'
    · exact .own htag ((returned_eq_declared_iff hn hk ht).2 hret)
    · obtain ⟨i, hi⟩ := List.getElem?_of_mem hb
      have hi' : s.types[(ElementId.mk i).index]? = some b := hi
      refine .inherited huntag hclass ?_ hi' htag ((returned_eq_declared_iff hn hk hi').2 hret)
      exact (Source.resolve_eq_declared_iff_refersTo hn hi').2 hsuper

theorem returnsLombokBuilder_iff (hn : s.scope.names.Nodup) (hk : d.method.kind = .method)
    (ht : s.types[d.owner.index]? = some d.type) :
    d.ReturnsLombokBuilder s ↔ d.method.ReturnsBuilder s.types d.type .lombok := by
  have hpart : (∃ part, Name.IsLastPart d.type.trimmedName.toList part ∧ builderSuffix.toList <:+ part) ↔
      builderSuffix.toList <:+ Name.simple d.type.trimmedName.toList := by
    simp only [Name.isLastPart_iff, exists_eq_left']
  refine ⟨?_, ?_⟩
  · rintro ⟨hg, hb, hret⟩
    exact ⟨hg, hpart.1 hb, (returned_eq_declared_iff hn hk ht).1 hret⟩
  · rintro ⟨hg, hb, hret⟩
    exact ⟨hg, hpart.2 hb, (returned_eq_declared_iff hn hk ht).2 hret⟩

theorem returnsBuilder_iff (hn : s.scope.names.Nodup) (hk : d.method.kind = .method)
    (ht : s.types[d.owner.index]? = some d.type) (g : Generator) :
    d.ReturnsBuilder s g ↔ d.method.ReturnsBuilder s.types d.type g := by
  cases g with
  | autoValue => exact returnsAutoValueBuilder_iff hn hk ht
  | lombok => exact returnsLombokBuilder_iff hn hk ht

/-- The generators that a declaration matches in the built program are those that its text matches. -/
theorem matches_iff (hn : s.scope.names.Nodup) (ht : s.types[d.owner.index]? = some d.type) (g : Generator) :
    d.Matches gs s g ↔ d.method.isRecognizedBy gs s.types d.type g = true := by
  rw [DeclaredMethod.isRecognizedBy_iff]
  refine and_congr Iff.rfl (and_congr_right ?_)
  intro hr
  exact returnsBuilder_iff hn (DeclaredMethod.kind_of_hasReceiver hr) ht g

theorem entry_of_infers (hn : s.scope.names.Nodup) (hm : d ∈ s.declarations) {e : Entry} (he : d.Infers gs s e) :
    e = d.method.entry gs s.types d.type := by
  have ht := (Source.mem_declarations hm).1
  have hg : e.generator = d.method.generator? gs s.types d.type := by
    apply Option.ext
    intro g
    cases g with
    | autoValue =>
        rw [he.autoValue, matches_iff hn ht]
        exact (Generator.find?_all_eq_some_iff _).1.symm
    | lombok =>
        rw [he.lombok, matches_iff hn ht, matches_iff hn ht]
        exact (Generator.find?_all_eq_some_iff _).2.symm
  have hreturn : e.returnQualifier = d.method.inferredReturn (d.method.generator? gs s.types d.type) := by
    rw [he.returnQualifier, hg, DeclaredMethod.inferredReturn]
  have hreceiver := he.receiverQualifier
  rw [hreturn] at hreceiver
  have hdisplay : (d.returned s).display s.typeName = d.method.returnDisplay d.type :=
    Source.display_returnIdentity ht d.method
  cases e
  simp only [DeclaredMethod.entry, Entry.mk.injEq]
  exact ⟨he.owner, he.name, he.kind, he.returnType.trans (congrArg some hdisplay), hreturn, hreceiver, hg⟩

end Declaration

namespace Program

/-- The report on a built program, without the program. -/
theorem ofHost_program {s : Source} (hn : s.scope.names.Nodup) (gs : GeneratorSet) :
    Report.ofHost gs s.program.host = .ok ⟨s.types.flatMap fun t => t.methods.map (·.entry gs s.types t)⟩ := by
  have hentry : ∀ d ∈ s.declarations, ∀ id, s.program.element? id = some (.executable (d.element s)) →
      ∃ e, s.program.host.entry gs id = .ok e ∧ d.method.entry gs s.types d.type = e := by
    intro d hm id hd
    obtain ⟨e, he, hi⟩ := Declaration.infers_entry hm hd gs
    exact ⟨e, he, (Declaration.entry_of_infers hn hm hi).symm⟩
  obtain ⟨r, hr, hall⟩ := report_of_entries hentry
  have hmap := List.forall₂_map_left_iff.2 hall
  rw [List.forall₂_eq_eq_eq, Source.map_declarations s fun t m => m.entry gs s.types t] at hmap
  rw [hr, hmap]

end Program

end FluentThis
