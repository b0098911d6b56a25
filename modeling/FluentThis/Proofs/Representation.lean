import FluentThis.Proofs.Acceptance
import Mathlib.Data.Set.Function
/-!
How a built program represents its source. The elements are numbered without gaps, names and types belong to each
other one to one, and whatever refers to an element refers to a type of the same program. Main statement: every
program that is built represents the source that it is built from.
-/

namespace FluentThis

namespace Program

def IsType (p : Program) (id : ElementId) : Prop := ∃ t, p.element? id = some (.type t)

def IsExecutable (p : Program) (id : ElementId) : Prop := ∃ e, p.element? id = some (.executable e)

/-- What inference may rely on in a program and what ties its elements to the declarations of the source. -/
structure Represents (p : Program) (s : Source) : Prop where
  size : p.size = s.types.length + s.declarations.length
  numbers : ∀ id, (∃ e, p.element? id = some e) ↔ id.index < p.size
  /-- The types have the first numbers, in order. -/
  types : ∀ i t, s.types[i]? = some t →
    p.IsType ⟨i⟩ ∧ p.host.qualifiedName ⟨i⟩ = t.trimmedName ∧ p.host.kind ⟨i⟩ = t.kind.elementKind
  /-- The executables have the numbers after those of the types, in order, and lie inside the types that declare
  them. -/
  executables : ∀ i d, s.declarations[i]? = some d →
    p.IsExecutable ⟨s.types.length + i⟩ ∧ p.host.simpleName ⟨s.types.length + i⟩ = d.method.elementName ∧
      p.host.kind ⟨s.types.length + i⟩ = d.method.kind.elementKind ∧
      p.host.enclosing ⟨s.types.length + i⟩ = some d.owner ∧ s.types[d.owner.index]? = some d.type
  named : ∀ name id, p.type? name = some id ↔ ∃ t, s.types[id.index]? = some t ∧ t.trimmedName = name
  oneToOne : Set.BijOn p.host.qualifiedName {id | p.IsType id} {name | ∃ id, p.type? name = some id}
  listed : ∀ id, id ∈ p.host.executables ↔ p.IsExecutable id
  ascending : p.host.executables.Pairwise fun id id' => id.index < id'.index
  superclasses : ∀ id id', (p.host.superclass id).Mentions id' → p.IsType id'
  enclosings : ∀ id id', p.host.enclosing id = some id' → p.IsType id'
  interfaces : ∀ id, p.host.kind id = .interfaceType → p.host.superclass id = .noType
  classes : ∀ id, p.IsType id → p.host.kind id = .classType →
    p.host.superclass id ≠ .noType ∧ p.host.superclass id ≠ .declared id
  signed : ∀ id, (∃ signature, p.host.signature id = .ok signature) ↔ p.IsExecutable id
  signatures : ∀ i d, s.declarations[i]? = some d → ∃ signature returned,
    p.host.signature ⟨s.types.length + i⟩ = .ok signature ∧ signature.element = ⟨s.types.length + i⟩ ∧
      signature.enclosing = d.owner ∧ signature.returns = some returned ∧
      (∀ id, returned.identity.Mentions id → p.IsType id) ∧
      signature.receiver = if d.isInstance then some { identity := .declared d.owner, qualifier := none } else none

end Program

namespace Source

variable {s : Source} {id : ElementId} {i : Nat} {d : Declaration}

theorem length_program_executables (s : Source) : s.program.executables.length = s.declarations.length := by
  rw [program_executables, List.length_map]

theorem size_program (s : Source) : s.program.size = s.types.length + s.declarations.length := by
  rw [Program.size, length_program_types, length_program_executables]

/-- An element of the program is that of a type or of a declaration of a method. -/
theorem element?_cases {e : Element} (he : s.program.element? id = some e) :
    (∃ t, s.types[id.index]? = some t ∧ e = .type (t.element s.scope)) ∨
      ∃ i d, id = ⟨s.types.length + i⟩ ∧ s.declarations[i]? = some d ∧ e = .executable (d.element s) := by
  cases ht : s.types[id.index]? with
  | some t =>
      rw [element?_type ht] at he
      cases he
      exact .inl ⟨t, rfl, rfl⟩
  | none =>
      have hle : s.types.length ≤ id.index := List.getElem?_eq_none_iff.1 ht
      have hnone : s.program.types[id.index]? = none := by
        rw [List.getElem?_eq_none_iff, length_program_types]
        exact hle
      have hid : id = ⟨s.types.length + (id.index - s.types.length)⟩ := by
        rw [Nat.add_sub_cancel' hle]
      simp only [Program.element?, hnone, length_program_types, program_executables, List.getElem?_map,
        Option.map_map, Option.map_eq_some_iff] at he
      obtain ⟨d, hd, rfl⟩ := he
      exact .inr ⟨_, d, hid, hd, rfl⟩

theorem isType_iff : s.program.IsType id ↔ ∃ t, s.types[id.index]? = some t := by
  refine ⟨?_, fun ⟨t, ht⟩ => ⟨_, element?_type ht⟩⟩
  rintro ⟨e, he⟩
  obtain ⟨t, ht, _⟩ | ⟨_, _, _, _, hex⟩ := element?_cases he
  · exact ⟨t, ht⟩
  · cases hex

theorem isExecutable_iff : s.program.IsExecutable id ↔ ∃ i d, id = ⟨s.types.length + i⟩ ∧ s.declarations[i]? = some d := by
  refine ⟨?_, ?_⟩
  · rintro ⟨e, he⟩
    obtain ⟨_, _, hty⟩ | ⟨i, d, hid, hd, _⟩ := element?_cases he
    · cases hty
    · exact ⟨i, d, hid, hd⟩
  · rintro ⟨i, d, rfl, hd⟩
    exact ⟨_, element?_declaration hd⟩

theorem numbers_program (s : Source) (id : ElementId) :
    (∃ e, s.program.element? id = some e) ↔ id.index < s.program.size := by
  rw [Program.element?_eq_getElem?, ← Program.length_elements]
  exact ⟨fun ⟨_, he⟩ => (List.getElem?_eq_some_iff.1 he).1, fun hlt => ⟨_, List.getElem?_eq_getElem hlt⟩⟩

/-- The types of the program are found by the names that references use. -/
theorem type?_program (s : Source) (name : String) : s.program.type? name = s.scope.find? name := by
  rw [Program.type?, Scope.find?, List.idxOf?, scope, List.findIdx?_map, program, List.findIdx?_map]
  rfl

theorem named_program (hn : s.scope.names.Nodup) (name : String) (id : ElementId) :
    s.program.type? name = some id ↔ ∃ t, s.types[id.index]? = some t ∧ t.trimmedName = name := by
  rw [type?_program, Scope.find?_eq_some_iff hn, getElem?_scope_names, Option.map_eq_some_iff]

theorem oneToOne_program (hn : s.scope.names.Nodup) :
    Set.BijOn s.program.host.qualifiedName {id | s.program.IsType id} {name | ∃ id, s.program.type? name = some id} := by
  refine ⟨?_, ?_, ?_⟩
  · intro id hid
    obtain ⟨t, ht⟩ := isType_iff.1 hid
    refine ⟨id, (named_program hn _ id).2 ⟨t, ht, ?_⟩⟩
    rw [Program.host_qualifiedName ht]
  · intro id hid id' hid' he
    obtain ⟨t, ht⟩ := isType_iff.1 hid
    obtain ⟨t', ht'⟩ := isType_iff.1 hid'
    rw [Program.host_qualifiedName ht, Program.host_qualifiedName ht'] at he
    have hf := find?_trimmedName hn ht
    rw [he, find?_trimmedName hn ht'] at hf
    exact (Option.some.inj hf).symm
  · rintro name ⟨id, hid⟩
    obtain ⟨t, ht, rfl⟩ := (named_program hn name id).1 hid
    exact ⟨id, isType_iff.2 ⟨t, ht⟩, Program.host_qualifiedName ht⟩

theorem listed_program (s : Source) (id : ElementId) : id ∈ s.program.host.executables ↔ s.program.IsExecutable id := by
  rw [isExecutable_iff]
  simp only [Program.host, Program.executableIds, List.mem_map, List.mem_range, length_program_types,
    length_program_executables]
  refine ⟨?_, ?_⟩
  · rintro ⟨i, hi, rfl⟩
    exact ⟨i, s.declarations[i], rfl, List.getElem?_eq_getElem hi⟩
  · rintro ⟨i, d, rfl, hd⟩
    exact ⟨i, (List.getElem?_eq_some_iff.1 hd).1, rfl⟩

theorem ascending_program (s : Source) :
    s.program.host.executables.Pairwise fun id id' => id.index < id'.index := by
  simp only [Program.host, Program.executableIds, List.pairwise_map]
  exact List.pairwise_lt_range.imp fun h => Nat.add_lt_add_left h _

theorem superclasses_program {id' : ElementId} (hm : (s.program.host.superclass id).Mentions id') :
    s.program.IsType id' := by
  cases he : s.program.element? id with
  | none =>
      simp only [Program.host, he] at hm
      cases hm
  | some e =>
      simp only [Program.host, he, Option.map_some, Option.getD_some] at hm
      obtain ⟨t, _, rfl⟩ | ⟨_, _, _, _, rfl⟩ := element?_cases he
      · simp only [Element.superclass, DeclaredType.element, DeclaredType.superclassIn] at hm
        split at hm
        · cases hm
        · exact isType_iff.2 (type_of_resolve hm)
      · cases hm

theorem enclosings_program {id' : ElementId} (he' : s.program.host.enclosing id = some id') : s.program.IsType id' := by
  have hbind : (s.program.element? id).bind Element.enclosing = some id' := he'
  obtain ⟨e, he, hee⟩ := Option.bind_eq_some_iff.1 hbind
  obtain ⟨t, _, rfl⟩ | ⟨_, d, _, hd, rfl⟩ := element?_cases he
  · simp only [Element.enclosing, DeclaredType.element] at hee
    obtain ⟨name, hf⟩ := Scope.find?_of_enclosing? hee
    obtain ⟨t', ht', _⟩ := type_of_find? hf
    exact isType_iff.2 ⟨t', ht'⟩
  · cases hee
    exact isType_iff.2 ⟨d.type, (mem_declarations (List.mem_of_getElem? hd)).1⟩

theorem interfaces_program (hk : s.program.host.kind id = .interfaceType) :
    s.program.host.superclass id = .noType := by
  cases he : s.program.element? id with
  | none => simp [Program.host, he]
  | some e =>
      simp only [Program.host, he, Option.map_some, Option.getD_some] at hk ⊢
      obtain ⟨t, _, rfl⟩ | ⟨_, _, _, _, rfl⟩ := element?_cases he
      · cases hkind : t.kind with
        | classType => simp [Element.kind, DeclaredType.element, hkind, TypeKind.elementKind] at hk
        | interfaceType => simp [Element.superclass, DeclaredType.element, DeclaredType.superclassIn, hkind]
      · rfl

/-- A class has a superclass, and never itself. -/
theorem classes_program (hn : s.scope.names.Nodup) (hsound : ∀ t ∈ s.types, t.Sound) (hid : s.program.IsType id)
    (hk : s.program.host.kind id = .classType) :
    s.program.host.superclass id ≠ .noType ∧ s.program.host.superclass id ≠ .declared id := by
  obtain ⟨t, ht⟩ := isType_iff.1 hid
  have hkind : t.kind = .classType := by
    simp only [Program.host, element?_type ht, Option.map_some, Option.getD_some] at hk
    cases htk : t.kind with
    | classType => rfl
    | interfaceType => simp [Element.kind, DeclaredType.element, htk, TypeKind.elementKind] at hk
  rw [Program.host_superclass ht]
  refine ⟨?_, ?_⟩
  · simp only [DeclaredType.superclassIn, hkind]
    exact Scope.resolve_ne_noType _ _
  · intro hself
    obtain ⟨_, hr⟩ := DeclaredType.superclassIn_eq_declared_iff.1 hself
    rw [resolve_eq_declared_iff_refersTo hn ht] at hr
    exact (hsound t (List.mem_of_getElem? ht)).extension hkind hr

theorem signed_program (s : Source) (id : ElementId) :
    (∃ signature, s.program.host.signature id = .ok signature) ↔ s.program.IsExecutable id := by
  simp only [Program.host, Program.signature, Program.IsExecutable]
  cases s.program.element? id with
  | none => simp
  | some e => cases e <;> simp

theorem signatures_program (hd : s.declarations[i]? = some d) :
    ∃ signature returned, s.program.host.signature ⟨s.types.length + i⟩ = .ok signature ∧
      signature.element = ⟨s.types.length + i⟩ ∧ signature.enclosing = d.owner ∧ signature.returns = some returned ∧
      (∀ id, returned.identity.Mentions id → s.program.IsType id) ∧
      signature.receiver = if d.isInstance then some { identity := .declared d.owner, qualifier := none } else none := by
  refine ⟨_, (d.element s).returns, Program.host_signature (element?_declaration hd), by simp, ?_, by simp, ?_, ?_⟩
  · rw [ExecutableElement.enclosing_signature]
    rfl
  · intro id hm
    exact isType_iff.2 (type_of_returned (List.mem_of_getElem? hd) hm)
  · exact ExecutableElement.receiver_signature ..

end Source

namespace Program

/-- Every program that is built represents its source. -/
theorem represents_of_ofSource {s : Source} {p : Program} (hp : ofSource s = .ok p) : p.Represents s := by
  have hn := nodup_of_ofSource hp
  have hsound : ∀ t ∈ s.types, t.Sound := fun t ht => sound_of_ofSource hp ht
  rw [eq_program_of_ofSource hp]
  constructor
  case size => exact s.size_program
  case numbers => exact s.numbers_program
  case types =>
    intro i t ht
    have hel : s.program.element? ⟨i⟩ = some (.type (t.element s.scope)) := Source.element?_type ht
    refine ⟨Source.isType_iff.2 ⟨t, ht⟩, host_qualifiedName ht, ?_⟩
    simp [host, hel, Element.kind, DeclaredType.element]
  case executables =>
    intro i d hd
    have hel := Source.element?_declaration hd
    refine ⟨⟨_, hel⟩, ?_⟩
    have howner := (Source.mem_declarations (List.mem_of_getElem? hd)).1
    simp [host, hel, Element.simpleName, Element.kind, Element.enclosing, Declaration.element, DeclaredMethod.element,
      howner]
  case named => exact Source.named_program hn
  case oneToOne => exact Source.oneToOne_program hn
  case listed => exact s.listed_program
  case ascending => exact s.ascending_program
  case superclasses => exact fun _ _ hm => Source.superclasses_program hm
  case enclosings => exact fun _ _ he => Source.enclosings_program he
  case interfaces => exact fun _ hk => Source.interfaces_program hk
  case classes => exact fun _ hid hk => Source.classes_program hn hsound hid hk
  case signed => exact s.signed_program
  case signatures => exact fun _ _ hd => Source.signatures_program hd

/-- A type inside one that is declared after it, with arrays of that one and a static method that refers back. -/
def nested : Source where
  types := [
    { name := "a.Outer.Inner ", superclass := some "a.Outer<T>"
      methods := [{ name := "all", returns := "a.Outer [] []" }, { kind := .constructor }] },
    { name := "a.Outer", methods := [{ name := "of", isStatic := true, returns := "a.Outer.Inner" }] },
    { name := "a.Shape", kind := .interfaceType }]

theorem represents_of_ofSource_nested :
    ofSource nested = .ok nested.program ∧ nested.program.Represents nested ∧ nested.program.size = 6 ∧
      nested.program.type? "a.Outer.Inner" = some ⟨0⟩ ∧ nested.program.IsExecutable ⟨5⟩ ∧
      nested.program.host.enclosing ⟨5⟩ = some ⟨1⟩ ∧
      nested.program.host.superclass ⟨0⟩ ≠ .declared ⟨0⟩ := by
  have hp : ofSource nested = .ok nested.program := rfl
  have h : nested.program.Represents nested := represents_of_ofSource hp
  obtain ⟨hexec, _, _, henclosing, _⟩ := h.executables 2 ⟨⟨1⟩, nested.types[1], nested.types[1].methods[0]⟩ rfl
  obtain ⟨htype, _, hkind⟩ := h.types 0 nested.types[0] rfl
  have hname : nested.types[0].trimmedName = "a.Outer.Inner" := rfl
  refine ⟨hp, h, h.size, ?_, hexec, henclosing, (h.classes ⟨0⟩ htype hkind).2⟩
  rw [h.named]
  exact ⟨_, rfl, hname⟩

end Program

end FluentThis
