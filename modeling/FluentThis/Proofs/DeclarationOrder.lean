import FluentThis.Proofs.DeclaredEntries
import FluentThis.Proofs.Representation
import Mathlib.Data.List.Perm.Basic
/-!
The order of the types in a source. Another order gives the types other numbers, and that is all it does to a program:
the elements are the same up to a renumbering, and the report has the same entries type by type. Main statement: a
source and the same source in another order make a program together, and their programs and reports correspond.
-/

namespace FluentThis

/-- The type with the numbers in it changed. -/
def TypeIdentity.renumber (f : ElementId → ElementId) : TypeIdentity → TypeIdentity
  | array component => array (component.renumber f)
  | declared id => declared (f id)
  | t => t

/-- The element of a type with the numbers in it changed. -/
def TypeElement.renumber (f : ElementId → ElementId) (t : TypeElement) : TypeElement :=
  { t with superclass := t.superclass.renumber f, enclosing := t.enclosing.map f }

/-- The element of an executable with the numbers in it changed. -/
def ExecutableElement.renumber (f : ElementId → ElementId) (e : ExecutableElement) : ExecutableElement :=
  { e with owner := f e.owner, returns := { e.returns with identity := e.returns.identity.renumber f } }

/-- `q` is the program `p` with its types in another order: `f` gives the types of `p` the numbers they have in `q`,
and each type of the source keeps its element and those of its methods apart from the numbers in them. -/
structure Program.Renumbers (f : ElementId → ElementId) (ts us : List DeclaredType) (p q : Program) : Prop where
  names : ∀ name, q.type? name = (p.type? name).map f
  types : ∃ element : DeclaredType → TypeElement,
    p.types = ts.map element ∧ q.types = us.map fun t => (element t).renumber f
  executables : ∃ elements : DeclaredType → List ExecutableElement,
    (∀ t, (elements t).length = t.methods.length) ∧ p.executables = ts.flatMap elements ∧
      q.executables = us.flatMap fun t => (elements t).map (·.renumber f)

namespace TypeIdentity

theorem renumber_arrays (f : ElementId → ElementId) (t : TypeIdentity) (n : Nat) :
    (t.arrays n).renumber f = (t.renumber f).arrays n := by
  induction n with
  | zero => rfl
  | succ n ih => rw [arrays, arrays, renumber, ih]

end TypeIdentity

section

/-! Two scopes in which every name is found by the one when it is found by the other, under numbers that `f` relates. -/

variable {scope scope' : Scope} {f : ElementId → ElementId}
  (hf : ∀ name, scope'.find? name = (scope.find? name).map f)

include hf

theorem Scope.meaning_renumber (name : String) : scope'.meaning name = (scope.meaning name).renumber f := by
  unfold meaning
  by_cases hv : name = "void"
  · simp [hv, TypeIdentity.renumber]
  · by_cases hp : name ∈ primitives
    · simp [hv, hp, TypeIdentity.renumber]
    · rw [hf]
      cases scope.find? name <;> simp [hv, hp, TypeIdentity.renumber]

theorem Scope.resolve_renumber (text : String) : scope'.resolve text = (scope.resolve text).renumber f := by
  rw [resolve, resolve, TypeIdentity.renumber_arrays, meaning_renumber hf]

theorem Scope.enclosing?_renumber (name : String) : scope'.enclosing? name = (scope.enclosing? name).map f := by
  unfold enclosing?
  induction Name.outer name.toList with
  | nil => rfl
  | cons outer rest ih =>
      rw [List.findSome?_cons, List.findSome?_cons, hf]
      cases scope.find? (String.ofList outer) with
      | none => exact ih
      | some id => rfl

theorem DeclaredType.element_renumber (t : DeclaredType) : t.element scope' = (t.element scope).renumber f := by
  have hsuper : t.superclassIn scope' = (t.superclassIn scope).renumber f := by
    unfold superclassIn
    cases t.kind with
    | interfaceType => rfl
    | classType => exact Scope.resolve_renumber hf _
  rw [element, element, TypeElement.renumber, hsuper, Scope.enclosing?_renumber hf]

theorem DeclaredMethod.element_renumber (id : ElementId) (ownerName : String) (m : DeclaredMethod) :
    m.element scope' (f id) ownerName = (m.element scope id ownerName).renumber f := by
  have hreturn : m.returnIdentity scope' (f id) = (m.returnIdentity scope id).renumber f := by
    unfold returnIdentity
    cases m.kind with
    | constructor => rfl
    | method => exact Scope.resolve_renumber hf _
  rw [element, element, ExecutableElement.renumber, hreturn]

theorem DeclaredType.executables_renumber (id : ElementId) (t : DeclaredType) :
    t.executables scope' (f id) = (t.executables scope id).map (·.renumber f) := by
  simp only [executables, List.map_map, Function.comp_def, DeclaredMethod.element_renumber hf]

end

namespace Source

/-- The number of a type, told by its name. -/
def number (s : Source) (t : DeclaredType) : ElementId := (s.scope.find? t.trimmedName).getD ⟨0⟩

theorem number_of_getElem? {s : Source} (hn : s.scope.names.Nodup) {i : Nat} {t : DeclaredType}
    (ht : s.types[i]? = some t) : s.number t = ⟨i⟩ := by
  have hid : s.types[(ElementId.mk i).index]? = some t := ht
  rw [number, find?_trimmedName hn hid]
  rfl

/-- The executables of a program, type by type. -/
theorem program_executables_flatMap {s : Source} (hn : s.scope.names.Nodup) :
    s.program.executables = s.types.flatMap fun t => t.executables s.scope (s.number t) := by
  have hz : s.types.flatMap (fun t => t.executables s.scope (s.number t)) =
      (s.types.zipIdx.map Prod.fst).flatMap fun t => t.executables s.scope (s.number t) := by
    rw [List.zipIdx_map_fst]
  rw [hz, List.flatMap_map, program]
  apply List.flatMap_congr
  rintro ⟨t, i⟩ hm
  rw [number_of_getElem? hn ((List.mem_zipIdx_iff_getElem? ..).1 hm)]

/-- The number in `s'` of the type that has a number in `s`. -/
def renumbering (s s' : Source) (id : ElementId) : ElementId := (s'.scope.find? (s.typeName id)).getD id

section

variable {s s' : Source} (hperm : s.types.Perm s'.types)

include hperm

theorem names_perm : s.scope.names.Perm s'.scope.names := hperm.map _

/-- Whether a source makes a program does not depend on the order of its types. -/
theorem exists_ofSource_perm : (∃ p, Program.ofSource s = .ok p) ↔ ∃ p', Program.ofSource s' = .ok p' := by
  rw [Program.exists_ofSource_iff, Program.exists_ofSource_iff, (names_perm hperm).nodup_iff]
  simp only [hperm.mem_iff]

theorem find?_renumbering (name : String) :
    s'.scope.find? name = (s.scope.find? name).map (s.renumbering s') := by
  cases hf : s.scope.find? name with
  | none =>
      rw [Scope.find?_eq_none_iff, (names_perm hperm).mem_iff] at hf
      exact Scope.find?_eq_none_iff.2 hf
  | some id =>
      have hm : name ∈ s'.scope.names := (names_perm hperm).mem_iff.1 (Scope.mem_of_find? hf)
      obtain ⟨id', hf'⟩ := Scope.exists_find? hm
      rw [Option.map_some, renumbering, typeName_of_find? hf, hf']
      rfl

theorem renumbers_perm (hn : s.scope.names.Nodup) :
    Program.Renumbers (s.renumbering s') s.types s'.types s.program s'.program := by
  have hf := find?_renumbering hperm
  have hn' : s'.scope.names.Nodup := (names_perm hperm).nodup_iff.1 hn
  refine ⟨?_, ⟨fun t => t.element s.scope, rfl, ?_⟩, ⟨fun t => t.executables s.scope (s.number t), ?_, ?_, ?_⟩⟩
  · intro name
    rw [type?_program, type?_program]
    exact hf name
  · simp only [← DeclaredType.element_renumber hf]
    rfl
  · intro t
    simp [DeclaredType.executables]
  · exact program_executables_flatMap hn
  · rw [program_executables_flatMap hn']
    apply List.flatMap_congr
    intro t ht
    rw [← DeclaredType.executables_renumber hf]
    obtain ⟨id, hid⟩ := Scope.exists_find? (trimmedName_mem_scope (hperm.mem_iff.2 ht))
    have hnumber : s'.number t = s.renumbering s' (s.number t) := by
      rw [number, number, hf, hid]
      rfl
    rw [hnumber]

end

end Source

/-- Only the types that are there matter for an entry, not their order. -/
theorem DeclaredMethod.entry_perm {types types' : List DeclaredType} (hperm : types.Perm types') (gs : GeneratorSet)
    (t : DeclaredType) (m : DeclaredMethod) : m.entry gs types t = m.entry gs types' t := by
  apply entry_congr
  apply generator?_congr
  intro g _ _
  cases g with
  | autoValue => simp only [ReturnsBuilder, hperm.mem_iff]
  | lombok => rfl

namespace Report

/-- A search that can succeed at one member only. -/
theorem findSome?_eq_of_unique {α β : Type} {l : List α} {g : α → Option β} {x : α} (hx : x ∈ l)
    (h : ∀ y ∈ l, y ≠ x → g y = none) : l.findSome? g = g x := by
  induction l with
  | nil => cases hx
  | cons y l ih =>
      rw [List.findSome?_cons]
      by_cases hy : y = x
      · subst hy
        cases hg : g y with
        | some b => rfl
        | none =>
            refine List.findSome?_eq_none_iff.2 ?_
            intro z hz
            by_cases hzy : z = y
            · rw [hzy, hg]
            · exact h z (List.mem_cons_of_mem _ hz) hzy
      · rw [h y (List.mem_cons_self ..) hy]
        refine ih ((List.mem_cons.1 hx).resolve_left fun he => hy he.symm) ?_
        exact fun z hz => h z (List.mem_cons_of_mem _ hz)

/-- What is found in a report lies among the entries of the one type that has the name of the owner. -/
theorem find?_perm {types types' : List DeclaredType} (hperm : types.Perm types')
    (hn : (types.map DeclaredType.trimmedName).Nodup) {block : DeclaredType → List Entry}
    (hblock : ∀ t, ∀ e ∈ block t, e.owner = t.trimmedName) (owner name : String) :
    find? ⟨types'.flatMap block⟩ owner name = find? ⟨types.flatMap block⟩ owner name := by
  have hother (t : DeclaredType) (ht : t.trimmedName ≠ owner) :
      ((block t).find? fun e => e.owner == owner && e.name == name) = none := by
    rw [List.find?_eq_none]
    intro e he
    simp [hblock t e he, ht]
  unfold find?
  rw [List.find?_flatMap, List.find?_flatMap]
  by_cases hex : ∃ t ∈ types, t.trimmedName = owner
  · obtain ⟨t, ht, rfl⟩ := hex
    have hunique (u : DeclaredType) (hu : u ∈ types) (hne : u ≠ t) : u.trimmedName ≠ t.trimmedName :=
      fun he => hne (List.inj_on_of_nodup_map hn hu ht he)
    rw [findSome?_eq_of_unique (hperm.mem_iff.1 ht) fun u hu hne => hother u (hunique u (hperm.mem_iff.2 hu) hne),
      findSome?_eq_of_unique ht fun u hu hne => hother u (hunique u hu hne)]
  · have hnone : ∀ t ∈ types, ((block t).find? fun e => e.owner == owner && e.name == name) = none :=
      fun t ht => hother t fun he => hex ⟨t, ht, he⟩
    rw [List.findSome?_eq_none_iff.2 hnone, List.findSome?_eq_none_iff.2 fun t ht => hnone t (hperm.mem_iff.2 ht)]

end Report

namespace Program

/-- The order of the types does not matter. Of two sources with the same types in different orders both make programs
or neither does. The programs differ in the numbers of the types and in nothing else, and the reports, for any set of
active generators, have the same entries for each type, so that every search in them has the same result. -/
theorem order_of_types (s s' : Source) (hperm : s.types.Perm s'.types) :
    ((∃ p, ofSource s = .ok p) ↔ ∃ p', ofSource s' = .ok p') ∧
    ∀ p p', ofSource s = .ok p → ofSource s' = .ok p' →
      (∃ f, Renumbers f s.types s'.types p p') ∧
      ∀ gs, ∃ r r', ∃ block : DeclaredType → List Entry,
        Report.ofHost gs p.host = .ok r ∧ Report.ofHost gs p'.host = .ok r' ∧
        (∀ t, (block t).length = t.methods.length) ∧
        r.entries = s.types.flatMap block ∧ r'.entries = s'.types.flatMap block ∧
        ∀ owner name, r'.find? owner name = r.find? owner name := by
  refine ⟨Source.exists_ofSource_perm hperm, ?_⟩
  intro p p' hp hp'
  have hn := nodup_of_ofSource hp
  have hn' := nodup_of_ofSource hp'
  rw [eq_program_of_ofSource hp, eq_program_of_ofSource hp']
  refine ⟨⟨_, Source.renumbers_perm hperm hn⟩, ?_⟩
  intro gs
  have hr' : Report.ofHost gs s'.program.host =
      .ok ⟨s'.types.flatMap fun t => t.methods.map (·.entry gs s.types t)⟩ := by
    simp only [ofHost_program hn', ← DeclaredMethod.entry_perm hperm]
  refine ⟨_, _, fun t => t.methods.map (·.entry gs s.types t), ofHost_program hn gs, hr', ?_, rfl, rfl, ?_⟩
  · exact fun t => List.length_map ..
  · apply Report.find?_perm hperm hn
    intro t e he
    obtain ⟨m, _, rfl⟩ := List.mem_map.1 he
    rfl

/-- The builders with the one that implements the other declared first. -/
def buildersReversed : Source := ⟨builders.types.reverse⟩

theorem order_of_types_builders :
    builders.types.Perm buildersReversed.types ∧ ofSource builders = .ok builders.program ∧
      ofSource buildersReversed = .ok buildersReversed.program ∧
      ∃ r r', Report.ofHost .all builders.program.host = .ok r ∧
        Report.ofHost .all buildersReversed.program.host = .ok r' ∧
        r'.entries = r.entries.drop 3 ++ r.entries.take 3 ∧
        r'.find? "a.Made.Builder" "self" = r.find? "a.Made.Builder" "self" := by
  have hperm : builders.types.Perm buildersReversed.types := (List.reverse_perm _).symm
  have hp : ofSource builders = .ok builders.program := rfl
  have hp' : ofSource buildersReversed = .ok buildersReversed.program := rfl
  obtain ⟨_, hreports⟩ := (order_of_types builders buildersReversed hperm).2 _ _ hp hp'
  obtain ⟨r, r', block, hr, hr', hlength, he, he', hfind⟩ := hreports .all
  refine ⟨hperm, hp, hp', r, r', hr, hr', ?_, hfind _ _⟩
  have hfirst : r.entries = block builders.types[0] ++ (block builders.types[1] ++ []) := he
  have hsecond : r'.entries = block builders.types[1] ++ (block builders.types[0] ++ []) := he'
  have hthree : (block builders.types[0]).length = 3 := hlength _
  rw [hfirst, hsecond, ← hthree]
  simp

end Program

end FluentThis
