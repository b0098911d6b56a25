import FluentThis.Proofs.DeclaredEntries
import FluentThis.Proofs.Representation
/-!
Looking up an executable by the names of its type and of itself. A program compares the numbers of types and the names
of elements, a report the names in its entries; both come down to the first declaration that has the names. Main
statement: what is found in a report is the entry at the position of the executable that is found in the program.
-/

namespace FluentThis

/-- A search by position sees nothing but the members. -/
theorem findIdx?_congr {α : Type} {p q : α → Bool} {xs : List α} (h : ∀ x ∈ xs, p x = q x) :
    xs.findIdx? p = xs.findIdx? q := by
  induction xs with
  | nil => rfl
  | cons x xs ih =>
      obtain ⟨hx, hrest⟩ := List.forall_mem_cons.1 h
      rw [List.findIdx?_cons, List.findIdx?_cons, hx, ih hrest]

/-- Whether a method is declared under a name in the type of the given name. Both names are compared as they are. -/
def Declaration.answersTo (owner name : String) (d : Declaration) : Bool :=
  d.type.trimmedName == owner && d.method.elementName == name

namespace Source

/-- The position of the first method that is declared under a name in the type of the given name. -/
def position? (s : Source) (owner name : String) : Option Nat := s.declarations.findIdx? (·.answersTo owner name)

variable {s : Source} {owner name : String}

/-- Names tell types apart, so they can be compared instead of numbers. -/
theorem owner_eq_iff (hn : s.scope.names.Nodup) {d : Declaration} (hd : d ∈ s.declarations) {id : ElementId}
    (hid : s.scope.find? owner = some id) : d.owner = id ↔ d.type.trimmedName = owner := by
  have ht := find?_trimmedName hn (mem_declarations hd).1
  constructor
  · rintro rfl
    exact Option.some.inj ((Scope.getElem?_of_find? ht).symm.trans (Scope.getElem?_of_find? hid))
  · rintro rfl
    exact Option.some.inj (ht.symm.trans hid)

/-- Nothing is declared in a type that is not found. -/
theorem position?_of_undeclared (hnone : s.scope.find? owner = none) : s.position? owner name = none := by
  rw [position?, List.findIdx?_eq_none_iff]
  intro d hd
  have hmem := trimmedName_mem_scope (List.mem_of_getElem? (mem_declarations hd).1)
  have hne : d.type.trimmedName ≠ owner := by
    rintro rfl
    exact Scope.find?_eq_none_iff.1 hnone hmem
  simp [Declaration.answersTo, hne]

/-- The numbers of the executables follow those of the types. -/
theorem executable?_eq (hn : s.scope.names.Nodup) (owner name : String) :
    s.program.executable? owner name = (s.position? owner name).map fun i => ⟨s.types.length + i⟩ := by
  rw [Program.executable?, type?_program, program_executables, length_program_types]
  cases hid : s.scope.find? owner with
  | none =>
      rw [position?_of_undeclared hid]
      rfl
  | some id =>
      have hsame : s.position? owner name = s.declarations.findIdx? fun d =>
          (d.element s).owner == id && (d.element s).name == name := by
        apply findIdx?_congr
        intro d hd
        rw [Declaration.answersTo, ← beq_eq_beq.2 (owner_eq_iff hn hd hid)]
        rfl
      simp only [Option.bind_eq_bind, Option.bind_some, List.findIdx?_map, Function.comp_def, hsame]
      rw [Option.map_eq_bind]
      rfl

/-- The executables are listed in the order of their declarations. -/
theorem executables_program (s : Source) :
    s.program.host.executables = (List.range s.declarations.length).map fun i => ⟨s.types.length + i⟩ := by
  simp only [Program.host, Program.executableIds, length_program_types, length_program_executables]

theorem getElem?_executables {i : Nat} {id : ElementId} :
    s.program.host.executables[i]? = some id ↔ i < s.declarations.length ∧ id = ⟨s.types.length + i⟩ := by
  rw [executables_program, List.getElem?_map, Option.map_eq_some_iff]
  simp only [List.getElem?_eq_some_iff, List.length_range, List.getElem_range, exists_prop]
  constructor
  · rintro ⟨_, ⟨hi, rfl⟩, rfl⟩
    exact ⟨hi, rfl⟩
  · rintro ⟨hi, rfl⟩
    exact ⟨i, ⟨hi, rfl⟩, rfl⟩

theorem position?_eq_none_iff :
    s.position? owner name = none ↔
      ∀ t ∈ s.types, ∀ m ∈ t.methods, ¬(t.trimmedName = owner ∧ m.elementName = name) := by
  have hanswers : (∀ b ∈ s.declarations.map (·.answersTo owner name), b = false) ↔
      ∀ d ∈ s.declarations, d.answersTo owner name = false := List.forall_mem_map
  have hmap := map_declarations s fun t m => t.trimmedName == owner && m.elementName == name
  rw [position?, List.findIdx?_eq_none_iff, ← hanswers]
  simp only [Declaration.answersTo, hmap, List.mem_flatMap, List.mem_map]
  simp

end Source

namespace Report

variable {s : Source} {r : Report} {gs : GeneratorSet}

/-- Entries are found by the names of their declarations. -/
theorem find?_eq (hr : r.entries = s.declarations.map fun d => d.method.entry gs s.types d.type) (owner name : String) :
    r.find? owner name = (s.position? owner name).bind fun i => r.entries[i]? := by
  rw [find?, List.find?_eq_bind_findIdx?_getElem?, hr, List.findIdx?_map]
  rfl

/-- Looking up an executable in a report agrees with looking it up in the program that is reported on. Nothing is found
in the one exactly if nothing is found in the other, which is when no type of that name declares a method of that name,
both compared as they are. Otherwise what is found in the report is the entry at the position that the executable found
in the program has among all executables. -/
theorem find_agrees (s : Source) (p : Program) (gs : GeneratorSet) (hp : Program.ofSource s = .ok p) :
    ∃ r, ofHost gs p.host = .ok r ∧ r.entries.length = p.host.executables.length ∧
      ∀ owner name,
        (r.find? owner name = none ↔ p.executable? owner name = none) ∧
          (p.executable? owner name = none ↔
            ∀ t ∈ s.types, ∀ m ∈ t.methods, ¬(t.trimmedName = owner ∧ m.elementName = name)) ∧
          ∀ id, p.executable? owner name = some id →
            id ∈ p.host.executables ∧
              ∀ i : Nat, p.host.executables[i]? = some id → r.find? owner name = r.entries[i]? := by
  have hn := Program.nodup_of_ofSource hp
  rw [Program.eq_program_of_ofSource hp]
  obtain ⟨r, hr⟩ : ∃ r : Report, r.entries = s.declarations.map fun d => d.method.entry gs s.types d.type := ⟨⟨_⟩, rfl⟩
  have hreport : ofHost gs s.program.host = .ok r := by
    rw [Program.ofHost_program hn gs, ← Source.map_declarations s fun t m => m.entry gs s.types t, ← hr]
  have hlength : s.program.host.executables.length = s.declarations.length := by
    rw [Source.executables_program, List.length_map, List.length_range]
  refine ⟨r, hreport, by rw [hr, List.length_map, hlength], fun owner name => ?_⟩
  rw [find?_eq hr, Source.executable?_eq hn, Option.map_eq_none_iff, ← Source.position?_eq_none_iff]
  cases hposition : s.position? owner name with
  | none => simp
  | some k =>
      obtain ⟨hk, _⟩ := List.findIdx?_eq_some_iff_getElem.1 hposition
      refine ⟨?_, Iff.rfl, ?_⟩
      · simp [hr, hk]
      · rintro id ⟨⟩
        refine ⟨List.mem_of_getElem? (Source.getElem?_executables.2 ⟨hk, rfl⟩), ?_⟩
        intro i hi
        obtain ⟨_, hid⟩ := Source.getElem?_executables.1 hi
        rw [Nat.add_left_cancel (ElementId.mk.inj hid), Option.bind_some]

/-- Constructors, a method with the name of constructors in front of them, and overloaded methods, one of them with
blanks around its name. -/
def overloaded : Source where
  types := [
    { name := "a.B", methods := [{ kind := .constructor }] },
    { name := " a.A",
      methods := [
        { name := "<init>", returns := "int" }, { kind := .constructor }, { kind := .constructor },
        { name := " set", returns := "a.A" }, { name := "set" }] }]

theorem find_agrees_overloaded :
    Program.ofSource overloaded = .ok overloaded.program ∧
      ∃ r, ofHost .all overloaded.program.host = .ok r ∧ r.find? "a.A" "<init>" = r.entries[1]? ∧
        r.find? "a.A" "set" = r.entries[4]? ∧ r.find? " a.A" "set" = none ∧ r.find? "a.A" " set" = none ∧
        r.find? "a.C" "<init>" = none := by
  have hp : Program.ofSource overloaded = .ok overloaded.program := rfl
  obtain ⟨r, hr, _, hfind⟩ := find_agrees overloaded overloaded.program .all hp
  have hinit : overloaded.program.executable? "a.A" "<init>" = some ⟨3⟩ := by decide
  have hset : overloaded.program.executable? "a.A" "set" = some ⟨6⟩ := by decide
  refine ⟨hp, r, hr, ?_, ?_, ?_, ?_, ?_⟩
  · exact ((hfind "a.A" "<init>").2.2 ⟨3⟩ hinit).2 1 rfl
  · exact ((hfind "a.A" "set").2.2 ⟨6⟩ hset).2 4 rfl
  · exact (hfind " a.A" "set").1.2 (by decide)
  · exact (hfind "a.A" " set").1.2 (by decide)
  · exact (hfind "a.C" "<init>").1.2 (by decide)

end Report

end FluentThis
