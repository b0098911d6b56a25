import FluentThis.Proofs.ProgramElements
import Mathlib.Data.List.Nodup
import Mathlib.Logic.Function.Iterate
/-!
References told by names. The type that a reference means depends on a program only through the names of its types,
and what is displayed of a reference does not depend on the program at all.
-/

namespace FluentThis

/-- A text that means the type of the given name wherever a type has that name: no array is made of it, and the name
is none of the words that cannot be taken by a type. -/
def RefersTo (text name : String) : Prop :=
  (TypeReference.ofChars text.toList).dimensions = 0 ∧ String.ofList (TypeReference.ofChars text.toList).base = name ∧
    name ≠ "void" ∧ name ∉ Scope.primitives

instance (text name : String) : Decidable (RefersTo text name) := inferInstanceAs (Decidable (_ ∧ _ ∧ _ ∧ _))

namespace TypeIdentity

theorem arrays_eq_declared_iff {t : TypeIdentity} {n : Nat} {id : ElementId} :
    t.arrays n = .declared id ↔ n = 0 ∧ t = .declared id := by
  cases n <;> simp [arrays]

theorem arrays_ne_noType {t : TypeIdentity} (ht : t ≠ .noType) (n : Nat) : t.arrays n ≠ .noType := by
  cases n with
  | zero => exact ht
  | succ n => simp [arrays]

theorem display_arrays (nameOf : ElementId → String) (t : TypeIdentity) (n : Nat) :
    (t.arrays n).display nameOf = (· ++ "[]")^[n] (t.display nameOf) := by
  induction n with
  | zero => rfl
  | succ n ih => rw [arrays, display, ih, Function.iterate_succ_apply']

end TypeIdentity

/-- How a reference is displayed: the name of the type with a pair of brackets for each array. -/
def TypeReference.display (r : TypeReference) : String := (· ++ "[]")^[r.dimensions] (String.ofList r.base)

namespace Scope

variable {scope : Scope} {text name : String} {id : ElementId}

/-- A name is found exactly where it stands, if no other type has it. -/
theorem find?_eq_some_iff (hn : scope.names.Nodup) : scope.find? name = some id ↔ scope.names[id.index]? = some name := by
  refine ⟨getElem?_of_find?, ?_⟩
  intro hid
  obtain ⟨hlt, hname⟩ := List.getElem?_eq_some_iff.1 hid
  have hidx : scope.names.idxOf? name = some id.index := by
    refine List.idxOf?_eq_some_iff.2 ⟨hlt, by simpa using hname, ?_⟩
    intro j hj hjname
    have hjlt : j < scope.names.length := Nat.lt_trans hj hlt
    have hsame : scope.names[j] = scope.names[id.index] := by rw [hname]; simpa using hjname
    exact absurd ((hn.getElem_inj_iff).1 hsame) (Nat.ne_of_lt hj)
  rw [find?, hidx]
  rfl

theorem exists_find? (hm : name ∈ scope.names) : ∃ id, scope.find? name = some id := by
  rw [← Option.isSome_iff_exists, Option.isSome_iff_ne_none, Ne, find?_eq_none_iff, not_not]
  exact hm

theorem mem_of_find? (h : scope.find? name = some id) : name ∈ scope.names :=
  List.mem_of_getElem? (getElem?_of_find? h)

/-- What encloses a name is found by some name. -/
theorem find?_of_enclosing? (h : scope.enclosing? name = some id) : ∃ outer, scope.find? outer = some id := by
  obtain ⟨outer, _, hf⟩ := List.exists_of_findSome?_eq_some h
  exact ⟨_, hf⟩

theorem meaning_eq_declared_iff :
    scope.meaning name = .declared id ↔ (name ≠ "void" ∧ name ∉ primitives) ∧ scope.find? name = some id := by
  unfold meaning
  by_cases hv : name = "void"
  · simp [hv]
  · by_cases hp : name ∈ primitives
    · simp [hv, hp]
    · cases hf : scope.find? name <;> simp [hv, hp]

/-- A reference means a type of the program exactly when it refers to the name of that type. -/
theorem resolve_eq_declared_iff :
    scope.resolve text = .declared id ↔ ∃ name, RefersTo text name ∧ scope.find? name = some id := by
  rw [resolve, TypeIdentity.arrays_eq_declared_iff, meaning_eq_declared_iff]
  refine ⟨?_, ?_⟩
  · rintro ⟨hd, hfree, hf⟩
    exact ⟨_, ⟨hd, rfl, hfree⟩, hf⟩
  · rintro ⟨name, ⟨hd, rfl, hfree⟩, hf⟩
    exact ⟨hd, hfree, hf⟩

theorem meaning_ne_noType (scope : Scope) (name : String) : scope.meaning name ≠ .noType := by
  unfold meaning
  split
  · simp
  · split
    · simp
    · split <;> simp

/-- Every reference means some type. -/
theorem resolve_ne_noType (scope : Scope) (text : String) : scope.resolve text ≠ .noType :=
  TypeIdentity.arrays_ne_noType (scope.meaning_ne_noType _) _

/-- What a name means is displayed as that name, whatever types there are. -/
theorem display_meaning {nameOf : ElementId → String} (hname : ∀ name id, scope.find? name = some id → nameOf id = name)
    (name : String) : (scope.meaning name).display nameOf = name := by
  unfold meaning
  by_cases hv : name = "void"
  · simp [hv, TypeIdentity.display]
  · by_cases hp : name ∈ primitives
    · simp [hv, hp, TypeIdentity.display]
    · cases hf : scope.find? name with
      | none => simp [hv, hp, TypeIdentity.display]
      | some id => simp [hv, hp, TypeIdentity.display, hname name id hf]

theorem display_resolve {nameOf : ElementId → String} (hname : ∀ name id, scope.find? name = some id → nameOf id = name)
    (text : String) : (scope.resolve text).display nameOf = (TypeReference.ofChars text.toList).display := by
  rw [resolve, TypeIdentity.display_arrays, display_meaning hname, TypeReference.display]

end Scope

namespace Source

variable {s : Source} {t : DeclaredType} {id : ElementId}

theorem getElem?_scope_names (s : Source) (i : Nat) : s.scope.names[i]? = (s.types[i]?).map DeclaredType.trimmedName := by
  simp [scope]

theorem trimmedName_mem_scope (ht : t ∈ s.types) : t.trimmedName ∈ s.scope.names :=
  List.mem_map_of_mem ht

theorem typeName_of_find? {name : String} (hf : s.scope.find? name = some id) : s.typeName id = name := by
  have hget := Scope.getElem?_of_find? hf
  rw [getElem?_scope_names] at hget
  rw [typeName, hget]
  rfl

theorem find?_trimmedName (hn : s.scope.names.Nodup) (ht : s.types[id.index]? = some t) :
    s.scope.find? t.trimmedName = some id := by
  rw [Scope.find?_eq_some_iff hn, getElem?_scope_names, ht]
  rfl

/-- What is found is a type that has the name. -/
theorem type_of_find? {name : String} (hf : s.scope.find? name = some id) :
    ∃ t, s.types[id.index]? = some t ∧ t.trimmedName = name := by
  have hget := Scope.getElem?_of_find? hf
  rw [getElem?_scope_names, Option.map_eq_some_iff] at hget
  exact hget

/-- A reference means a declared type exactly when it refers to the name of that type. -/
theorem resolve_eq_declared_iff_refersTo (hn : s.scope.names.Nodup) (ht : s.types[id.index]? = some t) {text : String} :
    s.scope.resolve text = .declared id ↔ RefersTo text t.trimmedName := by
  rw [Scope.resolve_eq_declared_iff]
  refine ⟨?_, fun hr => ⟨_, hr, find?_trimmedName hn ht⟩⟩
  rintro ⟨name, hr, hf⟩
  obtain ⟨t', ht', rfl⟩ := type_of_find? hf
  rw [ht] at ht'
  cases ht'
  exact hr

end Source

end FluentThis
