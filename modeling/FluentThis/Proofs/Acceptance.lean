import FluentThis.Proofs.TypeNames
/-!
The sources that make a program. Each type has to be sound by itself, and no two types may have one name; nothing else
about the other types matters.
-/

namespace FluentThis

namespace DeclaredType

/-- What a type needs by itself: a name, no superclass in an interface and not itself as the superclass of a class,
names for its methods, and no constructor that is static. -/
structure Sound (t : DeclaredType) : Prop where
  named : t.trimmedName ≠ ""
  interface : t.kind = .interfaceType → t.superclass = none
  extension : t.kind = .classType → ¬RefersTo (t.superclass.getD rootClass) t.trimmedName
  constructors : ∀ m ∈ t.methods, m.kind = .constructor → m.isStatic = false
  methods : ∀ m ∈ t.methods, m.kind = .method → m.elementName ≠ ""

end DeclaredType

theorem DeclaredMethod.fault?_eq_none_iff {m : DeclaredMethod} {owner : String} :
    m.fault? owner = none ↔
      (m.kind = .constructor → m.isStatic = false) ∧ (m.kind = .method → m.elementName ≠ "") := by
  unfold fault?
  cases m.kind with
  | method => simp
  | constructor => simp

namespace DeclaredType

variable {t : DeclaredType}

theorem methodFault?_eq_none_iff :
    t.methodFault? = none ↔
      (∀ m ∈ t.methods, m.kind = .constructor → m.isStatic = false) ∧
        ∀ m ∈ t.methods, m.kind = .method → m.elementName ≠ "" := by
  rw [methodFault?, List.findSome?_eq_none_iff, ← forall₂_and]
  simp only [DeclaredMethod.fault?_eq_none_iff]

/-- A class extends itself when the reference to its superclass refers to its name. -/
theorem superclassFault?_eq_none_iff {scope : Scope} (hm : t.trimmedName ∈ scope.names) :
    t.superclassFault? scope = none ↔
      (t.kind = .interfaceType → t.superclass = none) ∧
        (t.kind = .classType → ¬RefersTo (t.superclass.getD rootClass) t.trimmedName) := by
  unfold superclassFault? superclassIn
  cases t.kind with
  | interfaceType => simp
  | classType =>
      have hself : (∃ id, (scope.resolve (t.superclass.getD rootClass)).element? = some id ∧
          scope.find? t.trimmedName = some id) ↔ RefersTo (t.superclass.getD rootClass) t.trimmedName := by
        simp only [TypeIdentity.element?_eq_some_iff, Scope.resolve_eq_declared_iff]
        refine ⟨?_, ?_⟩
        · rintro ⟨id, ⟨name, hr, hname⟩, hid⟩
          have hsame := (Scope.getElem?_of_find? hname).symm.trans (Scope.getElem?_of_find? hid)
          cases hsame
          exact hr
        · intro hr
          obtain ⟨id, hid⟩ := Scope.exists_find? hm
          exact ⟨id, ⟨_, hr, hid⟩, hid⟩
      simp only [reduceCtorEq, false_implies, true_implies, true_and, ← hself]
      cases hel : (scope.resolve (t.superclass.getD rootClass)).element? with
      | none => simp
      | some id => simp

end DeclaredType

namespace Source

theorem nameFault?_eq_none_iff {earlier names : List String} :
    nameFault? earlier names = none ↔ names.Nodup ∧ ∀ name ∈ names, name ≠ "" ∧ name ∉ earlier := by
  induction names generalizing earlier with
  | nil => simp [nameFault?]
  | cons name rest ih =>
      rw [nameFault?, List.nodup_cons, List.forall_mem_cons]
      by_cases hempty : name = ""
      · simp [hempty]
      · by_cases hearlier : name ∈ earlier
        · simp [hempty, hearlier]
        · rw [if_neg hempty, if_neg hearlier, ih]
          -- the names after this one must differ from it, which is how it comes to be an earlier one
          refine ⟨?_, ?_⟩
          · rintro ⟨hn, hall⟩
            have hfresh : name ∉ rest := fun hm => (hall name hm).2 (List.mem_cons_self ..)
            exact ⟨⟨hfresh, hn⟩, ⟨hempty, hearlier⟩, fun n hm =>
              ⟨(hall n hm).1, fun he => (hall n hm).2 (List.mem_cons_of_mem _ he)⟩⟩
          · rintro ⟨⟨hfresh, hn⟩, _, hall⟩
            refine ⟨hn, fun n hm => ⟨(hall n hm).1, ?_⟩⟩
            intro he
            rcases List.mem_cons.1 he with rfl | he
            · exact hfresh hm
            · exact (hall n hm).2 he

/-- A source makes a program exactly when its types have different names and each of them is sound by itself. -/
theorem fault?_eq_none_iff {s : Source} : s.fault? = none ↔ s.scope.names.Nodup ∧ ∀ t ∈ s.types, t.Sound := by
  simp only [fault?, Option.or_eq_none_iff, nameFault?_eq_none_iff, List.findSome?_eq_none_iff,
    DeclaredType.methodFault?_eq_none_iff]
  have hnames : (∀ name ∈ s.scope.names, name ≠ "" ∧ name ∉ ([] : List String)) ↔
      ∀ t ∈ s.types, t.trimmedName ≠ "" := by
    simp [scope]
  rw [hnames]
  refine ⟨?_, ?_⟩
  · rintro ⟨⟨hn, hnamed⟩, hsuper, hmethods⟩
    refine ⟨hn, ?_⟩
    intro t ht
    obtain ⟨hinterface, hextension⟩ :=
      (DeclaredType.superclassFault?_eq_none_iff (trimmedName_mem_scope ht)).1 (hsuper t ht)
    exact ⟨hnamed t ht, hinterface, hextension, (hmethods t ht).1, (hmethods t ht).2⟩
  · rintro ⟨hn, hsound⟩
    refine ⟨⟨hn, fun t ht => (hsound t ht).named⟩, ?_, ?_⟩
    · intro t ht
      rw [DeclaredType.superclassFault?_eq_none_iff (trimmedName_mem_scope ht)]
      exact ⟨(hsound t ht).interface, (hsound t ht).extension⟩
    · intro t ht
      exact ⟨(hsound t ht).constructors, (hsound t ht).methods⟩

end Source

namespace Program

theorem ofSource_eq_ok_iff {s : Source} {p : Program} : ofSource s = .ok p ↔ s.fault? = none ∧ p = s.program := by
  unfold ofSource
  cases s.fault? with
  | none => simp [eq_comm]
  | some fault => simp

theorem ofSource_eq_error_iff {s : Source} {e : Failure} :
    ofSource s = .error e ↔ ∃ f, s.fault? = some f ∧ e = .program f := by
  unfold ofSource
  cases s.fault? with
  | none => simp
  | some f => simp [eq_comm]

theorem nodup_of_ofSource {s : Source} {p : Program} (hp : ofSource s = .ok p) : s.scope.names.Nodup :=
  (Source.fault?_eq_none_iff.1 (ofSource_eq_ok_iff.1 hp).1).1

theorem sound_of_ofSource {s : Source} {p : Program} (hp : ofSource s = .ok p) {t : DeclaredType} (ht : t ∈ s.types) :
    t.Sound :=
  (Source.fault?_eq_none_iff.1 (ofSource_eq_ok_iff.1 hp).1).2 t ht

theorem exists_ofSource_iff {s : Source} :
    (∃ p, ofSource s = .ok p) ↔ s.scope.names.Nodup ∧ ∀ t ∈ s.types, t.Sound := by
  simp [ofSource_eq_ok_iff, Source.fault?_eq_none_iff]

end Program

end FluentThis
