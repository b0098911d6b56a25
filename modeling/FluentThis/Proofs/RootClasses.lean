import FluentThis.Proofs.FaultOrder
/-!
Classes that name no superclass. They extend the root class, whatever else is declared, so the root class itself is
the only one of them that extends itself. Main statement: a class without a superclass and without methods can be
added to every program under every name that is free, except the name of the root class.
-/

namespace FluentThis

/-- The reference to the root class refers to a type of that name and to no other. -/
theorem refersTo_rootClass_iff {name : String} : RefersTo rootClass name ↔ name = rootClass := by
  have hself : RefersTo rootClass rootClass := by decide
  constructor
  · rintro ⟨_, hbase, _⟩
    rw [← hbase]
    exact hself.2.1
  · rintro rfl
    exact hself

namespace DeclaredType

variable {t : DeclaredType}

/-- A class that names no superclass and has no methods. -/
structure IsRoot (t : DeclaredType) : Prop where
  kind : t.kind = .classType
  superclass : t.superclass = none
  methods : t.methods = []

theorem IsRoot.sound (h : t.IsRoot) (hnamed : t.trimmedName ≠ "") (hother : t.trimmedName ≠ rootClass) : t.Sound := by
  constructor
  case named => exact hnamed
  case interface => exact fun _ => h.superclass
  case extension =>
    intro _ hrefers
    rw [h.superclass] at hrefers
    exact hother (refersTo_rootClass_iff.1 hrefers)
  case constructors => simp [h.methods]
  case methods => simp [h.methods]

/-- Where the root class is declared, it is found to extend itself. -/
theorem IsRoot.superclassFault? (h : t.IsRoot) (hname : t.trimmedName = rootClass) {scope : Scope}
    (hm : rootClass ∈ scope.names) : t.superclassFault? scope = some (.selfExtension rootClass) := by
  obtain ⟨id, hid⟩ := Scope.exists_find? hm
  have hself : t.superclassIn scope = .declared id := by
    rw [superclassIn_eq_declared_iff, h.superclass, Scope.resolve_eq_declared_iff]
    exact ⟨h.kind, rootClass, refersTo_rootClass_iff.2 rfl, hid⟩
  simp [DeclaredType.superclassFault?, h.kind, hself, TypeIdentity.element?, hname, hid]

end DeclaredType

namespace Source

variable {before after : List DeclaredType} {d : DeclaredType}

/-- One more name among names that differ. -/
theorem nodup_names_insert :
    (Source.mk (before ++ d :: after)).scope.names.Nodup ↔
      d.trimmedName ∉ (Source.mk (before ++ after)).scope.names ∧ (Source.mk (before ++ after)).scope.names.Nodup := by
  rw [← List.nodup_cons]
  exact (List.perm_middle.map DeclaredType.trimmedName).nodup_iff

/-- The fault of a superclass is reported if nothing is wrong with the names of all types and with the types in front
of it. -/
theorem fault?_of_superclassFault? {f : ProgramFault} (hn : (Source.mk (before ++ d :: after)).scope.names.Nodup)
    (hnamed : ∀ t ∈ before ++ d :: after, t.trimmedName ≠ "") (hbefore : ∀ t ∈ before, t.Sound)
    (hd : d.superclassFault? (Source.mk (before ++ d :: after)).scope = some f) :
    (Source.mk (before ++ d :: after)).fault? = some f := by
  have hnames : nameFault? [] (Source.mk (before ++ d :: after)).scope.names = none := by
    refine nameFault?_eq_none_iff.2 ⟨hn, fun name hname => ⟨?_, by simp⟩⟩
    obtain ⟨t, ht, rfl⟩ := List.mem_map.1 hname
    exact hnamed t ht
  have hfirst : before.findSome? (·.superclassFault? (Source.mk (before ++ d :: after)).scope) = none := by
    rw [List.findSome?_eq_none_iff]
    intro t ht
    rw [DeclaredType.superclassFault?_eq_none_iff (trimmedName_mem_scope (List.mem_append_left _ ht))]
    exact ⟨(hbefore t ht).interface, (hbefore t ht).extension⟩
  simp only [fault?, hnames, Option.none_or, List.findSome?_append, hfirst, List.findSome?_cons, hd, Option.some_or]

end Source

namespace Program

/-- A class is only rejected for extending itself if it refers to its own name or is the root class. -/
theorem selfExtension_cases {s : Source} {name : String} (he : ofSource s = .error (.program (.selfExtension name))) :
    ∃ t ∈ s.types, t.kind = .classType ∧ t.trimmedName = name ∧
      (t.superclass = none ∧ name = rootClass ∨ ∃ text, t.superclass = some text ∧ RefersTo text name) := by
  obtain ⟨f, hf, hname⟩ := ofSource_eq_error_iff.1 he
  cases hname
  obtain ⟨c, hc⟩ := Source.exists_firstViolation hf
  cases hc.violated with
  | @selfExtension i t type kind itself =>
      refine ⟨t, List.mem_of_getElem? type, kind, rfl, ?_⟩
      obtain ⟨name', hrefers, hfound⟩ := Scope.resolve_eq_declared_iff.1 itself
      have hname' := Scope.getElem?_of_find? hfound
      rw [Source.getElem?_scope_names, type] at hname'
      cases hname'
      cases hsuper : t.superclass with
      | none =>
          rw [hsuper] at hrefers
          exact .inl ⟨rfl, refersTo_rootClass_iff.1 hrefers⟩
      | some text =>
          rw [hsuper] at hrefers
          exact .inr ⟨text, rfl, hrefers⟩

/-- One more class that names no superclass and has no methods. If a source makes a program, so does the source with
such a class at any place, under any name that no type has, unless it is the root class; that one is rejected because
it extends itself. In any source at all, a class that is rejected for this and names no superclass is the root class. -/
theorem root_class_added (before after : List DeclaredType) (d : DeclaredType) (p : Program)
    (hp : ofSource ⟨before ++ after⟩ = .ok p) (hroot : d.IsRoot) (hnamed : d.trimmedName ≠ "")
    (hfresh : d.trimmedName ∉ (Source.mk (before ++ after)).scope.names) :
    ((∃ p', ofSource ⟨before ++ d :: after⟩ = .ok p') ↔ d.trimmedName ≠ rootClass) ∧
      (d.trimmedName = rootClass →
        ofSource ⟨before ++ d :: after⟩ = .error (.program (.selfExtension rootClass))) ∧
      ∀ s name, ofSource s = .error (.program (.selfExtension name)) →
        ∃ t ∈ s.types, t.kind = .classType ∧ t.trimmedName = name ∧
          (t.superclass = none ∧ name = rootClass ∨ ∃ text, t.superclass = some text ∧ RefersTo text name) := by
  have hn := Source.nodup_names_insert.2 ⟨hfresh, nodup_of_ofSource hp⟩
  have hothers : ∀ t ∈ before ++ after, t.Sound := fun t ht => sound_of_ofSource hp ht
  have hmem (t : DeclaredType) : t ∈ before ++ d :: after ↔ t = d ∨ t ∈ before ++ after :=
    List.perm_middle.mem_iff.trans List.mem_cons
  have hrejected (hname : d.trimmedName = rootClass) :
      ofSource ⟨before ++ d :: after⟩ = .error (.program (.selfExtension rootClass)) := by
    have hdeclared : rootClass ∈ (Source.mk (before ++ d :: after)).scope.names := by
      rw [← hname]
      exact Source.trimmedName_mem_scope ((hmem d).2 (.inl rfl))
    have hfault := hroot.superclassFault? hname hdeclared
    have hall : ∀ t ∈ before ++ d :: after, t.trimmedName ≠ "" := by
      intro t ht
      rcases (hmem t).1 ht with rfl | ht
      · exact hnamed
      · exact (hothers t ht).named
    refine ofSource_eq_error_iff.2 ⟨_, ?_, rfl⟩
    exact Source.fault?_of_superclassFault? hn hall (fun t ht => hothers t (List.mem_append_left _ ht)) hfault
  refine ⟨⟨?_, ?_⟩, hrejected, fun s name he => selfExtension_cases he⟩
  · rintro ⟨p', hp'⟩ hname
    rw [hrejected hname] at hp'
    cases hp'
  · intro hother
    rw [exists_ofSource_iff]
    refine ⟨hn, ?_⟩
    intro t ht
    rcases (hmem t).1 ht with rfl | ht
    · exact hroot.sound hnamed hother
    · exact hothers t ht

/-- A class that names no superclass, and one that extends a type from elsewhere. -/
def rooted : Source where
  types := [{ name := "a.A" }, { name := "a.B", superclass := some "java.lang.Objects" }]

/-- That type as a class without a superclass. -/
def objects : DeclaredType where
  name := " java.lang.Objects"

theorem root_class_added_objects :
    ofSource rooted = .ok rooted.program ∧ objects.IsRoot ∧ objects.trimmedName = "java.lang.Objects" ∧
      objects.trimmedName ∉ rooted.scope.names ∧
      ∃ p', ofSource ⟨[rooted.types[0], objects, rooted.types[1]]⟩ = .ok p' := by
  have hp : ofSource rooted = .ok rooted.program := rfl
  have hroot : objects.IsRoot := ⟨rfl, rfl, rfl⟩
  have hname : objects.trimmedName = "java.lang.Objects" := rfl
  have hnamed : objects.trimmedName ≠ "" := by decide
  have hfresh : objects.trimmedName ∉ rooted.scope.names := by decide
  have hadded := root_class_added [rooted.types[0]] [rooted.types[1]] objects rooted.program hp hroot hnamed hfresh
  exact ⟨hp, hroot, hname, hfresh, hadded.1.2 (by decide)⟩

/-- The root class, declared like any other class without a superclass. -/
def object : DeclaredType where
  name := "java.lang.Object"

/-- The name is free, and the class names no superclass, but it is rejected for extending itself. -/
theorem root_class_rejected :
    ofSource rooted = .ok rooted.program ∧ object.IsRoot ∧ object.trimmedName = "java.lang.Object" ∧
      object.trimmedName ∉ rooted.scope.names ∧
      ofSource ⟨rooted.types ++ [object]⟩ = .error (.program (.selfExtension "java.lang.Object")) :=
  ⟨rfl, ⟨rfl, rfl, rfl⟩, rfl, by decide, rfl⟩

end Program

end FluentThis
