import FluentThis.Proofs.DeclaredEntries
/-!
Programs with one more type. A type that is added can give a meaning to references that meant a type from elsewhere,
but what a report says changes in one case only: the new type is a builder of AutoValue, and a method of a class that
extends it returns it. Main statement: all other entries stay as they are.
-/

namespace FluentThis

/-- `d`, which has the number `id` in `s`, makes AutoValue recognize `m` as a method of `t`: `t` is a class that
implements the builder `d`, and `m` is called on a receiver and returns `d`. -/
structure DeclaredType.Captures (gs : GeneratorSet) (s : Source) (id : ElementId) (d t : DeclaredType)
    (m : DeclaredMethod) : Prop where
  active : Generator.autoValue ∈ gs
  tagged : Carried d.annotations autoValueBuilder
  untagged : ¬Carried t.annotations autoValueBuilder
  isClass : t.kind = .classType
  extended : s.scope.resolve (t.superclass.getD rootClass) = .declared id
  isMethod : m.kind = .method
  isInstance : m.isStatic = false
  returned : s.scope.resolve m.returns = .declared id

/-- What becomes of an entry, where `captured` tells whether the type that is added makes AutoValue recognize its
method. -/
structure Entry.Keeps (captured : Prop) (before after : Entry) : Prop where
  owner : after.owner = before.owner
  name : after.name = before.name
  kind : after.kind = before.kind
  returnType : after.returnType = before.returnType
  kept : ¬captured → after = before
  recognized : captured → before.generator = none ∧ after.generator = some .autoValue ∧
    after.returnQualifier = some .receiver ∧ after.receiverQualifier = some .receiver

theorem RefersTo.unique {text name name' : String} (h : RefersTo text name) (h' : RefersTo text name') :
    name = name' := by
  obtain ⟨_, hname, _⟩ := h
  obtain ⟨_, hname', _⟩ := h'
  exact hname.symm.trans hname'

section

/-! Lists of types of which the one has the type `d` besides those of the other, under a name of its own. -/

variable {types types' : List DeclaredType} {d : DeclaredType} (hmem : ∀ b, b ∈ types' ↔ b = d ∨ b ∈ types)
  (hfresh : ∀ b ∈ types, b.trimmedName ≠ d.trimmedName) {gs : GeneratorSet} {t : DeclaredType} {m : DeclaredMethod}

include hmem

/-- The new type matters to a generator only as a builder that a method of `t` returns. -/
theorem DeclaredMethod.returnsBuilder_added (g : Generator) :
    m.ReturnsBuilder types' t g ↔
      m.ReturnsBuilder types t g ∨ g = .autoValue ∧ t.Implements d ∧ RefersTo m.returns d.trimmedName := by
  cases g with
  | lombok => simp [ReturnsBuilder]
  | autoValue =>
      simp only [ReturnsBuilder, hmem, true_and]
      refine ⟨?_, ?_⟩
      · rintro ⟨b, rfl | hb, hbuilder⟩
        · exact .inr hbuilder
        · exact .inl ⟨b, hb, hbuilder⟩
      · rintro (⟨b, hb, hbuilder⟩ | hbuilder)
        · exact ⟨b, .inr hb, hbuilder⟩
        · exact ⟨d, .inl rfl, hbuilder⟩

theorem DeclaredMethod.generator?_added
    (hnot : ¬(Generator.autoValue ∈ gs ∧ m.hasReceiver = true ∧ t.Implements d ∧ RefersTo m.returns d.trimmedName)) :
    m.generator? gs types' t = m.generator? gs types t := by
  apply generator?_congr
  intro g hg hr
  rw [returnsBuilder_added hmem]
  apply or_iff_left
  rintro ⟨rfl, hbuilder⟩
  exact hnot ⟨hg, hr, hbuilder⟩

omit hmem

include hfresh

/-- No generator recognizes a method that returns a type which is not there, unless `t` is that type. -/
theorem DeclaredMethod.generator?_of_fresh (ht : t ∈ types) (hreturn : RefersTo m.returns d.trimmedName) :
    m.generator? gs types t = none := by
  have hother (b : DeclaredType) (hb : b ∈ types) : ¬RefersTo m.returns b.trimmedName :=
    fun hr => hfresh b hb (hr.unique hreturn)
  rw [generator?, List.find?_eq_none]
  intro g _ hg
  obtain ⟨_, _, hbuilder⟩ := isRecognizedBy_iff.1 hg
  cases g with
  | autoValue =>
      obtain ⟨b, hb, _, hr⟩ := hbuilder
      exact hother b hb hr
  | lombok => exact hother t ht hbuilder.2.2

include hmem

theorem DeclaredMethod.entry_added (ht : t ∈ types) :
    Entry.Keeps (Generator.autoValue ∈ gs ∧ m.hasReceiver = true ∧ t.Implements d ∧ RefersTo m.returns d.trimmedName)
      (m.entry gs types t) (m.entry gs types' t) where
  owner := rfl
  name := rfl
  kind := rfl
  returnType := rfl
  kept := by
    intro hnot
    exact entry_congr (generator?_added hmem hnot)
  recognized := by
    rintro ⟨hg, hr, himplements, hreturn⟩
    refine ⟨generator?_of_fresh hfresh ht hreturn, entry_autoValue hg hr ?_⟩
    exact (returnsBuilder_added hmem .autoValue).2 (.inr ⟨rfl, himplements, hreturn⟩)

end

/-- The circumstances of a capture, told by names. -/
theorem DeclaredType.captures_iff {gs : GeneratorSet} {s : Source} {id : ElementId} {d t : DeclaredType}
    {m : DeclaredMethod} (hn : s.scope.names.Nodup) (hd : s.types[id.index]? = some d) (hne : d ≠ t) :
    d.Captures gs s id t m ↔
      Generator.autoValue ∈ gs ∧ m.hasReceiver = true ∧ t.Implements d ∧ RefersTo m.returns d.trimmedName := by
  have hrefers (text : String) : s.scope.resolve text = .declared id ↔ RefersTo text d.trimmedName :=
    Source.resolve_eq_declared_iff_refersTo hn hd
  have hreceiver : m.hasReceiver = true ↔ m.kind = .method ∧ m.isStatic = false := by
    simp [DeclaredMethod.hasReceiver]
  rw [hreceiver]
  refine ⟨?_, ?_⟩
  · rintro ⟨hactive, htagged, huntagged, hclass, hextended, hmethod, hinstance, hreturned⟩
    exact ⟨hactive, ⟨hmethod, hinstance⟩, ⟨htagged, .inr ⟨huntagged, hclass, (hrefers _).1 hextended⟩⟩,
      (hrefers _).1 hreturned⟩
  · rintro ⟨hactive, ⟨hmethod, hinstance⟩, ⟨htagged, hself | ⟨huntagged, hclass, hextended⟩⟩, hreturned⟩
    · exact absurd hself hne
    · exact ⟨hactive, htagged, huntagged, hclass, (hrefers _).2 hextended, hmethod, hinstance, (hrefers _).2 hreturned⟩

namespace Program

/-- Adding a type disturbs nothing else. If a program is built from a source and another one from the same source with
the type `d` at some place, then the report on the second, for any set of active generators, has the entries of the
first in their order, with those of `d` at its place. An entry stays what it is, unless `d` makes AutoValue recognize
its method. -/
theorem report_of_added_type (before after : List DeclaredType) (d : DeclaredType) (p p' : Program)
    (gs : GeneratorSet) (hp : ofSource ⟨before ++ after⟩ = .ok p) (hp' : ofSource ⟨before ++ d :: after⟩ = .ok p') :
    ∃ r r', ∃ entry entry' : DeclaredType → DeclaredMethod → Entry,
      Report.ofHost gs p.host = .ok r ∧ Report.ofHost gs p'.host = .ok r' ∧
      r.entries = before.flatMap (fun t => t.methods.map (entry t)) ++
        after.flatMap (fun t => t.methods.map (entry t)) ∧
      r'.entries = before.flatMap (fun t => t.methods.map (entry' t)) ++ d.methods.map (entry' d) ++
        after.flatMap (fun t => t.methods.map (entry' t)) ∧
      ∀ t ∈ before ++ after, ∀ m ∈ t.methods,
        Entry.Keeps (d.Captures gs ⟨before ++ d :: after⟩ ⟨before.length⟩ t m) (entry t m) (entry' t m) := by
  have hn := nodup_of_ofSource hp
  have hn' := nodup_of_ofSource hp'
  rw [eq_program_of_ofSource hp, eq_program_of_ofSource hp']
  have hmem (b : DeclaredType) : b ∈ before ++ d :: after ↔ b = d ∨ b ∈ before ++ after := by
    simp only [List.mem_append, List.mem_cons]
    exact or_left_comm
  have hfresh : ∀ b ∈ before ++ after, b.trimmedName ≠ d.trimmedName := by
    intro b hb he
    have hnames : (d.trimmedName :: (before ++ after).map DeclaredType.trimmedName).Nodup := by
      rw [← List.map_cons, ← (List.perm_middle.map DeclaredType.trimmedName).nodup_iff]
      exact hn'
    exact (List.nodup_cons.1 hnames).1 (he ▸ List.mem_map_of_mem hb)
  have hd : (Source.mk (before ++ d :: after)).types[(ElementId.mk before.length).index]? = some d := by simp
  refine ⟨_, _, fun t m => m.entry gs (before ++ after) t, fun t m => m.entry gs (before ++ d :: after) t,
    ofHost_program hn gs, ofHost_program hn' gs, ?_, ?_, ?_⟩
  · exact List.flatMap_append ..
  · simp [List.flatMap_append]
  · intro t ht m _
    have hne : d ≠ t := fun he => hfresh t ht (he ▸ rfl)
    rw [DeclaredType.captures_iff hn' hd hne]
    exact DeclaredMethod.entry_added hmem hfresh ht

/-- A class that extends a type from elsewhere and returns it, and then an array of it. -/
def maker : DeclaredType where
  name := "a.Maker"
  superclass := some "a.Kit<T>"
  methods := [{ name := "set", returns := "a.Kit" }, { name := "all", returns := "a.Kit[]" }]

/-- That type as a builder of AutoValue. -/
def kit : DeclaredType where
  name := "a.Kit"
  annotations := [.named autoValueBuilder]
  methods := [{ name := "self", returns := "a.Kit" }]

theorem report_of_added_type_kit :
    ofSource ⟨[maker]⟩ = .ok (Source.program ⟨[maker]⟩) ∧
      ofSource ⟨[maker, kit]⟩ = .ok (Source.program ⟨[maker, kit]⟩) ∧
      ∃ set all set' all' self,
        Report.ofHost .all (Source.program ⟨[maker]⟩).host = .ok ⟨[set, all]⟩ ∧
        Report.ofHost .all (Source.program ⟨[maker, kit]⟩).host = .ok ⟨[set', all', self]⟩ ∧
        set.generator = none ∧ set'.generator = some .autoValue ∧ all' = all := by
  have hp : ofSource ⟨[maker]⟩ = .ok (Source.program ⟨[maker]⟩) := rfl
  have hp' : ofSource ⟨[maker, kit]⟩ = .ok (Source.program ⟨[maker, kit]⟩) := rfl
  obtain ⟨r, r', entry, entry', hr, hr', he, he', hkeeps⟩ := report_of_added_type [maker] [] kit _ _ .all hp hp'
  have hreport : r = ⟨[entry maker maker.methods[0], entry maker maker.methods[1]]⟩ := by
    cases r
    exact congrArg Report.mk he
  have hreport' : r' = ⟨[entry' maker maker.methods[0], entry' maker maker.methods[1],
      entry' kit kit.methods[0]]⟩ := by
    cases r'
    exact congrArg Report.mk he'
  have hset : kit.Captures .all ⟨[maker, kit]⟩ ⟨1⟩ maker maker.methods[0] := by
    refine ⟨rfl, ?_, ?_, rfl, rfl, rfl, rfl, rfl⟩ <;> decide
  have hall : ¬kit.Captures .all ⟨[maker, kit]⟩ ⟨1⟩ maker maker.methods[1] := by
    intro h
    cases h.returned
  have hmaker : maker ∈ [maker] ++ [] := by simp
  obtain ⟨hbefore, hafter, _⟩ := (hkeeps maker hmaker _ (List.getElem_mem _)).recognized hset
  have hkept := (hkeeps maker hmaker _ (List.getElem_mem _)).kept hall
  exact ⟨hp, hp', _, _, _, _, _, hreport ▸ hr, hreport' ▸ hr', hbefore, hafter, hkept⟩

end Program

end FluentThis
