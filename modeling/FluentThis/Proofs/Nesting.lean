import FluentThis.Proofs.DottedNames
import FluentThis.Proofs.Representation
/-!
Types inside types, told by their names. A type lies directly inside the one with the longest name that its own name
continues after a dot; there may be parts between them that no type has for a name, and it does not matter which of the
two is declared first. Main statement: this is what encloses each type of a built program, every step outward leads to
a shorter name, and so the steps come to an end.
-/

namespace FluentThis

namespace Name

/-- A name lies inside another one that it continues after a dot. -/
def LiesInside (name outer : String) : Prop := ∃ rest, name = outer ++ "." ++ rest

theorem mem_prefixes_iff {cs outer : List Char} : outer ∈ prefixes cs ↔ ∃ rest, cs = outer ++ '.' :: rest := by
  induction cs generalizing outer with
  | nil => simp [prefixes]
  | cons c cs ih =>
      have hlonger : outer ∈ (prefixes cs).map (c :: ·) ↔ ∃ shorter rest, outer = c :: shorter ∧
          cs = shorter ++ '.' :: rest := by
        rw [List.mem_map]
        constructor
        · rintro ⟨shorter, hshorter, rfl⟩
          obtain ⟨rest, hrest⟩ := ih.1 hshorter
          exact ⟨shorter, rest, rfl, hrest⟩
        · rintro ⟨shorter, rest, rfl, hrest⟩
          exact ⟨shorter, ih.2 ⟨rest, hrest⟩, rfl⟩
      have hcons : (∃ rest, c :: cs = outer ++ '.' :: rest) ↔
          outer = [] ∧ c = '.' ∨ ∃ shorter rest, outer = c :: shorter ∧ cs = shorter ++ '.' :: rest := by
        cases outer with
        | nil => simp
        | cons d shorter =>
            simp only [List.cons_append, List.cons.injEq]
            constructor
            · rintro ⟨rest, rfl, hrest⟩
              exact .inr ⟨shorter, rest, ⟨rfl, rfl⟩, hrest⟩
            · rintro (⟨hnil, _⟩ | ⟨_, rest, ⟨rfl, rfl⟩, hrest⟩)
              · cases hnil
              · exact ⟨rest, rfl, hrest⟩
      rw [hcons, prefixes]
      split
      · next hdot => rw [List.mem_cons, hlonger, and_iff_left hdot]
      · next hdot => rw [hlonger, or_iff_right fun h => hdot h.2]

/-- What stands in front of the dots comes in the order of its length, without any length twice. -/
theorem pairwise_prefixes (cs : List Char) : (prefixes cs).Pairwise fun shorter longer => shorter.length < longer.length := by
  induction cs with
  | nil => exact .nil
  | cons c cs ih =>
      have hlonger : ((prefixes cs).map (c :: ·)).Pairwise fun shorter longer => shorter.length < longer.length := by
        apply ih.map
        intro shorter longer hlt
        exact Nat.succ_lt_succ hlt
      rw [prefixes]
      split
      · apply List.Pairwise.cons _ hlonger
        intro longer hmem
        obtain ⟨shorter, _, rfl⟩ := List.mem_map.1 hmem
        exact Nat.succ_pos _
      · exact hlonger

/-- The names that a name may lie inside, the longest one first, whether or not a type has them. -/
def outerNames (name : String) : List String := (outer name.toList).map String.ofList

theorem mem_outerNames_iff {name other : String} : other ∈ outerNames name ↔ LiesInside name other := by
  rw [outerNames, List.mem_map]
  constructor
  · rintro ⟨cs, hcs, rfl⟩
    obtain ⟨rest, hrest⟩ := mem_prefixes_iff.1 (List.mem_reverse.1 hcs)
    refine ⟨String.ofList rest, String.toList_inj.1 ?_⟩
    simp [hrest]
  · rintro ⟨rest, rfl⟩
    refine ⟨other.toList, List.mem_reverse.2 (mem_prefixes_iff.2 ⟨rest.toList, ?_⟩), String.ofList_toList⟩
    simp

theorem pairwise_outerNames (name : String) :
    (outerNames name).Pairwise fun longer shorter => shorter.length < longer.length := by
  apply (List.pairwise_reverse.2 (pairwise_prefixes name.toList)).map
  intro longer shorter hlt
  rwa [String.length_ofList, String.length_ofList]

theorem LiesInside.length_lt {name outer : String} (h : LiesInside name outer) : outer.length < name.length := by
  obtain ⟨rest, rfl⟩ := h
  have hdot : ".".length = 1 := rfl
  rw [String.length_append, String.length_append, hdot]
  omega

/-- A search through names that get shorter ends at the longest one that has a result. -/
theorem findSome?_eq_some_iff_longest {α : Type} {f : String → Option α} {a : α} {names : List String}
    (h : names.Pairwise fun longer shorter => shorter.length < longer.length) :
    names.findSome? f = some a ↔
      ∃ found ∈ names, f found = some a ∧ ∀ other ∈ names, f other ≠ none → other.length ≤ found.length := by
  induction names with
  | nil => simp
  | cons first rest ih =>
      rw [List.pairwise_cons] at h
      rw [List.findSome?_cons]
      cases hfirst : f first with
      | none =>
          dsimp only
          rw [ih h.2]
          constructor
          · rintro ⟨found, hfound, hf, hlongest⟩
            refine ⟨found, List.mem_cons_of_mem first hfound, hf, ?_⟩
            intro other hother hsome
            rcases List.mem_cons.1 hother with rfl | hrest
            · exact absurd hfirst hsome
            · exact hlongest other hrest hsome
          · rintro ⟨found, hfound, hf, hlongest⟩
            rcases List.mem_cons.1 hfound with rfl | hrest
            · rw [hfirst] at hf
              cases hf
            · exact ⟨found, hrest, hf, fun other hother => hlongest other (List.mem_cons_of_mem first hother)⟩
      | some b =>
          constructor
          · intro hb
            cases hb
            refine ⟨first, List.mem_cons_self, hfirst, ?_⟩
            intro other hother _
            rcases List.mem_cons.1 hother with rfl | hrest
            · exact Nat.le_refl _
            · exact Nat.le_of_lt (h.1 other hrest)
          · rintro ⟨found, hfound, hf, hlongest⟩
            rcases List.mem_cons.1 hfound with rfl | hrest
            · rwa [hfirst] at hf
            · have hle := hlongest first List.mem_cons_self (by simp [hfirst])
              exact absurd (h.1 found hrest) (Nat.not_lt.2 hle)

end Name

namespace Scope

variable {scope : Scope} {name : String} {id : ElementId}

theorem enclosing?_eq : scope.enclosing? name = (Name.outerNames name).findSome? scope.find? := by
  rw [enclosing?, Name.outerNames, List.findSome?_map]
  rfl

/-- What encloses a name is the longest name of a type that it lies inside. -/
theorem enclosing?_eq_some_iff (hn : scope.names.Nodup) : scope.enclosing? name = some id ↔
    ∃ outer, scope.names[id.index]? = some outer ∧ Name.LiesInside name outer ∧
      ∀ other ∈ scope.names, Name.LiesInside name other → other.length ≤ outer.length := by
  rw [enclosing?_eq, Name.findSome?_eq_some_iff_longest (Name.pairwise_outerNames name)]
  simp only [Name.mem_outerNames_iff, find?_eq_some_iff hn, Ne, find?_eq_none_iff, not_not]
  constructor
  · rintro ⟨outer, hinside, houter, hlongest⟩
    exact ⟨outer, houter, hinside, fun other hother hinside' => hlongest other hinside' hother⟩
  · rintro ⟨outer, houter, hinside, hlongest⟩
    exact ⟨outer, hinside, houter, fun other hinside' hother => hlongest other hother hinside'⟩

theorem enclosing?_eq_none_iff :
    scope.enclosing? name = none ↔ ∀ other ∈ scope.names, ¬Name.LiesInside name other := by
  rw [enclosing?_eq, List.findSome?_eq_none_iff]
  simp only [Name.mem_outerNames_iff, find?_eq_none_iff]
  constructor
  · exact fun h other hother hinside => h other hinside hother
  · exact fun h other hinside hother => h other hother hinside

end Scope

/-- Exactly `n` steps lead from one element outward to another, each of them to the element that encloses it. -/
inductive Host.LeadsOut (h : Host) : ElementId → Nat → ElementId → Prop where
  | zero (id : ElementId) : LeadsOut h id 0 id
  | succ {id outer outermost : ElementId} {n : Nat} (first : h.enclosing id = some outer)
      (rest : LeadsOut h outer n outermost) : LeadsOut h id (n + 1) outermost

namespace Source

variable {s : Source} {id outer : ElementId}

theorem host_enclosing {t : DeclaredType} (ht : s.types[id.index]? = some t) :
    s.program.host.enclosing id = s.scope.enclosing? t.trimmedName := by
  simp [Program.host, element?_type ht, Element.enclosing, DeclaredType.element]

/-- The name of a method goes on from the name of the type that declares it. -/
theorem host_qualifiedName_method {i : Nat} {d : Declaration} (hd : s.declarations[i]? = some d) :
    s.program.host.qualifiedName ⟨s.types.length + i⟩ =
      s.program.host.qualifiedName d.owner ++ "#" ++ d.method.elementName := by
  have howner := (mem_declarations (List.mem_of_getElem? hd)).1
  rw [Program.host_qualifiedName howner]
  simp [Program.host, element?_declaration hd, Element.qualifiedName, Declaration.element, DeclaredMethod.element]

/-- A step outward makes the name shorter, from a type to the one that it lies inside as well as from a method to the
type that declares it. -/
theorem length_qualifiedName_lt (hn : s.scope.names.Nodup) (h : s.program.host.enclosing id = some outer) :
    (s.program.host.qualifiedName outer).length < (s.program.host.qualifiedName id).length := by
  have hbind : (s.program.element? id).bind Element.enclosing = some outer := h
  obtain ⟨e, he, hee⟩ := Option.bind_eq_some_iff.1 hbind
  obtain ⟨t, ht, rfl⟩ | ⟨i, d, rfl, hd, rfl⟩ := element?_cases he
  · rw [host_enclosing ht, Scope.enclosing?_eq_some_iff hn] at h
    obtain ⟨name, hname, hinside, _⟩ := h
    rw [getElem?_scope_names, Option.map_eq_some_iff] at hname
    obtain ⟨t', ht', rfl⟩ := hname
    rw [Program.host_qualifiedName ht, Program.host_qualifiedName ht']
    exact hinside.length_lt
  · cases hee
    have hmark : "#".length = 1 := rfl
    show (s.program.host.qualifiedName d.owner).length < _
    rw [host_qualifiedName_method hd, String.length_append, String.length_append, hmark]
    omega

/-- The induction is on the length of the name, which every step makes shorter. -/
theorem exists_leadsOut (hn : s.scope.names.Nodup) (hid : id.index < s.program.size) :
    ∃ n outermost, s.program.host.LeadsOut id n outermost ∧ s.program.IsType outermost ∧
      s.program.host.enclosing outermost = none := by
  induction hlength : (s.program.host.qualifiedName id).length using Nat.strong_induction_on generalizing id with
  | _ length ih =>
      cases hstep : s.program.host.enclosing id with
      | none =>
          obtain ⟨e, he⟩ := (numbers_program s id).2 hid
          obtain ⟨t, ht, _⟩ | ⟨i, d, rfl, hd, rfl⟩ := element?_cases he
          · exact ⟨0, id, .zero id, isType_iff.2 ⟨t, ht⟩, hstep⟩
          · simp [Program.host, he, Element.enclosing] at hstep
      | some outer =>
          have htype := enclosings_program hstep
          obtain ⟨e, he⟩ := htype
          have hlt := length_qualifiedName_lt hn hstep
          rw [hlength] at hlt
          have hsize := (numbers_program s outer).1 ⟨_, he⟩
          obtain ⟨n, outermost, hway, hout⟩ := ih _ hlt hsize rfl
          exact ⟨n + 1, outermost, .succ hstep hway, hout⟩

end Source

namespace Program

/-- What encloses the elements of a built program. A type is enclosed by the type with the longest name, among all that
are declared, that the name of the type continues after a dot, and by none exactly when there is no such name. From any
element, also from a method or constructor, a step outward leads to a shorter qualified name, and after some number of
steps to a type that nothing encloses. -/
theorem enclosing_is_longest (s : Source) (p : Program) (hp : ofSource s = .ok p) :
    (∀ i t, s.types[i]? = some t →
      (∀ j, p.host.enclosing ⟨i⟩ = some ⟨j⟩ ↔
        ∃ outer, s.types[j]? = some outer ∧ Name.LiesInside t.trimmedName outer.trimmedName ∧
          ∀ other ∈ s.types, Name.LiesInside t.trimmedName other.trimmedName →
            other.trimmedName.length ≤ outer.trimmedName.length) ∧
      (p.host.enclosing ⟨i⟩ = none ↔ ∀ other ∈ s.types, ¬Name.LiesInside t.trimmedName other.trimmedName)) ∧
    (∀ id outer, p.host.enclosing id = some outer →
      (p.host.qualifiedName outer).length < (p.host.qualifiedName id).length) ∧
    ∀ id, id.index < p.size →
      ∃ n outermost, p.host.LeadsOut id n outermost ∧ p.IsType outermost ∧ p.host.enclosing outermost = none := by
  have hn := nodup_of_ofSource hp
  rw [eq_program_of_ofSource hp]
  have hnames (P : String → Prop) : (∀ name ∈ s.scope.names, P name) ↔ ∀ t ∈ s.types, P t.trimmedName := by
    rw [Source.scope, List.forall_mem_map]
  refine ⟨?_, fun id outer => Source.length_qualifiedName_lt hn, fun id => Source.exists_leadsOut hn⟩
  intro i t ht
  have hstep : s.program.host.enclosing ⟨i⟩ = s.scope.enclosing? t.trimmedName := Source.host_enclosing ht
  rw [hstep]
  constructor
  · intro j
    rw [Scope.enclosing?_eq_some_iff hn, Source.getElem?_scope_names]
    simp only [hnames, Option.map_eq_some_iff]
    constructor
    · rintro ⟨_, ⟨outer, houter, rfl⟩, hinside, hlongest⟩
      exact ⟨outer, houter, hinside, hlongest⟩
    · rintro ⟨outer, houter, hinside, hlongest⟩
      exact ⟨_, ⟨outer, houter, rfl⟩, hinside, hlongest⟩
  · rw [Scope.enclosing?_eq_none_iff, hnames]

/-- A type that is declared before those that it lies inside, with parts of its name that no type has. -/
def layered : Source where
  types := [
    { name := "a.Outer.b..Inner", methods := [{ name := "get" }] }, { name := " a.Outer. " },
    { name := "a.Outer" }, { name := "a.Out" }]

theorem enclosing_is_longest_layered :
    ofSource layered = .ok layered.program ∧ layered.program.host.enclosing ⟨0⟩ = some ⟨2⟩ ∧
      (∀ other ∈ layered.types, Name.LiesInside "a.Outer.b..Inner" other.trimmedName → other.trimmedName.length ≤ 7) ∧
      layered.program.host.enclosing ⟨2⟩ = none ∧
      (∀ other ∈ layered.types, ¬Name.LiesInside "a.Outer" other.trimmedName) ∧
      ∃ n outermost, layered.program.host.LeadsOut ⟨4⟩ n outermost ∧ layered.program.IsType outermost ∧
        layered.program.host.enclosing outermost = none := by
  have hp : ofSource layered = .ok layered.program := rfl
  obtain ⟨hnested, _, hends⟩ := enclosing_is_longest layered layered.program hp
  have hinner : layered.program.host.enclosing ⟨0⟩ = some ⟨2⟩ := by decide
  have houter : layered.program.host.enclosing ⟨2⟩ = none := by decide
  obtain ⟨outer, hdeclared, _, hlongest⟩ := ((hnested 0 _ rfl).1 2).1 hinner
  cases hdeclared
  have hnone := (hnested 2 _ rfl).2.1 houter
  exact ⟨hp, hinner, hlongest, houter, hnone, hends ⟨4⟩ (by decide)⟩

end Program

end FluentThis
