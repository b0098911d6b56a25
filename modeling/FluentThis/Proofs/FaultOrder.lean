import FluentThis.Proofs.Acceptance
/-!
Which fault of a source is reported. Each type is checked in three passes: all names are looked at before the first
superclass, and all superclasses before the first method. Main statement: a source makes a program exactly when nothing
is wrong with it, and otherwise the fault that is reported is the one at the earliest check.
-/

namespace FluentThis

/-- One check of a source: that of the name of a type, of its superclass, or of one of its methods, where types and
methods are told by their positions. -/
inductive Check where
  | name (type : Nat)
  | superclass (type : Nat)
  | method (type method : Nat)
  deriving DecidableEq, Repr

namespace Check

/-- The order of the checks. The names of all types come first, then the superclasses of all types, then the methods,
type by type. -/
def Precedes : Check → Check → Prop
  | name i, name j => i < j
  | name _, superclass _ => True
  | name _, method _ _ => True
  | superclass _, name _ => False
  | superclass i, superclass j => i < j
  | superclass _, method _ _ => True
  | method _ _, name _ => False
  | method _ _, superclass _ => False
  | method i k, method j l => i < j ∨ i = j ∧ k < l

theorem precedes_trichotomy (c d : Check) : c.Precedes d ∨ c = d ∨ d.Precedes c := by
  cases c <;> cases d <;> simp only [Precedes, name.injEq, superclass.injEq, method.injEq, true_or, or_true]
  all_goals omega

end Check

/-- The first member that has a result, by its position. -/
theorem exists_of_findSome? {α β : Type} {g : α → Option β} {xs : List α} {b : β} (h : xs.findSome? g = some b) :
    ∃ (i : Nat) (x : α), xs[i]? = some x ∧ g x = some b ∧
      ∀ (j : Nat) (y : α), j < i → xs[j]? = some y → g y = none := by
  obtain ⟨front, x, rest, rfl, hx, hfront⟩ := List.findSome?_eq_some_iff.1 h
  refine ⟨front.length, x, by simp, hx, ?_⟩
  intro j y hj hy
  rw [List.getElem?_append_left hj] at hy
  exact hfront y (List.mem_of_getElem? hy)

theorem DeclaredMethod.fault?_eq_some_iff {m : DeclaredMethod} {owner : String} {f : ProgramFault} :
    m.fault? owner = some f ↔
      (m.kind = .constructor ∧ m.isStatic = true ∧ f = .staticConstructor owner) ∨
        (m.kind = .method ∧ Text.trim m.name = "" ∧ f = .unnamedMethod owner) := by
  unfold fault?
  cases hk : m.kind with
  | constructor => simp [@eq_comm _ f]
  | method => simp [elementName, hk, @eq_comm _ f]

namespace Source

variable {s : Source} {i k : Nat} {c c' : Check} {f f' : ProgramFault}

/-- What is wrong with a source at a check, with the fault that tells it. -/
inductive Violates (s : Source) : Check → ProgramFault → Prop where
  | unnamedType {i : Nat} {t : DeclaredType} (type : s.types[i]? = some t) (unnamed : t.trimmedName = "") :
      Violates s (.name i) .unnamedType
  | duplicateType {i j : Nat} {t earlier : DeclaredType} (type : s.types[i]? = some t) (named : t.trimmedName ≠ "")
      (before : j < i) (other : s.types[j]? = some earlier) (same : earlier.trimmedName = t.trimmedName) :
      Violates s (.name i) (.duplicateType t.trimmedName)
  | interfaceSuperclass {i : Nat} {t : DeclaredType} (type : s.types[i]? = some t) (kind : t.kind = .interfaceType)
      (given : t.superclass ≠ none) : Violates s (.superclass i) (.interfaceSuperclass t.trimmedName)
  | selfExtension {i : Nat} {t : DeclaredType} (type : s.types[i]? = some t) (kind : t.kind = .classType)
      (itself : s.scope.resolve (t.superclass.getD rootClass) = .declared ⟨i⟩) :
      Violates s (.superclass i) (.selfExtension t.trimmedName)
  | staticConstructor {i k : Nat} {t : DeclaredType} {m : DeclaredMethod} (type : s.types[i]? = some t)
      (method : t.methods[k]? = some m) (kind : m.kind = .constructor) (static : m.isStatic = true) :
      Violates s (.method i k) (.staticConstructor t.trimmedName)
  | unnamedMethod {i k : Nat} {t : DeclaredType} {m : DeclaredMethod} (type : s.types[i]? = some t)
      (method : t.methods[k]? = some m) (kind : m.kind = .method) (unnamed : Text.trim m.name = "") :
      Violates s (.method i k) (.unnamedMethod t.trimmedName)

/-- The earliest check at which something is wrong. -/
structure FirstViolation (s : Source) (c : Check) (f : ProgramFault) : Prop where
  violated : s.Violates c f
  first : ∀ c' f', s.Violates c' f' → ¬c'.Precedes c

/-- Nothing is wrong with a source: what has to hold of all types together, of each type and of each method. -/
structure Acceptable (s : Source) : Prop where
  named : ∀ t ∈ s.types, t.trimmedName ≠ ""
  distinct : (s.types.map DeclaredType.trimmedName).Nodup
  interfaces : ∀ t ∈ s.types, t.kind = .interfaceType → t.superclass = none
  classes : ∀ i t, s.types[i]? = some t → t.kind = .classType →
    s.scope.resolve (t.superclass.getD rootClass) ≠ .declared ⟨i⟩
  constructors : ∀ t ∈ s.types, ∀ m ∈ t.methods, m.kind = .constructor → m.isStatic = false
  methods : ∀ t ∈ s.types, ∀ m ∈ t.methods, m.kind = .method → Text.trim m.name ≠ ""

/-- There is one fault at a check: the kinds of types and methods keep the rules apart, and only a type with a name can
have a name that is taken. -/
theorem Violates.unique (h : s.Violates c f) (h' : s.Violates c f') : f = f' := by
  cases h with
  | unnamedType type unnamed =>
      cases h' with
      | unnamedType => rfl
      | duplicateType type' named =>
          cases type.symm.trans type'
          exact absurd unnamed named
  | duplicateType type named =>
      cases h' with
      | unnamedType type' unnamed =>
          cases type.symm.trans type'
          exact absurd unnamed named
      | duplicateType type' =>
          cases type.symm.trans type'
          rfl
  | interfaceSuperclass type kind =>
      cases h' with
      | interfaceSuperclass type' =>
          cases type.symm.trans type'
          rfl
      | selfExtension type' kind' =>
          cases type.symm.trans type'
          cases kind.symm.trans kind'
  | selfExtension type kind =>
      cases h' with
      | interfaceSuperclass type' kind' =>
          cases type.symm.trans type'
          cases kind.symm.trans kind'
      | selfExtension type' =>
          cases type.symm.trans type'
          rfl
  | staticConstructor type method kind =>
      cases h' with
      | staticConstructor type' =>
          cases type.symm.trans type'
          rfl
      | unnamedMethod type' method' kind' =>
          cases type.symm.trans type'
          cases method.symm.trans method'
          cases kind.symm.trans kind'
  | unnamedMethod type method kind =>
      cases h' with
      | staticConstructor type' method' kind' =>
          cases type.symm.trans type'
          cases method.symm.trans method'
          cases kind.symm.trans kind'
      | unnamedMethod type' =>
          cases type.symm.trans type'
          rfl

theorem FirstViolation.unique (h : s.FirstViolation c f) (h' : s.FirstViolation c' f') : f = f' := by
  rcases c.precedes_trichotomy c' with hbefore | rfl | hafter
  · exact absurd hbefore (h'.first c f h.violated)
  · exact h.violated.unique h'.violated
  · exact absurd hafter (h.first c' f' h'.violated)

/-- The first of the names with which something is wrong. Nothing is wrong with the names in front of it. -/
theorem exists_of_nameFault? {earlier names : List String} (h : nameFault? earlier names = some f) :
    ∃ i name, names[i]? = some name ∧ nameFault? earlier (names.take i) = none ∧
      (name = "" ∧ f = .unnamedType ∨
        name ≠ "" ∧ (name ∈ earlier ∨ name ∈ names.take i) ∧ f = .duplicateType name) := by
  induction names generalizing earlier with
  | nil => cases h
  | cons name rest ih =>
      rw [nameFault?] at h
      by_cases hempty : name = ""
      · rw [if_pos hempty] at h
        cases h
        exact ⟨0, name, rfl, rfl, .inl ⟨hempty, rfl⟩⟩
      · by_cases hearlier : name ∈ earlier
        · rw [if_neg hempty, if_pos hearlier] at h
          cases h
          exact ⟨0, name, rfl, rfl, .inr ⟨hempty, .inl hearlier, rfl⟩⟩
        · rw [if_neg hempty, if_neg hearlier] at h
          obtain ⟨i, other, hother, hbefore, hfault⟩ := ih h
          refine ⟨i + 1, other, hother, ?_, ?_⟩
          · rw [List.take_succ_cons, nameFault?, if_neg hempty, if_neg hearlier, hbefore]
          · rw [List.take_succ_cons]
            obtain hunnamed | ⟨hnamed, htaken, he⟩ := hfault
            · exact .inl hunnamed
            · refine .inr ⟨hnamed, ?_, he⟩
              -- the name in front counts as an earlier one for those behind it
              rcases htaken with htaken | htaken
              · rcases List.mem_cons.1 htaken with rfl | htaken
                · exact .inr (List.mem_cons_self ..)
                · exact .inl htaken
              · exact .inr (List.mem_cons_of_mem _ htaken)

/-- Names that have been found sound violate nothing. -/
theorem not_violates_name {n : Nat} (hnames : nameFault? [] (s.scope.names.take n) = none) (hi : i < n) :
    ¬s.Violates (.name i) f := by
  obtain ⟨hdistinct, hnamed⟩ := nameFault?_eq_none_iff.1 hnames
  have hget {j : Nat} {t : DeclaredType} (hj : j < n) (ht : s.types[j]? = some t) :
      (s.scope.names.take n)[j]? = some t.trimmedName := by
    rw [List.getElem?_take_of_lt hj, getElem?_scope_names, ht]
    rfl
  intro h
  cases h with
  | unnamedType type unnamed => exact (hnamed _ (List.mem_of_getElem? (hget hi type))).1 unnamed
  | duplicateType type named before other same =>
      have hother := hget (Nat.lt_trans before hi) other
      rw [same, ← hget hi type] at hother
      have hlt := (List.getElem?_eq_some_iff.1 (hget (Nat.lt_trans before hi) other)).1
      exact Nat.ne_of_lt before ((List.getElem?_inj hlt hdistinct).1 hother)

theorem not_violates_names (hnames : nameFault? [] s.scope.names = none) : ¬s.Violates (.name i) f := by
  intro h
  have hi : i < s.scope.names.length := by
    rw [length_scope_names]
    cases h with
    | unnamedType type => exact (List.getElem?_eq_some_iff.1 type).1
    | duplicateType type => exact (List.getElem?_eq_some_iff.1 type).1
  rw [← List.take_length (l := s.scope.names)] at hnames
  exact not_violates_name hnames hi h

theorem firstViolation_of_nameFault? (h : nameFault? [] s.scope.names = some f) :
    ∃ c, s.FirstViolation c f := by
  obtain ⟨i, name, hname, hbefore, hfault⟩ := exists_of_nameFault? h
  rw [getElem?_scope_names] at hname
  obtain ⟨t, ht, rfl⟩ := Option.map_eq_some_iff.1 hname
  refine ⟨.name i, ?_, ?_⟩
  · rcases hfault with ⟨hempty, rfl⟩ | ⟨hnamed, htaken, rfl⟩
    · exact .unnamedType ht hempty
    · obtain htaken | htaken := htaken
      · cases htaken
      · obtain ⟨j, hj, hget⟩ := List.mem_take_iff_getElem.1 htaken
        have hother := List.getElem?_eq_some_iff.2 ⟨_, hget⟩
        rw [getElem?_scope_names] at hother
        obtain ⟨earlier, hearlier, hsame⟩ := Option.map_eq_some_iff.1 hother
        exact .duplicateType ht hnamed (by omega) hearlier hsame
  · intro c' f' hv hlt
    cases c' with
    | name j => exact not_violates_name hbefore hlt hv
    | superclass j => exact hlt
    | method j k => exact hlt

section

variable (hn : s.scope.names.Nodup)

include hn

/-- A class extends itself when its reference means the number that its own name is found with. -/
theorem violates_superclass_iff :
    s.Violates (.superclass i) f ↔ ∃ t, s.types[i]? = some t ∧ t.superclassFault? s.scope = some f := by
  constructor
  · intro h
    cases h with
    | interfaceSuperclass type kind given =>
        refine ⟨_, type, ?_⟩
        simp [DeclaredType.superclassFault?, kind, Option.isSome_iff_ne_none.2 given]
    | @selfExtension _ t type kind itself =>
        have hself : s.scope.find? t.trimmedName = some ⟨i⟩ := find?_trimmedName hn type
        refine ⟨_, type, ?_⟩
        simp [DeclaredType.superclassFault?, DeclaredType.superclassIn, kind, itself, TypeIdentity.element?, hself]
  · rintro ⟨t, type, hf⟩
    have hself : s.scope.find? t.trimmedName = some ⟨i⟩ := find?_trimmedName hn type
    unfold DeclaredType.superclassFault? at hf
    split at hf
    · next kind =>
        split at hf
        · next given =>
            cases hf
            exact .interfaceSuperclass type kind (Option.isSome_iff_ne_none.1 given)
        · cases hf
    · next kind =>
        split at hf
        · next id hid =>
            split at hf
            · next hfound =>
                cases hf
                rw [hself] at hfound
                cases hfound
                rw [TypeIdentity.element?_eq_some_iff, DeclaredType.superclassIn_eq_declared_iff] at hid
                exact .selfExtension type kind hid.2
            · cases hf
        · cases hf

end

theorem violates_method_iff :
    s.Violates (.method i k) f ↔
      ∃ t m, s.types[i]? = some t ∧ t.methods[k]? = some m ∧ m.fault? t.trimmedName = some f := by
  constructor
  · intro h
    cases h with
    | staticConstructor type method kind static =>
        exact ⟨_, _, type, method, DeclaredMethod.fault?_eq_some_iff.2 (.inl ⟨kind, static, rfl⟩)⟩
    | unnamedMethod type method kind unnamed =>
        exact ⟨_, _, type, method, DeclaredMethod.fault?_eq_some_iff.2 (.inr ⟨kind, unnamed, rfl⟩)⟩
  · rintro ⟨t, m, type, method, hf⟩
    rcases DeclaredMethod.fault?_eq_some_iff.1 hf with ⟨kind, static, rfl⟩ | ⟨kind, unnamed, rfl⟩
    · exact .staticConstructor type method kind static
    · exact .unnamedMethod type method kind unnamed

/-- When all names are sound, the superclasses are checked. -/
theorem firstViolation_of_superclassFault? (hnames : nameFault? [] s.scope.names = none)
    (h : s.types.findSome? (·.superclassFault? s.scope) = some f) : ∃ c, s.FirstViolation c f := by
  have hn := (nameFault?_eq_none_iff.1 hnames).1
  obtain ⟨i, t, ht, hf, hbefore⟩ := exists_of_findSome? h
  refine ⟨.superclass i, (violates_superclass_iff hn).2 ⟨t, ht, hf⟩, ?_⟩
  intro c' f' hv hlt
  cases c' with
  | name j => exact not_violates_names hnames hv
  | superclass j =>
      obtain ⟨t', ht', hf'⟩ := (violates_superclass_iff hn).1 hv
      rw [hbefore j t' hlt ht'] at hf'
      cases hf'
  | method j k => exact hlt

/-- When all names and superclasses are sound, the methods are checked. -/
theorem firstViolation_of_methodFault? (hnames : nameFault? [] s.scope.names = none)
    (hsupers : s.types.findSome? (·.superclassFault? s.scope) = none)
    (h : s.types.findSome? DeclaredType.methodFault? = some f) : ∃ c, s.FirstViolation c f := by
  have hn := (nameFault?_eq_none_iff.1 hnames).1
  obtain ⟨i, t, ht, hf, htypes⟩ := exists_of_findSome? h
  obtain ⟨k, m, hm, hf, hmethods⟩ := exists_of_findSome? hf
  refine ⟨.method i k, violates_method_iff.2 ⟨t, m, ht, hm, hf⟩, ?_⟩
  intro c' f' hv hlt
  cases c' with
  | name j => exact not_violates_names hnames hv
  | superclass j =>
      obtain ⟨t', ht', hf'⟩ := (violates_superclass_iff hn).1 hv
      rw [List.findSome?_eq_none_iff.1 hsupers t' (List.mem_of_getElem? ht')] at hf'
      cases hf'
  | method j l =>
      obtain ⟨t', m', ht', hm', hf'⟩ := violates_method_iff.1 hv
      rcases hlt with hji | ⟨rfl, hlk⟩
      · have hnone := List.findSome?_eq_none_iff.1 (htypes j t' hji ht') m' (List.mem_of_getElem? hm')
        rw [hnone] at hf'
        cases hf'
      · rw [ht] at ht'
        cases ht'
        rw [hmethods l m' hlk hm'] at hf'
        cases hf'

/-- The fault that is reported is found at the earliest check. -/
theorem exists_firstViolation (h : s.fault? = some f) : ∃ c, s.FirstViolation c f := by
  unfold fault? at h
  rcases Option.or_eq_some_iff.1 h with hnames | ⟨hnames, h⟩
  · exact firstViolation_of_nameFault? hnames
  · rcases Option.or_eq_some_iff.1 h with hsupers | ⟨hsupers, hmethods⟩
    · exact firstViolation_of_superclassFault? hnames hsupers
    · exact firstViolation_of_methodFault? hnames hsupers hmethods

theorem acceptable_iff : s.Acceptable ↔ s.fault? = none := by
  rw [fault?_eq_none_iff]
  constructor
  · intro h
    refine ⟨h.distinct, fun t ht => ?_⟩
    obtain ⟨i, hi⟩ := List.mem_iff_getElem?.1 ht
    constructor
    case named => exact h.named t ht
    case interface => exact h.interfaces t ht
    case extension =>
      intro kind hrefers
      exact h.classes i t hi kind ((resolve_eq_declared_iff_refersTo h.distinct hi).2 hrefers)
    case constructors => exact h.constructors t ht
    case methods =>
      intro m hm kind
      have hnamed := h.methods t ht m hm kind
      rwa [DeclaredMethod.elementName, kind]
  · rintro ⟨hn, hsound⟩
    constructor
    case named => exact fun t ht => (hsound t ht).named
    case distinct => exact hn
    case interfaces => exact fun t ht => (hsound t ht).interface
    case classes =>
      intro i t hi kind hself
      exact (hsound t (List.mem_of_getElem? hi)).extension kind ((resolve_eq_declared_iff_refersTo hn hi).1 hself)
    case constructors => exact fun t ht => (hsound t ht).constructors
    case methods =>
      intro t ht m hm kind
      have hnamed := (hsound t ht).methods m hm kind
      rwa [DeclaredMethod.elementName, kind] at hnamed

theorem Acceptable.not_violates (h : s.Acceptable) : ¬s.Violates c f := by
  intro hv
  have hnames : nameFault? [] s.scope.names = none := by
    refine nameFault?_eq_none_iff.2 ⟨h.distinct, fun name hm => ⟨?_, by simp⟩⟩
    obtain ⟨t, ht, rfl⟩ := List.mem_map.1 hm
    exact h.named t ht
  cases hv with
  | unnamedType type unnamed => exact not_violates_names hnames (.unnamedType type unnamed)
  | duplicateType type named before other same =>
      exact not_violates_names hnames (.duplicateType type named before other same)
  | interfaceSuperclass type kind given => exact given (h.interfaces _ (List.mem_of_getElem? type) kind)
  | selfExtension type kind itself => exact h.classes _ _ type kind itself
  | staticConstructor type method kind static =>
      have hplain := h.constructors _ (List.mem_of_getElem? type) _ (List.mem_of_getElem? method) kind
      rw [static] at hplain
      cases hplain
  | unnamedMethod type method kind unnamed =>
      exact h.methods _ (List.mem_of_getElem? type) _ (List.mem_of_getElem? method) kind unnamed

end Source

namespace Program

/-- A source makes a program exactly when nothing is wrong with any of its types and methods. Otherwise it fails with
the fault at the earliest check, so with none of a superclass while some name is wrong, and with none of a method while
some name or superclass is. Types are found by their names from the second pass on. -/
theorem ofSource_decided (s : Source) :
    ((∃ p, ofSource s = .ok p) ↔ s.Acceptable) ∧
      (∀ e, ofSource s = .error e ↔ ∃ c f, s.FirstViolation c f ∧ e = .program f) ∧
      (Source.nameFault? [] s.scope.names = none →
        ∀ i t, s.types[i]? = some t → s.scope.find? t.trimmedName = some ⟨i⟩) := by
  refine ⟨?_, ?_, ?_⟩
  · rw [Source.acceptable_iff]
    simp [ofSource_eq_ok_iff]
  · intro e
    constructor
    · intro he
      unfold ofSource at he
      split at he
      · next f hf =>
          cases he
          obtain ⟨c, hc⟩ := Source.exists_firstViolation hf
          exact ⟨c, f, hc, rfl⟩
      · cases he
    · rintro ⟨c, f, hc, rfl⟩
      cases hf : s.fault? with
      | none => exact absurd hc.violated (Source.acceptable_iff.2 hf).not_violates
      | some f' =>
          obtain ⟨c', hc'⟩ := Source.exists_firstViolation hf
          rw [hc.unique hc', ofSource, hf]
  · intro hnames i t ht
    exact Source.find?_trimmedName (Source.nameFault?_eq_none_iff.1 hnames).1 ht

/-- A class that extends itself and has a static constructor. -/
def selfish : Source where
  types := [
    { name := "a.A", superclass := some "a.A <T>", methods := [{ kind := .constructor, isStatic := true }] }]

/-- The same class and another one of its name. -/
def twofold : Source := { types := selfish.types ++ [{ name := " a.A" }] }

/-- The name of the second class is reported before the superclass of the first one, and this one before its method. -/
theorem ofSource_decided_twofold :
    ofSource twofold = .error (.program (.duplicateType "a.A")) ∧
      (∃ c, twofold.FirstViolation c (.duplicateType "a.A")) ∧
      twofold.Violates (.superclass 0) (.selfExtension "a.A") ∧
      ofSource selfish = .error (.program (.selfExtension "a.A")) ∧
      (∃ c, selfish.FirstViolation c (.selfExtension "a.A")) ∧
      selfish.Violates (.method 0 0) (.staticConstructor "a.A") ∧
      Source.nameFault? [] selfish.scope.names = none ∧ selfish.scope.find? "a.A" = some ⟨0⟩ := by
  have htwofold : ofSource twofold = .error (.program (.duplicateType "a.A")) := rfl
  have hselfish : ofSource selfish = .error (.program (.selfExtension "a.A")) := rfl
  have hnames : Source.nameFault? [] selfish.scope.names = none := by decide
  obtain ⟨_, hfaults, _⟩ := ofSource_decided twofold
  obtain ⟨_, hfaults', hfound⟩ := ofSource_decided selfish
  have hname : selfish.types[0].trimmedName = "a.A" := by decide
  have hself := hfound hnames 0 selfish.types[0] rfl
  rw [hname] at hself
  refine ⟨htwofold, ?_, ?_, hselfish, ?_, ?_, hnames, hself⟩
  · obtain ⟨c, f, hc, he⟩ := (hfaults _).1 htwofold
    cases he
    exact ⟨c, hc⟩
  · rw [← hname]
    exact .selfExtension (t := twofold.types[0]) rfl rfl (by decide)
  · obtain ⟨c, f, hc, he⟩ := (hfaults' _).1 hselfish
    cases he
    exact ⟨c, hc⟩
  · rw [← hname]
    exact .staticConstructor (t := selfish.types[0]) (m := selfish.types[0].methods[0]) rfl rfl rfl rfl

end Program

end FluentThis
