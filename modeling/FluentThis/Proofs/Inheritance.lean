import FluentThis.Proofs.Representation
import Mathlib.Data.Fintype.Pigeonhole
/-!
Superclasses of superclasses. A class cannot name itself as its superclass, but two or more classes can be built that
extend each other in a circle. Main statement: such a circle is all that keeps the way up from a type from ending, and
without one it ends after fewer steps than there are types.
-/

namespace FluentThis

namespace Host

/-- Exactly `n` steps lead from one element up to another, each of them to a superclass that the program declares. -/
inductive Climbs (h : Host) : ElementId → Nat → ElementId → Prop where
  | zero (id : ElementId) : Climbs h id 0 id
  | succ {id middle top : ElementId} {n : Nat} (prior : Climbs h id n middle)
      (last : h.superclass middle = .declared top) : Climbs h id (n + 1) top

/-- There is no step up from the element: its superclass, if it has one, is not declared by the program. -/
def IsTop (h : Host) (id : ElementId) : Prop := ∀ parent, h.superclass id ≠ .declared parent

namespace Climbs

variable {h : Host} {id middle top : ElementId} {m n : Nat}

theorem trans (lower : h.Climbs id m middle) (upper : h.Climbs middle n top) : h.Climbs id (m + n) top := by
  induction upper with
  | zero => exact lower
  | succ _ last ih => exact .succ ih last

/-- There is at most one way up. -/
theorem unique {top' : ElementId} (way : h.Climbs id n top) (way' : h.Climbs id n top') : top = top' := by
  induction way generalizing top' with
  | zero =>
      cases way'
      rfl
  | succ _ last ih =>
      cases way' with
      | succ prior' last' =>
          rw [ih prior', last'] at last
          cases last
          rfl

/-- A way up passes through an element after each number of its steps. -/
theorem split (way : h.Climbs id (m + n) top) : ∃ middle, h.Climbs id m middle ∧ h.Climbs middle n top := by
  induction n generalizing top with
  | zero => exact ⟨top, way, .zero top⟩
  | succ n ih =>
      cases way with
      | succ prior last =>
          obtain ⟨middle, lower, upper⟩ := ih prior
          exact ⟨middle, lower, .succ upper last⟩

theorem not_isTop (way : h.Climbs id n top) (hn : 0 < n) : ¬h.IsTop id := by
  obtain ⟨k, rfl⟩ : ∃ k, n = 1 + k := ⟨n - 1, by omega⟩
  obtain ⟨parent, first, _⟩ := way.split
  cases first with
  | succ prior last =>
      cases prior
      exact fun htop => htop _ last

theorem iterate (circle : h.Climbs id n id) (k : Nat) : h.Climbs id (k * n) id := by
  induction k with
  | zero =>
      rw [Nat.zero_mul]
      exact .zero id
  | succ k ih =>
      rw [Nat.succ_mul]
      exact ih.trans circle

/-- A way up that comes to an element twice goes round in between. -/
theorem circle_of_meeting (way : h.Climbs id m middle) (longer : h.Climbs id n middle) (hmn : m < n) :
    h.Climbs middle (n - m) middle := by
  have hlength : n = m + (n - m) := by omega
  rw [hlength] at longer
  obtain ⟨passed, lower, upper⟩ := longer.split
  rwa [lower.unique way] at upper

/-- The way up does not end if it comes to a circle: going round often enough makes it longer than any way to a top. -/
theorem not_isTop_of_circle (way : h.Climbs id m middle) (circle : h.Climbs middle n middle) (hn : 0 < n) {k : Nat}
    (other : h.Climbs id k top) : ¬h.IsTop top := by
  have hlong : h.Climbs id (k + (m + (k * n + n - k))) middle := by
    have hk : k ≤ k * n := Nat.le_mul_of_pos_right k hn
    have hround := way.trans ((circle.iterate k).trans circle)
    have hlength : m + (k * n + n) = k + (m + (k * n + n - k)) := by omega
    rwa [hlength] at hround
  obtain ⟨passed, lower, upper⟩ := hlong.split
  rw [other.unique lower]
  have hk : k ≤ k * n := Nat.le_mul_of_pos_right k hn
  exact upper.not_isTop (by omega)

end Climbs

end Host

namespace Program

variable {p : Program} {s : Source} {id top : ElementId} {n : Nat}

theorem index_lt_of_isType (hid : p.IsType id) : id.index < p.types.length := by
  obtain ⟨t, ht⟩ := hid
  unfold element? at ht
  split at ht
  · next heq => exact (List.getElem?_eq_some_iff.1 heq).1
  · cases he : p.executables[id.index - p.types.length]? <;> simp [he] at ht

/-- The way up leads through types of the program only. -/
theorem Represents.isType_of_climbs (hp : p.Represents s) (hid : p.IsType id) (way : p.host.Climbs id n top) :
    p.IsType top := by
  cases way with
  | zero => exact hid
  | succ _ last =>
      apply hp.superclasses
      rw [last]
      exact rfl

/-- No class is its own superclass, and nothing else has one. -/
theorem Represents.superclass_ne_self (hp : p.Represents s) (id : ElementId) : p.host.superclass id ≠ .declared id := by
  intro hself
  have htype : p.IsType id := by
    apply hp.superclasses id
    rw [hself]
    exact rfl
  obtain ⟨t, ht⟩ := htype
  have hkind : p.host.kind id = t.kind.elementKind := by simp [host, ht, Element.kind]
  cases hk : t.kind with
  | classType =>
      rw [hk] at hkind
      exact (hp.classes id ⟨t, ht⟩ hkind).2 hself
  | interfaceType =>
      rw [hk] at hkind
      rw [hp.interfaces id hkind] at hself
      cases hself

theorem Represents.not_climbs_one (hp : p.Represents s) (id : ElementId) : ¬p.host.Climbs id 1 id := by
  intro way
  cases way with
  | succ prior last =>
      cases prior
      exact hp.superclass_ne_self id last

/-- A way that is still not at an end after as many steps as there are types has come to one of them twice. -/
theorem Represents.circle_of_long (hp : p.Represents s) (hid : p.IsType id)
    (hlong : ∀ n top, n < p.types.length → p.host.Climbs id n top → ¬p.host.IsTop top) :
    ∃ m middle n, p.host.Climbs id m middle ∧ 0 < n ∧ p.host.Climbs middle n middle := by
  have hway (n : Nat) (hn : n ≤ p.types.length) : ∃ top, p.host.Climbs id n top := by
    induction n with
    | zero => exact ⟨id, .zero id⟩
    | succ n ih =>
        obtain ⟨middle, way⟩ := ih (by omega)
        have hmiddle := hlong n middle (by omega) way
        simp only [Host.IsTop, not_forall, not_not] at hmiddle
        obtain ⟨top, last⟩ := hmiddle
        exact ⟨top, .succ way last⟩
  choose passed hpassed using hway
  let position : Fin (p.types.length + 1) → Fin p.types.length := fun n =>
    ⟨(passed n (by omega)).index, index_lt_of_isType (hp.isType_of_climbs hid (hpassed n (by omega)))⟩
  obtain ⟨i, j, hne, heq⟩ := Fintype.exists_ne_map_eq_of_card_lt position (by simp)
  have hsame : passed i (by omega) = passed j (by omega) := by
    have hindex : (passed i (by omega)).index = (passed j (by omega)).index := congrArg Fin.val heq
    exact congrArg ElementId.mk hindex
  have hway := hpassed i (by omega)
  have hway' := hpassed j (by omega)
  rw [hsame] at hway
  rcases Nat.lt_or_gt_of_ne (Fin.val_ne_of_ne hne) with hlt | hlt
  · exact ⟨i, _, j - i, hway, by omega, hway.circle_of_meeting hway' hlt⟩
  · exact ⟨j, _, i - j, hway', by omega, hway'.circle_of_meeting hway hlt⟩

/-- What keeps the way up from a type of a built program from ending is a circle of at least two classes, and nothing
else: without one, it ends after fewer steps than there are types. No class is its own superclass. -/
theorem climbing_ends_iff (s : Source) (p : Program) (hp : ofSource s = .ok p) :
    (∀ id, ¬p.host.Climbs id 1 id) ∧
      ∀ id, p.IsType id →
        ((∃ n top, n < p.types.length ∧ p.host.Climbs id n top ∧ p.host.IsTop top) ↔
          ¬∃ m middle n, p.host.Climbs id m middle ∧ 2 ≤ n ∧ p.host.Climbs middle n middle) := by
  have hrepresents := represents_of_ofSource hp
  refine ⟨hrepresents.not_climbs_one, fun id hid => ?_⟩
  constructor
  · rintro ⟨_, _, _, hway, htop⟩ ⟨m, middle, n, hclimb, hn, hcircle⟩
    exact hclimb.not_isTop_of_circle hcircle (by omega) hway htop
  · intro hno
    by_contra hends
    have hlong (n : Nat) (top : ElementId) (hn : n < p.types.length) (hway : p.host.Climbs id n top) :
        ¬p.host.IsTop top := fun htop => hends ⟨n, top, hn, hway, htop⟩
    obtain ⟨m, middle, n, hclimb, hn, hcircle⟩ := hrepresents.circle_of_long hid hlong
    have hne : n ≠ 1 := by
      rintro rfl
      exact hrepresents.not_climbs_one middle hcircle
    exact hno ⟨m, middle, n, hclimb, by omega, hcircle⟩

/-- A class that extends one that is declared after it, which extends one from elsewhere. -/
def ladder : Source where
  types := [
    { name := "a.Bottom", superclass := some "a.Middle<T>" }, { name := "a.Shape", kind := .interfaceType },
    { name := "a.Middle", superclass := some "b.Top" }]

theorem climbing_ends_iff_ladder :
    ofSource ladder = .ok ladder.program ∧ ladder.program.IsType ⟨0⟩ ∧ ladder.program.host.Climbs ⟨0⟩ 1 ⟨2⟩ ∧
      ladder.program.host.IsTop ⟨2⟩ ∧
      ¬∃ m middle n, ladder.program.host.Climbs ⟨0⟩ m middle ∧ 2 ≤ n ∧ ladder.program.host.Climbs middle n middle := by
  have hp : ofSource ladder = .ok ladder.program := rfl
  have hid : ladder.program.IsType ⟨0⟩ := ⟨_, rfl⟩
  have hway : ladder.program.host.Climbs ⟨0⟩ 1 ⟨2⟩ := .succ (.zero _) rfl
  have htop : ladder.program.host.IsTop ⟨2⟩ := by
    intro parent hparent
    cases hparent
  obtain ⟨_, hends⟩ := climbing_ends_iff ladder ladder.program hp
  exact ⟨hp, hid, hway, htop, (hends ⟨0⟩ hid).1 ⟨1, ⟨2⟩, by decide, hway, htop⟩⟩

/-- Two classes that extend each other. -/
def circular : Source where
  types := [{ name := "a.A", superclass := some "a.B" }, { name := "a.B", superclass := some "a.A" }]

/-- A program is built from them, and the way up from the first one comes back to it and has no end. -/
theorem climbing_circular_never_ends :
    ofSource circular = .ok circular.program ∧ circular.program.IsType ⟨0⟩ ∧
      circular.program.host.Climbs ⟨0⟩ 2 ⟨0⟩ ∧
      ¬∃ n top, circular.program.host.Climbs ⟨0⟩ n top ∧ circular.program.host.IsTop top := by
  have hup : circular.program.host.Climbs ⟨0⟩ 1 ⟨1⟩ := .succ (.zero _) rfl
  have hcircle : circular.program.host.Climbs ⟨0⟩ 2 ⟨0⟩ := .succ hup rfl
  refine ⟨rfl, ⟨_, rfl⟩, hcircle, ?_⟩
  rintro ⟨n, top, hway, htop⟩
  exact (Host.Climbs.zero _).not_isTop_of_circle hcircle (by decide) hway htop

end Program

end FluentThis
