import FluentThis.Failure
import Mathlib.Data.List.Forall2
/-!
Doing something that may fail to each member of a list. It succeeds when it does for every member, and otherwise the
first failure is that of the whole.
-/

namespace FluentThis.Traversal

variable {α β : Type} {f : α → Except Failure β}

theorem mapM_cons_eq (f : α → Except Failure β) (x : α) (xs : List α) :
    (x :: xs).mapM f =
      match f x, xs.mapM f with
      | .error e, _ => .error e
      | .ok _, .error e => .error e
      | .ok y, .ok ys => .ok (y :: ys) := by
  rw [List.mapM_cons]
  cases f x with
  | error e => rfl
  | ok y => cases xs.mapM f <;> rfl

/-- Success, member by member. -/
theorem mapM_eq_ok_iff {xs : List α} {ys : List β} :
    xs.mapM f = .ok ys ↔ List.Forall₂ (fun x y => f x = .ok y) xs ys := by
  induction xs generalizing ys with
  | nil => cases ys <;> simp [pure, Except.pure]
  | cons x xs ih =>
      rw [mapM_cons_eq]
      cases hx : f x with
      | error e => cases ys <;> simp [hx]
      | ok y =>
          cases ys with
          | nil => cases xs.mapM f <;> simp
          | cons y' ys =>
              rw [List.forall₂_cons, ← ih, hx]
              cases xs.mapM f <;> simp

/-- The first member that fails decides, whatever follows it. -/
theorem mapM_of_failing {start rest : List α} {x : α} {e : Failure} (hok : ∀ a ∈ start, ∃ b, f a = .ok b)
    (hx : f x = .error e) : (start ++ x :: rest).mapM f = .error e := by
  induction start with
  | nil => rw [List.nil_append, mapM_cons_eq, hx]
  | cons a start ih =>
      obtain ⟨b, hb⟩ := hok a (List.mem_cons_self ..)
      have hrest := ih fun c hc => hok c (List.mem_cons_of_mem _ hc)
      rw [List.cons_append, mapM_cons_eq, hb, hrest]

/-- Failure, at the first member that fails. -/
theorem mapM_eq_error_iff {xs : List α} {e : Failure} :
    xs.mapM f = .error e ↔
      ∃ start x rest, xs = start ++ x :: rest ∧ (∀ a ∈ start, ∃ b, f a = .ok b) ∧ f x = .error e := by
  constructor
  · intro h
    induction xs with
    | nil => cases h
    | cons x xs ih =>
        rw [mapM_cons_eq] at h
        cases hx : f x with
        | error e' =>
            rw [hx] at h
            cases h
            exact ⟨[], x, xs, rfl, by simp, hx⟩
        | ok y =>
            cases hxs : xs.mapM f with
            | ok ys =>
                rw [hx, hxs] at h
                cases h
            | error e' =>
                rw [hx, hxs] at h
                cases h
                obtain ⟨start, a, rest, rfl, hstart, ha⟩ := ih hxs
                exact ⟨x :: start, a, rest, rfl, List.forall_mem_cons.2 ⟨⟨y, hx⟩, hstart⟩, ha⟩
  · rintro ⟨start, x, rest, rfl, hstart, hx⟩
    exact mapM_of_failing hstart hx

end FluentThis.Traversal
