import FluentThis.Files.Tree
import Mathlib.Tactic.Common
/-!
How a path is walked, part after part. Each part takes the walk into a directory or up, or on to where a link points;
the parts of the link then come before those that are left. Main statements: an induction along this course, by which
everything about walks is shown, and that a walk leads to the same place as long as the directories and the links are
there.
-/

namespace FluentThis

namespace FileTree

/-- How a walk goes on at a part of a path: how many links it may still follow, from where, and along which parts. -/
def next (t : FileTree) (n : Nat) (here : Place) (part : String) (rest : List String) :
    Option (Nat × Place × List String) :=
  match t.link? here part with
  | none => some (n, enter here part, rest)
  | some link =>
    match n with
    | 0 => none
    | n + 1 => some (n, link.start here, link.parts ++ rest)

section

variable {t t' : FileTree} {refused : Place → Option IoFault} {n : Nat} {here place : Place} {part : String}
  {rest parts : List String}

theorem walk_nil (t : FileTree) (refused : Place → Option IoFault) (n : Nat) (here : Place) :
    t.walk refused n here [] = .ok here := by
  cases n <;> rfl

theorem walk_cons (t : FileTree) (refused : Place → Option IoFault) (n : Nat) (here : Place) (part : String)
    (rest : List String) :
    t.walk refused n here (part :: rest) =
      match t.pass refused here with
      | .error e => .error e
      | .ok () =>
        match t.next n here part rest with
        | none => .error .tooManyLinks
        | some (n', here', rest') => t.walk refused n' here' rest' := by
  cases n with
  | zero =>
      rw [walk, walkUpTo, next]
      cases t.link? here part <;> rfl
  | succ n =>
      rw [walk, walkUpTo, next]
      cases t.link? here part <;> rfl

/-- The course of a walk. Either there is a part less to go along, or, whatever the parts are, a link less to follow. -/
theorem walk_induction (t : FileTree) {motive : Nat → Place → List String → Prop}
    (arrived : ∀ n here, motive n here [])
    (onward : ∀ n here part rest,
      (∀ n' here' rest', t.next n here part rest = some (n', here', rest') → motive n' here' rest') →
      motive n here (part :: rest))
    (n : Nat) (here : Place) (parts : List String) : motive n here parts := by
  induction n generalizing here parts with
  | zero =>
      induction parts generalizing here with
      | nil => exact arrived 0 here
      | cons part rest ih =>
          apply onward
          intro n' here' rest' h
          unfold next at h
          split at h
          · cases h
            exact ih _
          · cases h
  | succ n ihn =>
      induction parts generalizing here with
      | nil => exact arrived (n + 1) here
      | cons part rest ih =>
          apply onward
          intro n' here' rest' h
          unfold next at h
          split at h
          · cases h
            exact ih _
          · cases h
            exact ihn _ _

theorem pass_eq_ok_iff : t.pass refused here = .ok () ↔ t.entry? here = some .directory ∧ refused here = none := by
  unfold pass
  cases t.entry? here with
  | none => simp
  | some e =>
      cases e with
      | file content => simp
      | directory => cases refused here <;> simp

theorem walk_cons_eq_ok_iff : t.walk refused n here (part :: rest) = .ok place ↔
    t.pass refused here = .ok () ∧ ∃ n' here' rest',
      t.next n here part rest = some (n', here', rest') ∧ t.walk refused n' here' rest' = .ok place := by
  rw [walk_cons]
  cases t.pass refused here with
  | error e => simp
  | ok u =>
      cases t.next n here part rest with
      | none => simp
      | some onward =>
          obtain ⟨n', here', rest'⟩ := onward
          simp

theorem link?_congr (h : t'.links.lookup (enter here part) = t.links.lookup (enter here part)) :
    t'.link? here part = t.link? here part := by
  rw [link?, link?, h]

theorem next_congr (h : t'.links.lookup (enter here part) = t.links.lookup (enter here part)) (n : Nat)
    (rest : List String) : t'.next n here part rest = t.next n here part rest := by
  rw [next, next, link?_congr h]

/-- Parts that come later have no influence on how a walk goes on. -/
theorem next_append (t : FileTree) (n : Nat) (here : Place) (part : String) (rest more : List String) :
    t.next n here part (rest ++ more) =
      (t.next n here part rest).map fun (n', here', rest') => (n', here', rest' ++ more) := by
  unfold next
  cases t.link? here part with
  | none => rfl
  | some link => cases n <;> simp

/-- A walk passes through directories only, so it leads to the same place as long as those are there. -/
theorem walk_of_directories (hlinks : t'.links = t.links)
    (h : ∀ place, t.entry? place = some .directory → t'.entry? place = some .directory)
    (hw : t.walk refused n here parts = .ok place) : t'.walk refused n here parts = .ok place := by
  induction n, here, parts using walk_induction t with
  | arrived n here =>
      rw [walk_nil] at hw ⊢
      exact hw
  | onward n here part rest ih =>
      rw [walk_cons_eq_ok_iff] at hw ⊢
      obtain ⟨hpass, n', here', rest', hnext, hrest⟩ := hw
      obtain ⟨hdirectory, hallowed⟩ := pass_eq_ok_iff.1 hpass
      refine ⟨pass_eq_ok_iff.2 ⟨h here hdirectory, hallowed⟩, n', here', rest', ?_, ih _ _ _ hnext hrest⟩
      have hsame : t'.next n here part rest = t.next n here part rest := next_congr (by rw [hlinks]) n rest
      rw [hsame, hnext]

/-- What stops a walk: nothing is there, or a file is, or there are too many links, or the system refuses an entry. -/
theorem walk_error_cases {e : IoFault} (h : t.walk refused n here parts = .error e) :
    e = .notFound ∨ e = .notADirectory ∨ e = .tooManyLinks ∨ ∃ place, refused place = some e := by
  induction n, here, parts using walk_induction t with
  | arrived n here =>
      rw [walk_nil] at h
      cases h
  | onward n here part rest ih =>
      rw [walk_cons, pass] at h
      cases hentry : t.entry? here with
      | none =>
          rw [hentry] at h
          cases h
          exact .inl rfl
      | some found =>
          rw [hentry] at h
          cases found with
          | file content =>
              cases h
              exact .inr (.inl rfl)
          | directory =>
              cases hrefused : refused here with
              | some fault =>
                  simp only [hrefused] at h
                  cases h
                  exact .inr (.inr (.inr ⟨here, hrefused⟩))
              | none =>
                  simp only [hrefused] at h
                  cases hnext : t.next n here part rest with
                  | none =>
                      rw [hnext] at h
                      cases h
                      exact .inr (.inr (.inl rfl))
                  | some onward =>
                      rw [hnext] at h
                      exact ih _ _ _ hnext h

end

end FileTree

end FluentThis
