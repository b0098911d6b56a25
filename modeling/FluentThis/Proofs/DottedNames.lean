import FluentThis.Program.Name
import Mathlib.Data.List.TakeWhile
/-!
Dotted names and their parts, in terms of where the dots stand.
-/

namespace FluentThis.Name

/-- What follows the last dot of a name; the whole name if it has none. -/
def IsLastPart (cs part : List Char) : Prop :=
  '.' ∉ part ∧ (cs = part ∨ ∃ front, cs = front ++ '.' :: part)

theorem takeWhile_reverse_append {part : List Char} (hp : '.' ∉ part) (rest : List Char) :
    (part.reverse ++ rest).takeWhile (· != '.') = part.reverse ++ rest.takeWhile (· != '.') := by
  apply List.takeWhile_append_of_pos
  intro c hc
  rw [bne_iff_ne]
  rintro rfl
  exact hp (List.mem_reverse.1 hc)

theorem isLastPart_simple (cs : List Char) : IsLastPart cs (simple cs) := by
  have hsplit : cs.reverse.takeWhile (· != '.') ++ cs.reverse.dropWhile (· != '.') = cs.reverse :=
    List.takeWhile_append_dropWhile
  have hcs : cs = (cs.reverse.dropWhile (· != '.')).reverse ++ simple cs := by
    rw [simple, ← List.reverse_append, hsplit, List.reverse_reverse]
  refine ⟨?_, ?_⟩
  · intro hm
    simpa using List.mem_takeWhile_imp (List.mem_reverse.1 hm)
  · cases hd : cs.reverse.dropWhile (· != '.') with
    | nil =>
        rw [hd] at hcs
        exact Or.inl hcs
    | cons c rest =>
        have hc : c = '.' := by simpa [hd] using List.head?_dropWhile_not (· != '.') cs.reverse
        subst hc
        rw [hd] at hcs
        exact Or.inr ⟨rest.reverse, by simpa using hcs⟩

/-- The simple name is the last part, and no other text is. -/
theorem isLastPart_iff {cs part : List Char} : IsLastPart cs part ↔ simple cs = part := by
  refine ⟨?_, ?_⟩
  · rintro ⟨hp, rfl | ⟨front, rfl⟩⟩
    · have htake := takeWhile_reverse_append hp []
      simp only [List.append_nil, List.takeWhile_nil] at htake
      rw [simple, htake, List.reverse_reverse]
    · have hrev : (front ++ '.' :: part).reverse = part.reverse ++ '.' :: front.reverse := by simp
      rw [simple, hrev, takeWhile_reverse_append hp]
      simp
  · rintro rfl
    exact isLastPart_simple cs

end FluentThis.Name
