import Mathlib.Data.List.Basic
/-!
Texts taken apart at a separator. The parts have no separator in them, and the text is what they make when they are
joined again. Lines are parts too: each ends in a separator, and the last part is empty.
-/

namespace FluentThis.Text

/-- The parts of a text are what stands between its separators. There is always at least one. -/
structure Separates (sep : Char) (cs : List Char) (parts : List (List Char)) : Prop where
  joined : [sep].intercalate parts = cs
  plain : ∀ part ∈ parts, sep ∉ part
  nonempty : parts ≠ []

theorem not_mem_of_mem_splitOn {sep : Char} {cs part : List Char} (h : part ∈ cs.splitOn sep) : sep ∉ part := by
  induction cs generalizing part with
  | nil =>
      rw [List.splitOn_nil, List.mem_singleton] at h
      simp [h]
  | cons c cs ih =>
      obtain ⟨first, rest, hs⟩ := List.exists_cons_of_ne_nil (List.splitOn_ne_nil sep cs)
      rw [List.splitOn_cons_eq_if_modifyHead, hs] at h
      rw [hs] at ih
      split at h
      · rcases List.mem_cons.1 h with rfl | hrest
        · exact List.not_mem_nil
        · exact ih hrest
      · next hc =>
          rcases List.mem_cons.1 h with rfl | hrest
          · have hfirst := ih List.mem_cons_self
            intro hsep
            rcases List.mem_cons.1 hsep with rfl | hsep
            · exact hc (beq_self_eq_true _)
            · exact hfirst hsep
          · exact ih (List.mem_cons_of_mem _ hrest)

theorem separates_iff {sep : Char} {cs : List Char} {parts : List (List Char)} :
    Separates sep cs parts ↔ parts = cs.splitOn sep := by
  constructor
  · rintro ⟨rfl, hplain, hne⟩
    exact (List.splitOn_intercalate sep hplain hne).symm
  · rintro rfl
    exact ⟨List.intercalate_splitOn sep, fun _ => not_mem_of_mem_splitOn, List.splitOn_ne_nil sep cs⟩

theorem separates_plain {sep : Char} {cs : List Char} (h : sep ∉ cs) : Separates sep cs [cs] := by
  refine ⟨List.intercalate_singleton, ?_, List.cons_ne_nil cs []⟩
  intro part hpart
  rw [List.mem_singleton.1 hpart]
  exact h

/-- Texts with a separator between them have the parts of both. -/
theorem Separates.append {sep : Char} {cs ds : List Char} {parts more : List (List Char)}
    (h : Separates sep cs parts) (h' : Separates sep ds more) : Separates sep (cs ++ sep :: ds) (parts ++ more) := by
  obtain ⟨rfl, hplain, hne⟩ := h
  obtain ⟨rfl, hplain', hne'⟩ := h'
  refine ⟨?_, ?_, List.append_ne_nil_of_left_ne_nil hne more⟩
  · induction parts with
    | nil => exact absurd rfl hne
    | cons part rest ih =>
        cases rest with
        | nil =>
            rw [List.singleton_append, List.intercalate_cons_of_ne_nil hne', List.intercalate_singleton,
              List.append_assoc]
            rfl
        | cons next rest =>
            have hrest := ih (fun other hother => hplain other (List.mem_cons_of_mem part hother))
              (List.cons_ne_nil next rest)
            rw [List.cons_append, List.cons_append, List.intercalate_cons_cons, ← List.cons_append, hrest,
              List.intercalate_cons_cons]
            simp only [List.append_assoc]
  · intro part hpart
    rcases List.mem_append.1 hpart with hfirst | hsecond
    · exact hplain part hfirst
    · exact hplain' part hsecond

theorem splitOn_append_cons (sep : Char) (cs ds : List Char) :
    (cs ++ sep :: ds).splitOn sep = cs.splitOn sep ++ ds.splitOn sep :=
  (separates_iff.1 ((separates_iff.2 rfl).append (separates_iff.2 rfl))).symm

/-- Lines that end in a separator each, and nothing behind the last one. -/
theorem separates_lines {sep : Char} {lines : List (List Char)} (h : ∀ line ∈ lines, sep ∉ line) :
    Separates sep (lines.flatMap (· ++ [sep])) (lines ++ [[]]) := by
  induction lines with
  | nil => exact separates_plain List.not_mem_nil
  | cons line rest ih =>
      rw [List.forall_mem_cons] at h
      have hboth := (separates_plain h.1).append (ih h.2)
      rwa [List.singleton_append, ← List.singleton_append, ← List.append_assoc] at hboth

/-- A text is cut at its last separator in one way only. -/
theorem append_cons_inj_of_last {sep : Char} {a a' b b' : List Char} (hb : sep ∉ b) (hb' : sep ∉ b')
    (h : a ++ sep :: b = a' ++ sep :: b') : a = a' ∧ b = b' := by
  rcases List.append_eq_append_iff.1 h with ⟨more, ha, hmore⟩ | ⟨more, ha, hmore⟩
  · cases more with
    | nil =>
        rw [List.append_nil] at ha
        exact ⟨ha.symm, (List.cons.inj hmore).2⟩
    | cons c more =>
        rw [List.cons_append, List.cons.injEq] at hmore
        exact absurd (hmore.2 ▸ List.mem_append_right more List.mem_cons_self) hb
  · cases more with
    | nil =>
        rw [List.append_nil] at ha
        exact ⟨ha, (List.cons.inj hmore).2.symm⟩
    | cons c more =>
        rw [List.cons_append, List.cons.injEq] at hmore
        exact absurd (hmore.2 ▸ List.mem_append_right more List.mem_cons_self) hb'

end FluentThis.Text
