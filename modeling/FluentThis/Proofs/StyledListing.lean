import FluentThis.Proofs.CheckStages
import FluentThis.Proofs.PlainListing
/-!
Listings in colors. Main statement: a listing in colors becomes the listing without colors when its marks are deleted,
as long as no name brings an escape of its own, and where the terminal takes no marks the two are the same.
-/

namespace FluentThis

namespace Style

/-- What is left of a text behind a mark at its start: an escape, a bracket and what follows up to the next `m`. -/
def behindMark? : List Char → Option (List Char)
  | '\x1b' :: '[' :: r =>
    match r.dropWhile (· ≠ 'm') with
    | [] => none
    | _ :: rest => some rest
  | _ => none

theorem length_behindMark?_lt {cs rest : List Char} (h : behindMark? cs = some rest) : rest.length < cs.length := by
  unfold behindMark? at h
  split at h
  · next r =>
      split at h
      · cases h
      · next c rest' hdrop =>
          cases h
          have hlength := (List.dropWhile_suffix (· ≠ 'm') (l := r)).length_le
          rw [hdrop, List.length_cons] at hlength
          simp only [List.length_cons]
          omega
  · cases h

/-- Deletes the marks from a text. -/
def withoutMarks (cs : List Char) : List Char :=
  match behind : behindMark? cs with
  | some rest =>
    have : rest.length < cs.length := length_behindMark?_lt behind
    withoutMarks rest
  | none =>
    match cs with
    | [] => []
    | c :: r => c :: withoutMarks r
termination_by cs.length

theorem withoutMarks_of_some {cs rest : List Char} (h : behindMark? cs = some rest) :
    withoutMarks cs = withoutMarks rest := by
  rw [withoutMarks]
  split
  · next rest' hrest =>
      rw [h] at hrest
      cases hrest
      rfl
  · next hnone =>
      rw [h] at hnone
      cases hnone

theorem withoutMarks_nil : withoutMarks [] = [] := by
  rw [withoutMarks]
  rfl

theorem withoutMarks_cons {c : Char} (h : c ≠ '\x1b') (r : List Char) : withoutMarks (c :: r) = c :: withoutMarks r := by
  have hnone : behindMark? (c :: r) = none := by
    unfold behindMark?
    split
    · next heq =>
        cases heq
        exact absurd rfl h
    · rfl
  rw [withoutMarks]
  split
  · next rest hrest =>
      rw [hnone] at hrest
      cases hrest
  · rfl

/-- A text without escapes stays as it is, whatever follows it. -/
theorem withoutMarks_append {text : List Char} (h : '\x1b' ∉ text) (rest : List Char) :
    withoutMarks (text ++ rest) = text ++ withoutMarks rest := by
  induction text with
  | nil => rfl
  | cons c r ih =>
      rw [List.mem_cons, not_or] at h
      rw [List.cons_append, withoutMarks_cons (Ne.symm h.1), ih h.2, List.cons_append]

theorem withoutMarks_mark {inside : List Char} (h : 'm' ∉ inside) (rest : List Char) :
    withoutMarks ('\x1b' :: '[' :: (inside ++ 'm' :: rest)) = withoutMarks rest := by
  have hinside : ∀ c ∈ inside, decide (c ≠ 'm') = true := by
    intro c hc
    refine decide_eq_true ?_
    rintro rfl
    exact h hc
  apply withoutMarks_of_some
  rw [behindMark?, List.dropWhile_append_of_pos hinside]
  rfl

theorem withoutMarks_opening (s : Style) (rest : List Char) :
    withoutMarks (s.opening ++ rest) = withoutMarks rest := by
  have hcode : 'm' ∉ s.code.toList := by
    cases s <;> decide
  rw [opening, List.cons_append, List.cons_append, List.append_assoc]
  exact withoutMarks_mark hcode rest

theorem withoutMarks_closing (rest : List Char) : withoutMarks (closing ++ rest) = withoutMarks rest := by
  have hcode : 'm' ∉ ['0'] := by decide
  exact withoutMarks_mark hcode rest

theorem reopen_of_plain (s : Style) {text : List Char} (h : '\x1b' ∉ text) : s.reopen text = text := by
  fun_induction reopen s text with
  | case1 => rfl
  | case2 r ih => exact absurd List.mem_cons_self h
  | case3 c r hmark ih => rw [ih fun hr => h (List.mem_cons_of_mem c hr)]

/-- Nothing of a style is left when the marks are deleted. -/
theorem withoutMarks_paint (marks : Bool) (s : Style) {text : List Char} (h : '\x1b' ∉ text) (rest : List Char) :
    withoutMarks (paint marks s text ++ rest) = text ++ withoutMarks rest := by
  cases marks with
  | false => exact withoutMarks_append h rest
  | true =>
      rw [paint, if_pos rfl, reopen_of_plain s h, List.append_assoc, List.append_assoc, withoutMarks_opening,
        withoutMarks_append h, withoutMarks_closing]

/-- A style puts one mark in front of a text and one behind it. -/
theorem count_escape_paint (s : Style) {text : List Char} (h : '\x1b' ∉ text) :
    (paint true s text).count '\x1b' = 2 := by
  have hopening : s.opening.count '\x1b' = 1 := by
    cases s <;> decide
  have hclosing : closing.count '\x1b' = 1 := by decide
  rw [paint, if_pos rfl, reopen_of_plain s h, List.count_append, List.count_append, hopening, hclosing,
    List.count_eq_zero.2 h]

end Style

namespace Entry

variable {e : Entry} {es : List Entry}

theorem withoutMarks_lineWith (h : e.Lacks '\x1b') (marks : Bool) (rest : List Char) :
    Style.withoutMarks (e.lineWith (Style.paint marks) ++ rest) =
      e.lineWith (fun _ text => text) ++ Style.withoutMarks rest := by
  obtain ⟨htarget, hlabel, hsource⟩ := h.parts (by decide) (by decide)
  have hreturn : '\x1b' ∉ "  return=".toList := by decide
  have hreceiver : '\x1b' ∉ " receiver=".toList := by decide
  simp only [lineWith, List.append_assoc, Style.withoutMarks_paint marks _ htarget,
    Style.withoutMarks_paint marks _ (hlabel _), Style.withoutMarks_paint marks _ hsource,
    Style.withoutMarks_append hreturn, Style.withoutMarks_append hreceiver]

theorem withoutMarks_line (h : e.Lacks '\x1b') (colors marks : Bool) (rest : List Char) :
    Style.withoutMarks (e.line colors marks ++ rest) = e.line false false ++ Style.withoutMarks rest := by
  rw [line, line, Bool.false_and, if_neg Bool.false_ne_true]
  split
  · exact withoutMarks_lineWith h marks rest
  · exact withoutMarks_lineWith h false rest

/-- Line by line, what is left of the lines in colors are the lines without them. -/
theorem withoutMarks_lines (h : ∀ e ∈ es, e.Lacks '\x1b') (colors marks : Bool) (rest : List Char) :
    Style.withoutMarks (es.flatMap (fun e => e.line colors marks ++ ['\n']) ++ rest) =
      es.flatMap (fun e => e.line false false ++ ['\n']) ++ Style.withoutMarks rest := by
  have hbreak : '\x1b' ∉ ['\n'] := by decide
  induction es with
  | nil => rfl
  | cons e es ih =>
      rw [List.forall_mem_cons] at h
      simp only [List.flatMap_cons, List.append_assoc]
      rw [withoutMarks_line h.1, Style.withoutMarks_append hbreak, ih h.2]

theorem count_escape_line (h : e.Lacks '\x1b') :
    (e.line true true).count '\x1b' = if e.returnsThis then 8 else 0 := by
  obtain ⟨htarget, hlabel, hsource⟩ := h.parts (by decide) (by decide)
  have hreturn : "  return=".toList.count '\x1b' = 0 := by decide
  have hreceiver : " receiver=".toList.count '\x1b' = 0 := by decide
  rw [line, Bool.true_and]
  split
  · simp only [lineWith, List.count_append, Style.count_escape_paint _ htarget,
      Style.count_escape_paint _ (hlabel _), Style.count_escape_paint _ hsource, hreturn, hreceiver]
  · simp only [lineWith, List.count_append, List.count_eq_zero.2 htarget, List.count_eq_zero.2 (hlabel _),
      List.count_eq_zero.2 hsource, hreturn, hreceiver]

theorem count_escape_lines (h : ∀ e ∈ es, e.Lacks '\x1b') :
    (es.flatMap fun e => e.line true true ++ ['\n']).count '\x1b' = 8 * es.countP (·.returnsThis) := by
  have hbreak : ['\n'].count '\x1b' = 0 := by decide
  induction es with
  | nil => rfl
  | cons e es ih =>
      rw [List.forall_mem_cons] at h
      rw [List.flatMap_cons, List.count_append, List.count_append, count_escape_line h.1, hbreak, ih h.2,
        List.countP_cons]
      split <;> omega

end Entry

namespace Report

theorem summary_painted (r : Report) (colors marks : Bool) :
    (if colors then Style.paint marks .boldBlue r.summary else r.summary) =
      Style.paint (colors && marks) .boldBlue r.summary := by
  cases colors <;> rfl

/-- Colors change nothing but the style. The marks deleted, a listing in colors is the one without colors, and where the
terminal takes no marks it is that one as it stands. Where it takes them there are two marks for each of the four parts
of the line of an executable that returns `@This`, one of which may be empty, and two for the counts. -/
theorem colors_only_style {r : Report} (h : ∀ e ∈ r.entries, e.Lacks '\x1b') (marks : Bool) :
    Style.withoutMarks (r.listing true true).toList = (r.listing false marks).toList ∧
      r.listing true false = r.listing false marks ∧
      (r.listing true true).toList.count '\x1b' = 8 * r.returningThis + 2 := by
  have hsummary : '\x1b' ∉ r.summary := not_mem_of_isWording r.isWording_summary (by decide)
  have hbreak : '\x1b' ∉ ['\n'] := by decide
  rw [r.listing_of_plain (.inr rfl), r.listing_of_plain (.inl rfl)]
  refine ⟨?_, rfl, ?_⟩
  · have hend : Style.withoutMarks ['\n'] = ['\n'] := by
      rw [Style.withoutMarks_cons (by decide), Style.withoutMarks_nil]
    rw [listing, listing, String.toList_ofList, String.toList_ofList, listingChars, listingChars, List.append_assoc,
      Entry.withoutMarks_lines h, summary_painted, Style.withoutMarks_paint _ _ hsummary, hend, List.append_assoc]
    rfl
  · rw [listing, String.toList_ofList, listingChars, List.count_append, List.count_append, Entry.count_escape_lines h,
      if_pos rfl, Style.count_escape_paint _ hsummary, List.count_eq_zero.2 hbreak]
    rfl

/-- Names with parts of marks in them, and a part of a line that is empty. -/
theorem colors_only_style_brackets :
    let r : Report := ⟨[⟨"a.[0m", "set[1m", .method, some "a.[0m", some .receiver, some .receiver, none⟩,
      ⟨"a.[0m", "m", .method, none, none, none, none⟩]⟩
    (∀ e ∈ r.entries, e.Lacks '\x1b') ∧
      Style.withoutMarks (r.listing true true).toList =
        ("a.[0m#set[1m  return=@This receiver=@This\n" ++ "a.[0m#m  return=- receiver=-\n" ++
          "1 of 2 executables return @This\n").toList ∧
      r.listing true false = r.listing false true ∧ (r.listing true true).toList.count '\x1b' = 10 := by
  intro r
  have hlacks : ∀ e ∈ r.entries, e.Lacks '\x1b' := by decide
  obtain ⟨hdeleted, hsuppressed, hcount⟩ := colors_only_style hlacks true
  refine ⟨hlacks, ?_, hsuppressed, hcount⟩
  rw [hdeleted]
  decide

end Report

end FluentThis
