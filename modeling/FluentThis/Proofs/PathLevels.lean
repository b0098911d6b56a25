import FluentThis.Proofs.PathTrails
/-!
The directories that contain a path, counted by how many levels they lie above it. A level up takes away at least one
character that is no slash. Main statements: the list of a path and the directories that contain it has each of them at
the place of its level, and files of one name in different ones of these directories have different paths.
-/

namespace FluentThis

namespace Path

/-- A directory lies exactly `n` levels above a path. -/
inductive Above : Path → Nat → Path → Prop where
  | self (p : Path) : Above p 0 p
  | up {p q dir : Path} {n : Nat} (first : p.parent? = some q) (rest : Above q n dir) : Above p (n + 1) dir

theorem above_zero_iff {p dir : Path} : p.Above 0 dir ↔ dir = p := by
  constructor
  · intro h
    cases h
    rfl
  · intro h
    subst h
    exact .self dir

theorem above_succ_iff {p dir : Path} {n : Nat} : p.Above (n + 1) dir ↔ ∃ q, p.parent? = some q ∧ q.Above n dir := by
  constructor
  · intro h
    cases h with
    | up first rest => exact ⟨_, first, rest⟩
  · intro h
    obtain ⟨q, first, rest⟩ := h
    exact .up first rest

/-- The directories that contain a path are listed level by level, as far as the list goes. -/
theorem getElem?_ancestors {limit n : Nat} {p dir : Path} :
    (p.ancestors limit)[n]? = some dir ↔ n < limit ∧ p.Above n dir := by
  induction limit generalizing p n with
  | zero => simp [ancestors]
  | succ limit ih =>
      rw [ancestors]
      cases n with
      | zero => simp [above_zero_iff, eq_comm]
      | succ n =>
          rw [List.getElem?_cons_succ, Nat.add_lt_add_iff_right, above_succ_iff]
          cases p.parent? with
          | none => simp
          | some q => simp [ih]

theorem length_ancestors_le (limit : Nat) (p : Path) : (p.ancestors limit).length ≤ limit := by
  by_contra hlong
  have hlast := List.getElem?_eq_getElem (Nat.lt_of_not_le hlong)
  exact absurd (getElem?_ancestors.1 hlast).1 (Nat.lt_irrefl limit)

/-- A shorter list breaks off earlier. -/
theorem take_ancestors (limit more : Nat) (p : Path) : (p.ancestors (limit + more)).take limit = p.ancestors limit := by
  induction limit generalizing p with
  | zero => rfl
  | succ limit ih =>
      rw [Nat.add_right_comm, ancestors, ancestors, List.take_succ_cons]
      cases p.parent? with
      | none => rw [List.take_nil]
      | some q => rw [ih]

/-- How many characters of a path are no slashes. -/
def weight (p : Path) : Nat := (p.text.toList.filter (· ≠ '/')).length

theorem filter_of_slash_not_mem {cs : List Char} (h : '/' ∉ cs) : cs.filter (· ≠ '/') = cs := by
  apply List.filter_eq_self.2
  intro c hc
  apply decide_eq_true
  intro hslash
  subst hslash
  exact h hc

theorem filter_intercalate {ks : List (List Char)} (h : ∀ part ∈ ks, '/' ∉ part) :
    (['/'].intercalate ks).filter (· ≠ '/') = ks.flatten := by
  induction ks with
  | nil => rfl
  | cons part rest ih =>
      have hpart := filter_of_slash_not_mem (h part List.mem_cons_self)
      have hrest := ih fun other hother => h other (List.mem_cons_of_mem part hother)
      cases rest with
      | nil => simpa using hpart
      | cons next rest =>
          rw [List.intercalate_cons_cons, List.filter_append, List.filter_append, hpart, hrest, List.flatten_cons]
          simp

theorem weight_eq_of_parts {p : Path} {more ks : List (List Char)} (hp : p.parts = more ++ ks) :
    p.weight = more.flatten.length + ks.flatten.length := by
  have hsplit := splitOn_eq_of_parts hp
  have hslash : ∀ part ∈ p.text.toList.splitOn '/', '/' ∉ part := fun _ hpart => Text.not_mem_of_mem_splitOn hpart
  have htext : ['/'].intercalate (p.text.toList.splitOn '/') = p.text.toList := List.intercalate_splitOn '/'
  rw [weight, ← htext, filter_intercalate hslash, hsplit, List.flatten_append, List.length_append]
  simp [List.length_flatten, Nat.add_comm]

theorem weight_ofParts {ks : List (List Char)} (h : ∀ part ∈ ks, '/' ∉ part) :
    (ofParts ks).weight = ks.flatten.length := by
  unfold weight ofParts
  split
  · next hroot =>
      rw [hroot]
      rfl
  · have hreverse : ∀ part ∈ ks.reverse, '/' ∉ part := fun part hpart => h part (List.mem_reverse.1 hpart)
    rw [String.toList_ofList, filter_intercalate hreverse]
    simp [List.length_flatten]

theorem weight_join (p : Path) {name : String} (hname : '/' ∉ name.toList) :
    (p.join name).weight = p.weight + name.toList.length := by
  have hfilter := filter_of_slash_not_mem hname
  unfold join weight
  split
  · next hempty =>
      rw [List.getLast?_eq_none_iff.1 hempty, hfilter]
      simp
  · rw [String.toList_append, List.filter_append, hfilter, List.length_append]
  · rw [String.toList_append, String.toList_append, List.filter_append, List.filter_append, hfilter]
    simp

/-- What is left when the idle parts at the end are dropped ends in a part that is not empty, if it has more than one. -/
theorem ne_nil_of_dropIdle {ps : List (List Char)} {last next : List Char} {rest : List (List Char)}
    (h : dropIdle ps = last :: next :: rest) : last ≠ [] := by
  fun_induction dropIdle ps with
  | case1 part next' rest' hidle ih => exact ih h
  | case2 part next' rest' hidle =>
      cases h
      intro hempty
      exact hidle (.inl hempty)
  | case3 ps hps => exact absurd h (hps last next rest)

theorem weight_parent_lt {p q : Path} (h : p.parent? = some q) : q.weight < p.weight := by
  obtain ⟨dropped, hdropped⟩ := dropIdle_suffix p.parts
  unfold parent? at h
  split at h
  · cases h
  · next part hparts =>
      split at h
      · cases h
      · next hpart =>
          cases h
          rw [hparts] at hdropped
          rw [weight_eq_of_parts hdropped.symm]
          have hpos := List.length_pos_iff.2 hpart
          have hempty : (⟨""⟩ : Path).weight = 0 := rfl
          simp only [List.flatten_singleton]
          omega
  · next last next rest hparts =>
      cases h
      obtain ⟨idle, hidle⟩ := dropIdle_suffix (next :: rest)
      have hpos := List.length_pos_iff.2 (ne_nil_of_dropIdle hparts)
      have hp : p.parts = (dropped ++ last :: idle) ++ dropIdle (next :: rest) := by
        rw [← hdropped, hparts, List.append_assoc, List.cons_append, hidle]
      rw [weight_ofParts (slash_not_mem_of_parts hp), weight_eq_of_parts hp]
      simp only [List.flatten_append, List.flatten_cons, List.length_append]
      omega

section

variable {p dir dir' : Path} {n k : Nat}

theorem Above.weight_le (h : p.Above n dir) : dir.weight ≤ p.weight := by
  induction h with
  | self => exact Nat.le_refl _
  | up first _ ih => exact Nat.le_trans ih (Nat.le_of_lt (weight_parent_lt first))

/-- The higher a directory lies, the less it weighs. -/
theorem Above.weight_lt (h : p.Above n dir) (h' : p.Above k dir') (hnk : n < k) : dir'.weight < dir.weight := by
  induction h generalizing k with
  | self p =>
      cases h' with
      | self => exact absurd hnk (Nat.lt_irrefl 0)
      | up first rest => exact Nat.lt_of_le_of_lt rest.weight_le (weight_parent_lt first)
  | up first _ ih =>
      cases h' with
      | self => exact absurd hnk (Nat.not_lt_zero _)
      | up first' rest' =>
          rw [first] at first'
          cases first'
          exact ih rest' (Nat.lt_of_succ_lt_succ hnk)

/-- Files of one name at different levels above a path are different files. -/
theorem Above.join_ne (h : p.Above n dir) (h' : p.Above k dir') (hnk : n ≠ k) {name : String}
    (hname : '/' ∉ name.toList) : dir.join name ≠ dir'.join name := by
  intro hsame
  have hweight := congrArg weight hsame
  rw [weight_join dir hname, weight_join dir' hname] at hweight
  rcases Nat.lt_or_gt_of_ne hnk with hlt | hlt
  · have hless := h.weight_lt h' hlt
    omega
  · have hless := h'.weight_lt h hlt
    omega

end

end Path

end FluentThis
