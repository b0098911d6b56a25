import FluentThis.Proofs.FileChanges
import FluentThis.Proofs.SeparatedTexts
/-!
Which places a path passes through on its way. They are told by the text of the path, the working directory and the
links, and files have no part in them. Main statements: where a path leads depends on nothing but what is at these
places, and the directories that contain a path pass through no others.
-/

namespace FluentThis

namespace FileTree

section

variable (t : FileTree)

/-- The places on a walk up to the first link, from where `follow` goes on. -/
def trailUpTo (follow : Place → Link → List String → List Place) : Place → List String → List Place
  | here, [] => [here]
  | here, part :: rest =>
    here :: enter here part ::
      match t.link? here part with
      | none => trailUpTo follow (enter here part) rest
      | some link => follow here link rest

/-- The places on a walk: where it starts, what each part names, and so where it ends. -/
def trail : Nat → Place → List String → List Place
  | 0 => t.trailUpTo fun _ _ _ => []
  | n + 1 => t.trailUpTo fun here link rest => trail n (link.start here) (link.parts ++ rest)

end

/-- Two trees have the same at a place. -/
structure SameAt (t t' : FileTree) (place : Place) : Prop where
  entry : t'.entry? place = t.entry? place
  link : t'.links.lookup place = t.links.lookup place

section

variable {t t' : FileTree} {refused : Place → Option IoFault} {n : Nat} {here place : Place} {part : String}
  {parts : List String}

theorem trail_nil (t : FileTree) (n : Nat) (here : Place) : t.trail n here [] = [here] := by
  cases n <;> rfl

theorem trail_cons (t : FileTree) (n : Nat) (here : Place) (part : String) (rest : List String) :
    t.trail n here (part :: rest) =
      here :: enter here part ::
        match t.next n here part rest with
        | none => []
        | some (n', here', rest') => t.trail n' here' rest' := by
  cases n with
  | zero =>
      rw [trail, trailUpTo, next]
      cases t.link? here part <;> rfl
  | succ n =>
      rw [trail, trailUpTo, next]
      cases t.link? here part <;> rfl

theorem mem_trail_next {n' : Nat} {here' : Place} {rest rest' : List String}
    (h : t.next n here part rest = some (n', here', rest')) (hplace : place ∈ t.trail n' here' rest') :
    place ∈ t.trail n here (part :: rest) := by
  rw [trail_cons, h]
  exact List.mem_cons_of_mem _ (List.mem_cons_of_mem _ hplace)

theorem mem_trail_enter (t : FileTree) (n : Nat) (here : Place) (part : String) (rest : List String) :
    enter here part ∈ t.trail n here (part :: rest) := by
  rw [trail_cons]
  exact List.mem_cons_of_mem _ List.mem_cons_self

/-- A walk asks for what is at the places on it, and for nothing else. -/
theorem walk_congr (h : ∀ place ∈ t.trail n here parts, SameAt t t' place) :
    t'.walk refused n here parts = t.walk refused n here parts := by
  induction n, here, parts using walk_induction t with
  | arrived n here => rw [walk_nil, walk_nil]
  | onward n here part rest ih =>
      have hhere : here ∈ t.trail n here (part :: rest) := by
        rw [trail_cons]
        exact List.mem_cons_self
      have hpass : t'.pass refused here = t.pass refused here := by rw [pass, pass, (h here hhere).entry]
      have hnext := next_congr (h _ (mem_trail_enter t n here part rest)).link n rest
      rw [walk_cons, walk_cons, hpass, hnext]
      cases hgo : t.next n here part rest with
      | none => rfl
      | some onward =>
          obtain ⟨n', here', rest'⟩ := onward
          have hrest := ih n' here' rest' hgo fun place hplace => h place (mem_trail_next hgo hplace)
          dsimp only
          rw [hrest]

/-- A walk that leads anywhere leads to the last place on it. -/
theorem getLast?_trail_of_walk (h : t.walk refused n here parts = .ok place) :
    (t.trail n here parts).getLast? = some place := by
  induction n, here, parts using walk_induction t with
  | arrived n here =>
      rw [walk_nil] at h
      cases h
      rw [trail_nil]
      rfl
  | onward n here part rest ih =>
      rw [walk_cons_eq_ok_iff] at h
      obtain ⟨_, n', here', rest', hnext, hrest⟩ := h
      rw [trail_cons, hnext, List.getLast?_cons, List.getLast?_cons, ih n' here' rest' hnext hrest]
      rfl

theorem trail_subset_append (t : FileTree) (n : Nat) (here : Place) (parts more : List String) :
    t.trail n here parts ⊆ t.trail n here (parts ++ more) := by
  induction n, here, parts using walk_induction t with
  | arrived n here =>
      intro place hplace
      rw [trail_nil, List.mem_singleton] at hplace
      rw [hplace]
      cases more with
      | nil =>
          rw [List.append_nil, trail_nil]
          exact List.mem_singleton_self here
      | cons part rest =>
          rw [List.nil_append, trail_cons]
          exact List.mem_cons_self
  | onward n here part rest ih =>
      rw [List.cons_append, trail_cons, trail_cons, next_append]
      cases hnext : t.next n here part rest with
      | none => exact List.Subset.refl _
      | some onward =>
          obtain ⟨n', here', rest'⟩ := onward
          exact List.cons_subset_cons _ (List.cons_subset_cons _ (ih n' here' rest' hnext))

/-- What the last part names is on the walk, too. -/
theorem enter_mem_trail {last : String} (h : t.walk refused n here parts = .ok place) :
    enter place last ∈ t.trail n here (parts ++ [last]) := by
  induction n, here, parts using walk_induction t with
  | arrived n here =>
      rw [walk_nil] at h
      cases h
      exact mem_trail_enter t n _ last []
  | onward n here part rest ih =>
      rw [walk_cons_eq_ok_iff] at h
      obtain ⟨_, n', here', rest', hnext, hrest⟩ := h
      rw [List.cons_append]
      refine mem_trail_next ?_ (ih n' here' rest' hnext hrest)
      rw [next_append, hnext]
      rfl

end

end FileTree

namespace Path

/-- Whether a path is absolute shows in its parts: the first one is empty, and there are others. -/
theorem isAbsolute_iff {p : Path} :
    p.isAbsolute = true ↔ ∃ part rest, p.text.toList.splitOn '/' = [] :: part :: rest := by
  unfold isAbsolute
  cases hp : p.text.toList with
  | nil => simp
  | cons c cs =>
      obtain ⟨first, rest, hs⟩ := List.exists_cons_of_ne_nil (List.splitOn_ne_nil '/' cs)
      rw [List.splitOn_cons_eq_if_modifyHead, hs]
      by_cases hc : c = '/' <;> simp [hc]

theorem dropIdle_suffix (ps : List (List Char)) : dropIdle ps <:+ ps := by
  fun_induction dropIdle ps with
  | case1 part next rest hidle ih => exact ih.trans (List.suffix_cons part _)
  | case2 part next rest hidle => exact List.suffix_rfl
  | case3 ps hps => exact List.suffix_rfl

theorem dropIdle_ne_nil {ps : List (List Char)} (h : ps ≠ []) : dropIdle ps ≠ [] := by
  fun_induction dropIdle ps with
  | case1 part next rest hidle ih => exact ih (List.cons_ne_nil next rest)
  | case2 part next rest hidle => exact h
  | case3 ps hps => exact h

/-- Parts that were put together are told apart again; the root has an empty one on either side of its slash. -/
theorem splitOn_ofParts {ks : List (List Char)} (hks : ks ≠ []) (hslash : ∀ part ∈ ks, '/' ∉ part) :
    (ofParts ks).text.toList.splitOn '/' = if ks = [[]] then [[], []] else ks.reverse := by
  unfold ofParts
  split
  · rfl
  · rw [String.toList_ofList]
    apply List.splitOn_intercalate
    · intro part hpart
      exact hslash part (List.mem_reverse.1 hpart)
    · exact List.reverse_ne_nil_iff.2 hks

theorem names_eq (p : Path) :
    Workspace.names p = ((p.text.toList.splitOn '/').filter (· ≠ [])).map String.ofList := by
  unfold Workspace.names parts
  rw [List.reverse_reverse]

section

variable {p : Path} {ks more : List (List Char)}

theorem splitOn_eq_of_parts (hp : p.parts = more ++ ks) :
    p.text.toList.splitOn '/' = ks.reverse ++ more.reverse := by
  rw [← List.reverse_append, ← hp, parts, List.reverse_reverse]

theorem slash_not_mem_of_parts (hp : p.parts = more ++ ks) : ∀ part ∈ ks, '/' ∉ part := by
  intro part hpart
  have hmem : part ∈ p.text.toList.splitOn '/' := by
    rw [splitOn_eq_of_parts hp]
    exact List.mem_append_left _ (List.mem_reverse.2 hpart)
  exact Text.not_mem_of_mem_splitOn hmem

/-- A path that lacks some of the last parts of another starts where that one does. -/
theorem isAbsolute_ofParts (hp : p.parts = more ++ ks) (hks : ks ≠ []) (hmore : more ≠ []) :
    (ofParts ks).isAbsolute = p.isAbsolute := by
  rw [Bool.eq_iff_iff, isAbsolute_iff, isAbsolute_iff, splitOn_ofParts hks (slash_not_mem_of_parts hp),
    splitOn_eq_of_parts hp]
  obtain ⟨other, others, hothers⟩ := List.exists_cons_of_ne_nil (List.reverse_ne_nil_iff.2 hmore)
  rw [hothers]
  split
  · next hroot =>
      rw [hroot]
      simp
  · next hroot =>
      obtain ⟨first, rest, hfirst⟩ := List.exists_cons_of_ne_nil (List.reverse_ne_nil_iff.2 hks)
      have hne : rest = [] → first ≠ [] := by
        rintro rfl rfl
        exact hroot (by rw [← List.reverse_reverse ks, hfirst]; rfl)
      rw [hfirst]
      cases rest with
      | nil => simp [hne rfl]
      | cons next rest => simp

theorem names_ofParts_prefix (hp : p.parts = more ++ ks) (hks : ks ≠ []) :
    Workspace.names (ofParts ks) <+: Workspace.names p := by
  rw [names_eq, names_eq, splitOn_ofParts hks (slash_not_mem_of_parts hp), splitOn_eq_of_parts hp]
  split
  · exact List.nil_prefix
  · rw [List.filter_append, List.map_append]
    exact List.prefix_append _ _

end

/-- A path is an entry of the empty path, or of one that starts in the same place and has the same names before the
last one. -/
theorem parent?_cases {q : Path} (h : p.parent? = some q) :
    q.text = "" ∨ p.text ≠ "" ∧ q.isAbsolute = p.isAbsolute ∧ Workspace.names q <+: Workspace.names p := by
  obtain ⟨dropped, hdropped⟩ := dropIdle_suffix p.parts
  unfold parent? at h
  split at h
  · cases h
  · split at h
    · cases h
    · cases h
      exact .inl rfl
  · next last next rest hparts =>
      cases h
      obtain ⟨idle, hidle⟩ := dropIdle_suffix (next :: rest)
      have hks : dropIdle (next :: rest) ≠ [] := dropIdle_ne_nil (List.cons_ne_nil next rest)
      have hp : p.parts = (dropped ++ last :: idle) ++ dropIdle (next :: rest) := by
        rw [← hdropped, hparts, List.append_assoc, List.cons_append, hidle]
      right
      have hmore : dropped ++ last :: idle ≠ [] := by simp
      refine ⟨?_, isAbsolute_ofParts hp hks hmore, names_ofParts_prefix hp hks⟩
      intro hempty
      have hone : p.parts.length = 1 := by
        rw [parts, hempty]
        rfl
      have hpos := List.length_pos_iff.2 hks
      rw [hp, List.length_append, List.length_append, List.length_cons] at hone
      omega

end Path

namespace Workspace

/-- The places that a path passes through. -/
def trail (w : Workspace) (p : Path) : List Place :=
  match start w.directory p with
  | none => []
  | some here => w.tree.trail linkLimit here (names p)

theorem SameSystem.trail {w w' : Workspace} (h : SameSystem w w') (p : Path) : w'.trail p = w.trail p := by
  have htrail (n : Nat) (here : Place) (parts : List String) : w'.tree.trail n here parts = w.tree.trail n here parts := by
    induction n, here, parts using FileTree.walk_induction w.tree with
    | arrived n here => rw [FileTree.trail_nil, FileTree.trail_nil]
    | onward n here part rest ih =>
        have hnext : w'.tree.next n here part rest = w.tree.next n here part rest :=
          FileTree.next_congr (by rw [h.links]) n rest
        rw [FileTree.trail_cons, FileTree.trail_cons, hnext]
        cases hgo : w.tree.next n here part rest with
        | none => rfl
        | some onward =>
            obtain ⟨n', here', rest'⟩ := onward
            dsimp only
            rw [ih n' here' rest' hgo]
  unfold Workspace.trail
  rw [h.directory]
  cases start w.directory p with
  | none => rfl
  | some here => exact htrail _ _ _

section

variable {w w' : Workspace} {p q : Path} {place : Place}

/-- A path that leads anywhere leads to the last place that it passes through. -/
theorem getLast?_trail_of_locate (h : w.locate p = .ok place) : (w.trail p).getLast? = some place := by
  unfold locate at h
  unfold trail
  cases hs : start w.directory p with
  | none =>
      rw [hs] at h
      cases h
  | some first =>
      rw [hs] at h
      exact FileTree.getLast?_trail_of_walk h

theorem mem_trail_of_locate (h : w.locate p = .ok place) : place ∈ w.trail p :=
  List.mem_of_getLast? (getLast?_trail_of_locate h)

/-- Where a path leads depends on what is at the places it passes through, and on nothing else. -/
theorem locate_congr (hd : w'.directory = w.directory) (hl : w'.limits = w.limits)
    (h : ∀ place ∈ w.trail p, w.tree.SameAt w'.tree place) : w'.locate p = w.locate p := by
  unfold locate walk
  unfold trail at h
  rw [hd, hl]
  cases hs : start w.directory p with
  | none => rfl
  | some first =>
      rw [hs] at h
      exact FileTree.walk_congr h

/-- So does whether its last part names a link. -/
theorem namesLink_congr (hd : w'.directory = w.directory) (hl : w'.limits = w.limits)
    (h : ∀ place ∈ w.trail p, w.tree.SameAt w'.tree place) : w'.namesLink p = w.namesLink p := by
  unfold namesLink walk
  unfold trail at h
  rw [hd, hl]
  cases hs : start w.directory p with
  | none => rfl
  | some first =>
      rw [hs] at h
      cases hlast : (names p).getLast? with
      | none => rfl
      | some last =>
          have hnames : (names p).dropLast ++ [last] = names p := List.dropLast_append_getLast? last hlast
          rw [← hnames] at h
          have hwalk : w'.tree.walk (w.limits.refused .enter) linkLimit first (names p).dropLast =
              w.tree.walk (w.limits.refused .enter) linkLimit first (names p).dropLast :=
            FileTree.walk_congr fun place hplace => h place (FileTree.trail_subset_append _ _ _ _ _ hplace)
          dsimp only
          rw [hwalk]
          cases hdir : w.tree.walk (w.limits.refused .enter) linkLimit first (names p).dropLast with
          | error e => rfl
          | ok dir =>
              have hlink := (h _ (FileTree.enter_mem_trail hdir)).link
              dsimp only
              rw [FileTree.link?_congr hlink]

theorem trail_parent_subset (h : p.parent? = some q) (w : Workspace) : w.trail q ⊆ w.trail p := by
  unfold trail start
  rcases Path.parent?_cases h with hq | ⟨hp, habs, hnames⟩
  · rw [if_pos hq]
    exact List.nil_subset _
  · rw [if_neg hp, habs]
    by_cases hq : q.text = ""
    · rw [if_pos hq]
      exact List.nil_subset _
    · rw [if_neg hq]
      cases (if p.isAbsolute then some [] else w.directory) with
      | none => exact List.nil_subset _
      | some first =>
          obtain ⟨more, hmore⟩ := hnames
          dsimp only
          rw [← hmore]
          exact FileTree.trail_subset_append _ _ _ _ _

theorem trail_ancestors_subset {n : Nat} (h : q ∈ p.ancestors n) (w : Workspace) : w.trail q ⊆ w.trail p := by
  induction n generalizing p with
  | zero => cases h
  | succ n ih =>
      rw [Path.ancestors] at h
      rcases List.mem_cons.1 h with rfl | hq
      · exact List.Subset.refl _
      · cases hp : p.parent? with
        | none =>
            rw [hp] at hq
            cases hq
        | some dir =>
            rw [hp] at hq
            exact List.Subset.trans (ih hq) (trail_parent_subset hp w)

/-- The directories that contain a path pass through places that it passes through itself. -/
theorem trail_containing_subset (h : q ∈ p.containing) (w : Workspace) : w.trail q ⊆ w.trail p := by
  unfold Path.containing at h
  cases hp : p.parent? with
  | none =>
      rw [hp] at h
      cases h
  | some dir =>
      rw [hp] at h
      exact List.Subset.trans (trail_ancestors_subset h w) (trail_parent_subset hp w)

end

end Workspace

end FluentThis
