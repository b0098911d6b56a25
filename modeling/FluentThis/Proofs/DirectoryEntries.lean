import FluentThis.Proofs.PathTrails
/-!
Files named in a directory. The parent of the path of such a file leads where the path of the directory leads, although
dots and slashes at the end are gone from it. Main statement: a file can be written in a directory that is there, unless
a directory is in its place or the system does not let it happen.
-/

namespace FluentThis

/-- A name that counts as one part of a path: it has no slash and is neither empty nor a dot. -/
structure IsEntryName (name : String) : Prop where
  slash : '/' ∉ name.toList
  nonempty : name.toList ≠ []
  dot : name.toList ≠ ['.']

namespace FileTree

/-- A dot at the end of a walk leads nowhere else. -/
theorem walk_of_dot {t : FileTree} {refused : Place → Option IoFault} {n : Nat} {here place : Place}
    {parts : List String} (h : t.walk refused n here (parts ++ ["."]) = .ok place) :
    t.walk refused n here parts = .ok place := by
  induction n, here, parts using walk_induction t with
  | arrived n here =>
      obtain ⟨_, n', here', rest', hnext, hrest⟩ := walk_cons_eq_ok_iff.1 h
      cases hnext
      rwa [walk_nil] at hrest ⊢
  | onward n here part rest ih =>
      rw [List.cons_append, walk_cons_eq_ok_iff, next_append] at h
      obtain ⟨hpass, n', here', rest', hnext, hrest⟩ := h
      obtain ⟨⟨m, middle, left⟩, hgo, hmore⟩ := Option.map_eq_some_iff.1 hnext
      cases hmore
      exact walk_cons_eq_ok_iff.2 ⟨hpass, _, _, left, hgo, ih _ _ left hgo hrest⟩

end FileTree

namespace Path

/-- The names in the parts of a path, of which the last one comes first. -/
def namesOf (parts : List (List Char)) : List String := (parts.reverse.filter (· ≠ [])).map String.ofList

theorem namesOf_cons_nil (parts : List (List Char)) : namesOf ([] :: parts) = namesOf parts := by
  simp [namesOf]

theorem namesOf_cons {part : List Char} (h : part ≠ []) (parts : List (List Char)) :
    namesOf (part :: parts) = namesOf parts ++ [String.ofList part] := by
  simp [namesOf, h]

theorem names_ofParts {parts : List (List Char)} (hne : parts ≠ []) (hslash : ∀ part ∈ parts, '/' ∉ part) :
    Workspace.names (ofParts parts) = namesOf parts := by
  rw [names_eq, splitOn_ofParts hne hslash]
  split
  · next hroot =>
      rw [hroot]
      rfl
  · rfl

/-- Parts that do not count may be dropped from the end of a path, as it leads to the same place without them. -/
theorem walk_dropIdle {w : Workspace} {here place : Place} {parts : List (List Char)}
    (h : w.walk here (namesOf parts) = .ok place) : w.walk here (namesOf (dropIdle parts)) = .ok place := by
  fun_induction dropIdle parts with
  | case1 part next rest hidle ih =>
      apply ih
      rcases hidle with rfl | rfl
      · rwa [namesOf_cons_nil] at h
      · rw [namesOf_cons (by decide)] at h
        exact FileTree.walk_of_dot h
  | case2 part next rest hidle => exact h
  | case3 parts hparts => exact h

section

variable {dir : Path} {name : String}

theorem toList_join_cases (hdir : dir.text ≠ "") (name : String) :
    (∃ cs, dir.text.toList = cs ++ ['/'] ∧ (dir.join name).text.toList = cs ++ '/' :: name.toList) ∨
      (dir.join name).text.toList = dir.text.toList ++ '/' :: name.toList := by
  unfold join
  split
  · next hnone =>
      have hempty := List.getLast?_eq_none_iff.1 hnone
      exact absurd (String.toList_eq_nil_iff.1 hempty) hdir
  · next hslash =>
      obtain ⟨cs, hcs⟩ := List.getLast?_eq_some_iff.1 hslash
      refine .inl ⟨cs, hcs, ?_⟩
      rw [String.toList_append, hcs, List.append_assoc]
      rfl
  · refine .inr ?_
    rw [String.toList_append, String.toList_append, List.append_assoc]
    rfl

/-- The path of a file has its name behind the parts of its directory, an empty part at their end left out. -/
theorem parts_join (hdir : dir.text ≠ "") (hslash : '/' ∉ name.toList) :
    ∃ parts, parts ≠ [] ∧ (dir.join name).parts = name.toList :: parts ∧ Workspace.names dir = namesOf parts := by
  have hname : name.toList.splitOn '/' = [name.toList] := (Text.separates_iff.1 (Text.separates_plain hslash)).symm
  rcases toList_join_cases hdir name with ⟨cs, hcs, hjoin⟩ | hjoin
  · have hparts : dir.parts = [] :: (cs.splitOn '/').reverse := by
      rw [parts, hcs, Text.splitOn_append_cons, List.splitOn_nil, List.reverse_append]
      rfl
    refine ⟨(cs.splitOn '/').reverse, List.reverse_ne_nil_iff.2 (List.splitOn_ne_nil '/' cs), ?_, ?_⟩
    · rw [parts, hjoin, Text.splitOn_append_cons, hname, List.reverse_append]
      rfl
    · exact (congrArg namesOf hparts).trans (namesOf_cons_nil _)
  · refine ⟨dir.parts, List.reverse_ne_nil_iff.2 (List.splitOn_ne_nil '/' _), ?_, rfl⟩
    rw [parts, hjoin, Text.splitOn_append_cons, hname, List.reverse_append]
    rfl

theorem isAbsolute_join (hdir : dir.text ≠ "") : (dir.join name).isAbsolute = dir.isAbsolute := by
  obtain ⟨c, cs, hcs⟩ := List.exists_cons_of_ne_nil (mt String.toList_eq_nil_iff.1 hdir)
  unfold isAbsolute
  rcases toList_join_cases hdir name with ⟨front, hfront, hjoin⟩ | hjoin
  · rw [hjoin, hfront]
    cases front <;> rfl
  · rw [hjoin, hcs]
    rfl

theorem parent?_join (hname : IsEntryName name) {next : List Char} {rest : List (List Char)}
    (hparts : (dir.join name).parts = name.toList :: next :: rest) :
    (dir.join name).parent? = some (ofParts (dropIdle (next :: rest))) := by
  have hidle : ¬(name.toList = [] ∨ name.toList = ['.']) := not_or.2 ⟨hname.nonempty, hname.dot⟩
  rw [parent?, hparts, dropIdle, if_neg hidle]

end

end Path

namespace Workspace

variable {w : Workspace} {dir : Path} {name : String}

theorem entry_eq_directory_iff {p : Path} : w.entry p = .ok .directory ↔
    ∃ place, w.locate p = .ok place ∧ w.tree.entry? place = some .directory := by
  unfold entry
  cases w.locate p with
  | error e => simp
  | ok place =>
      cases h : w.tree.entry? place with
      | none => simp [h]
      | some e =>
          cases e with
          | file content => by_cases hwants : wantsDirectory p = true <;> simp [h, hwants]
          | directory => simp [h]

theorem text_ne_empty_of_locate {p : Path} {place : Place} (h : w.locate p = .ok place) : p.text ≠ "" := by
  intro hempty
  rw [locate, start, if_pos hempty] at h
  cases h

theorem wantsDirectory_join (dir : Path) (hname : IsEntryName name) : wantsDirectory (dir.join name) = false := by
  have hlast (cs : List Char) : (cs ++ name.toList).getLast? ≠ some '/' := by
    intro hslash
    rw [List.getLast?_append_of_ne_nil cs hname.nonempty] at hslash
    exact hname.slash (List.mem_of_getLast? hslash)
  have hjoin : ∃ cs, (dir.join name).text.toList = cs ++ name.toList := by
    unfold Path.join
    split
    · exact ⟨[], rfl⟩
    · exact ⟨_, String.toList_append⟩
    · exact ⟨_, String.toList_append⟩
  obtain ⟨cs, hcs⟩ := hjoin
  rw [wantsDirectory, hcs]
  exact beq_false_of_ne (hlast cs)

/-- The parent of a file named in a directory that is there leads to the same directory, unless it is empty. -/
theorem entry_parent_join (h : w.entry dir = .ok .directory) (hname : IsEntryName name) :
    ∃ q, (dir.join name).parent? = some q ∧ (q.text = "" ∨ w.entry q = .ok .directory) := by
  obtain ⟨place, hplace, hthere⟩ := entry_eq_directory_iff.1 h
  have hdir := text_ne_empty_of_locate hplace
  obtain ⟨parts, hne, hjoin, hnames⟩ := Path.parts_join hdir hname.slash
  obtain ⟨next, rest, rfl⟩ := List.exists_cons_of_ne_nil hne
  refine ⟨_, Path.parent?_join hname hjoin, ?_⟩
  by_cases hempty : (Path.ofParts (Path.dropIdle (next :: rest))).text = ""
  · exact .inl hempty
  · obtain ⟨dropped, hdropped⟩ := Path.dropIdle_suffix (next :: rest)
    have hkept := Path.dropIdle_ne_nil hne
    have hfile : (dir.join name).parts = (name.toList :: dropped) ++ Path.dropIdle (next :: rest) := by
      rw [List.cons_append, hdropped, hjoin]
    have habsolute := (Path.isAbsolute_ofParts hfile hkept (List.cons_ne_nil _ _)).trans (Path.isAbsolute_join hdir)
    have hslash := Path.slash_not_mem_of_parts hfile
    refine .inr (entry_eq_directory_iff.2 ⟨place, ?_, hthere⟩)
    rw [locate, start, if_neg hdir] at hplace
    rw [locate, start, if_neg hempty, habsolute, Path.names_ofParts hkept hslash]
    cases hs : (if dir.isAbsolute then some [] else w.directory) with
    | none =>
        rw [hs] at hplace
        cases hplace
    | some first =>
        rw [hs] at hplace
        dsimp only at hplace ⊢
        rw [hnames] at hplace
        exact Path.walk_dropIdle hplace

theorem prepare_of_directory (h : w.entry dir = .ok .directory) (hname : IsEntryName name) :
    (FileAccess.prepare (dir.join name) : StateM Workspace (Except IoFault Unit)) w = (.ok (), w) := by
  obtain ⟨q, hparent, hq⟩ := entry_parent_join h hname
  have hready : q.text = "" ∨ (w.entry q).toBool = true := by
    refine hq.imp_right fun hq => ?_
    rw [hq]
    rfl
  simp only [FileAccess.prepare, hparent, bind, StateT.bind, FileAccess.exists?]
  rw [if_pos hready]
  rfl

/-- In a directory that is there a file is written where its path leads, if nothing is in the way and the system lets it
happen. -/
theorem writeFile_of_directory {place : Place} {content : ByteArray} (h : w.entry dir = .ok .directory)
    (hname : IsEntryName name) (hfile : w.LeadsToFile (dir.join name) place)
    (hallowed : w.limits.refused .write place = none) (hwhole : w.limits.breaksOff place content = none) :
    (FileAccess.writeFile (dir.join name) content : StateM Workspace (Except IoFault Unit)) w =
      (.ok (), w.put place (.file content)) := by
  rw [writeFile_run, prepare_of_directory h hname]
  dsimp only
  rw [hfile.write_eq hallowed, fill_of_not_breaksOff hfile.noOutput hwhole]

end Workspace

end FluentThis
