import FluentThis.Proofs.ConfigSearch
import FluentThis.Proofs.PathLevels
/-!
The configuration that a directory finds. Ten files are tried, one in the directory and one in each of the nine that
contain it, and the first one in which a configuration is written decides. Main statement: the nearer files can fail to
hold a configuration in any way, and a directory whose own file does so finds what its parent finds, unless that comes
from the last file that the parent tries.
-/

namespace FluentThis

namespace Workspace

/-- A configuration is written in the text of a file. -/
inductive HoldsConfig (w : Workspace) (p : Path) (config : Config) : Prop where
  | intro {content : ByteArray} {text : String} (file : w.read p = .ok content)
      (readable : String.fromUTF8? content = some text) (written : Config.ofToml text = .ok config)

/-- What can be where a configuration is looked for without being one. -/
inductive LacksConfig (w : Workspace) (p : Path) : Prop where
  | missing (nothing : w.entry p = .error .notFound)
  | blocked (belowFile : w.entry p = .error .notADirectory)
  | circular (links : w.entry p = .error .tooManyLinks)
  | closed {place : Place} {e : IoFault} (refused : w.limits.refused .enter place = some e)
      (unreached : w.entry p = .error e)
  | forbidden {found : FileEntry} {e : IoFault} (there : w.entry p = .ok found) (refused : w.refusal .read p = some e)
  | directory (there : w.entry p = .ok .directory)
  | notText {content : ByteArray} (file : w.read p = .ok content) (unreadable : String.fromUTF8? content = none)
  | malformed {content : ByteArray} {text : String} (file : w.read p = .ok content)
      (readable : String.fromUTF8? content = some text) (malformed : Config.ofToml text = .error .malformed)
  | mismatched {content : ByteArray} {text : String} {cause : Mismatch} (file : w.read p = .ok content)
      (readable : String.fromUTF8? content = some text)
      (mismatch : Config.ofToml text = .error (.mismatch cause))

section

variable {w : Workspace} {p : Path} {config : Config}

theorem read_eq_ok_iff {content : ByteArray} :
    w.read p = .ok content ↔ w.entry p = .ok (.file content) ∧ w.refusal .read p = none := by
  unfold read
  cases w.entry p with
  | error e => simp
  | ok found => cases w.refusal .read p <;> cases found <;> simp

theorem config_of_text {content : ByteArray} {text : String} (file : w.read p = .ok content)
    (readable : String.fromUTF8? content = some text) :
    w.config p = (Config.ofToml text).mapError (.configuration p.text) := by
  simp only [Workspace.config, Workspace.text, file, readable]

/-- Whatever is in the way of a path, it is nothing at all, a file, a circle of links or a refusal of the system. -/
theorem entry_error_cases {e : IoFault} (h : w.entry p = .error e) :
    e = .notFound ∨ e = .notADirectory ∨ e = .tooManyLinks ∨ ∃ place, w.limits.refused .enter place = some e := by
  unfold entry at h
  split at h
  · next hlocate =>
      cases h
      unfold locate at hlocate
      split at hlocate
      · cases hlocate
        exact .inl rfl
      · exact FileTree.walk_error_cases hlocate
  · split at h
    · cases h
      exact .inl rfl
    · split at h
      · cases h
        exact .inr (.inl rfl)
      · cases h
    · cases h

/-- A place where a configuration is looked for holds one or lacks one in some way. -/
theorem holds_or_lacks (w : Workspace) (p : Path) : (∃ config, w.HoldsConfig p config) ∨ w.LacksConfig p := by
  cases hentry : w.entry p with
  | error e =>
      rcases entry_error_cases hentry with rfl | rfl | rfl | ⟨place, hrefused⟩
      · exact .inr (.missing hentry)
      · exact .inr (.blocked hentry)
      · exact .inr (.circular hentry)
      · exact .inr (.closed hrefused hentry)
  | ok found =>
      cases hrefusal : w.refusal .read p with
      | some e => exact .inr (.forbidden hentry hrefusal)
      | none =>
          cases found with
          | directory => exact .inr (.directory hentry)
          | file content =>
              have hread : w.read p = .ok content := read_eq_ok_iff.2 ⟨hentry, hrefusal⟩
              cases htext : String.fromUTF8? content with
              | none => exact .inr (.notText hread htext)
              | some text =>
                  cases hconfig : Config.ofToml text with
                  | ok config => exact .inl ⟨config, .intro hread htext hconfig⟩
                  | error fault =>
                      cases fault with
                      | malformed => exact .inr (.malformed hread htext hconfig)
                      | mismatch cause => exact .inr (.mismatched hread htext hconfig)

theorem HoldsConfig.config_eq (h : w.HoldsConfig p config) : w.config p = .ok config := by
  obtain ⟨file, readable, written⟩ := h
  rw [config_of_text file readable, written]
  rfl

theorem unusable_of_read {e : IoFault} (h : w.read p = .error e) : w.Unusable p := by
  refine ⟨.io e, ?_⟩
  simp only [Workspace.config, Workspace.text, h]

theorem unusable_of_entry {e : IoFault} (h : w.entry p = .error e) : w.Unusable p := by
  have hread : w.read p = .error e := by rw [read, h]
  exact unusable_of_read hread

theorem LacksConfig.unusable (h : w.LacksConfig p) : w.Unusable p := by
  cases h with
  | missing nothing => exact unusable_of_entry nothing
  | blocked belowFile => exact unusable_of_entry belowFile
  | circular links => exact unusable_of_entry links
  | closed refused unreached => exact unusable_of_entry unreached
  | forbidden there refused =>
      apply unusable_of_read
      rw [read, there, refused]
  | directory there =>
      cases hrefusal : w.refusal .read p with
      | some e =>
          apply unusable_of_read
          rw [read, there, hrefusal]
      | none =>
          apply unusable_of_read
          rw [read, there, hrefusal]
  | notText file unreadable =>
      exact ⟨.io .notText, by simp only [Workspace.config, Workspace.text, file, unreadable]⟩
  | malformed file readable malformed =>
      exact ⟨.configuration p.text .malformed, by rw [config_of_text file readable, malformed]; rfl⟩
  | @mismatched _ _ cause file readable mismatch =>
      exact ⟨.configuration p.text (.mismatch cause), by rw [config_of_text file readable, mismatch]; rfl⟩

theorem config_eq_ok_iff : w.config p = .ok config ↔ w.HoldsConfig p config := by
  constructor
  · intro h
    rcases w.holds_or_lacks p with ⟨found, hfound⟩ | hlacks
    · rw [hfound.config_eq] at h
      cases h
      exact hfound
    · exact absurd hlacks.unusable (not_unusable_of_ok h)
  · exact HoldsConfig.config_eq

theorem unusable_iff : w.Unusable p ↔ w.LacksConfig p := by
  constructor
  · intro h
    rcases w.holds_or_lacks p with ⟨found, hfound⟩ | hlacks
    · exact absurd h (not_unusable_of_ok hfound.config_eq)
    · exact hlacks
  · exact LacksConfig.unusable

theorem lacksConfig_iff : w.LacksConfig p ↔ ¬∃ config, w.HoldsConfig p config := by
  constructor
  · rintro hlacks ⟨config, hholds⟩
    exact not_unusable_of_ok hholds.config_eq hlacks.unusable
  · exact (w.holds_or_lacks p).resolve_left

end

section

variable {w : Workspace} {ps qs : List Path} {p last : Path} {config : Config}

/-- The nearest of several files that holds a configuration, told by its place among them. -/
theorem nearest_iff : w.Nearest ps p config ↔
    ∃ n, ps[n]? = some p ∧ w.HoldsConfig p config ∧
      ∀ (k : Nat) (q : Path), k < n → ps[k]? = some q → w.LacksConfig q := by
  constructor
  · intro h
    induction h with
    | here farther usable =>
        refine ⟨0, rfl, config_eq_ok_iff.1 usable, ?_⟩
        intro k q hk
        exact absurd hk (Nat.not_lt_zero k)
    | past unusable nearest ih =>
        obtain ⟨n, hn, hholds, hnearer⟩ := ih
        refine ⟨n + 1, hn, hholds, ?_⟩
        intro k q hk hq
        cases k with
        | zero =>
            cases hq
            exact unusable_iff.1 unusable
        | succ k => exact hnearer k q (Nat.lt_of_succ_lt_succ hk) hq
  · rintro ⟨n, hn, hholds, hnearer⟩
    induction ps generalizing n with
    | nil => cases hn
    | cons q farther ih =>
        cases n with
        | zero =>
            cases hn
            exact .here farther (config_eq_ok_iff.2 hholds)
        | succ n =>
            have hq := hnearer 0 q (Nat.succ_pos n) rfl
            have hrest (k : Nat) (other : Path) (hk : k < n) (hother : farther[k]? = some other) :
                w.LacksConfig other := hnearer (k + 1) other (Nat.succ_lt_succ hk) hother
            exact .past (unusable_iff.2 hq) (ih n hn hrest)

/-- A search that finds no file does not set anything, and one that finds a file finds one of those it tries. -/
theorem firstConfig_cases (w : Workspace) (ps : List Path) :
    w.firstConfig ps = .defaults ∨ ∃ p config, p ∈ ps ∧ w.firstConfig ps = ⟨config, some p⟩ := by
  rcases w.nearest_or_unusable ps with ⟨p, config, hp⟩ | hnone
  · obtain ⟨n, hn, _, _⟩ := nearest_iff.1 hp
    exact .inr ⟨p, config, List.mem_of_getElem? hn, firstConfig_eq_file_iff.2 hp⟩
  · exact .inl (firstConfig_eq_defaults_iff.2 hnone)

theorem origin_eq_none_iff : (w.firstConfig ps).origin = none ↔ w.firstConfig ps = .defaults := by
  rcases w.firstConfig_cases ps with hdefaults | ⟨p, config, _, hfound⟩
  · rw [hdefaults]
    exact iff_of_true rfl rfl
  · rw [hfound]
    exact iff_of_false nofun nofun

/-- The farther files are only tried when none of the nearer ones holds a configuration. -/
theorem firstConfig_append (w : Workspace) (ps qs : List Path) :
    w.firstConfig (ps ++ qs) = if (w.firstConfig ps).origin = none then w.firstConfig qs else w.firstConfig ps := by
  induction ps with
  | nil => rfl
  | cons p ps ih =>
      cases hp : w.config p with
      | error e =>
          have hunusable : w.Unusable p := ⟨e, hp⟩
          rw [List.cons_append, firstConfig_of_unusable hunusable, firstConfig_of_unusable hunusable]
          exact ih
      | ok config =>
          rw [List.cons_append, firstConfig_of_ok hp, firstConfig_of_ok hp]
          rfl

theorem firstConfig_of_origin_last (h : last ∉ ps) (horigin : (w.firstConfig (ps ++ [last])).origin = some last) :
    w.firstConfig ps = .defaults := by
  rcases w.firstConfig_cases ps with hdefaults | ⟨p, config, hp, hfound⟩
  · exact hdefaults
  · rw [firstConfig_append, hfound] at horigin
    cases horigin
    exact absurd hp h

theorem firstConfig_of_origin_ne_last (horigin : (w.firstConfig (ps ++ [last])).origin ≠ some last) :
    w.firstConfig ps = w.firstConfig (ps ++ [last]) := by
  rw [firstConfig_append] at horigin ⊢
  split
  · next hnone =>
      rw [if_pos hnone] at horigin
      rw [origin_eq_none_iff.1 hnone]
      rcases w.firstConfig_cases [last] with hdefaults | ⟨p, config, hp, hfound⟩
      · exact hdefaults.symm
      · rw [List.mem_singleton.1 hp] at hfound
        rw [hfound] at horigin
        exact absurd rfl horigin
  · rfl

end

end Workspace

namespace Config

variable {start parent p : Path} {n : Nat}

theorem getElem?_candidates : (candidates start)[n]? = some p ↔
    ∃ dir, n < 10 ∧ start.Above n dir ∧ p = dir.join fileName := by
  rw [candidates, List.getElem?_map, Option.map_eq_some_iff]
  constructor
  · rintro ⟨dir, hdir, rfl⟩
    obtain ⟨hn, habove⟩ := Path.getElem?_ancestors.1 hdir
    exact ⟨dir, hn, habove, rfl⟩
  · rintro ⟨dir, hn, habove, rfl⟩
    exact ⟨dir, Path.getElem?_ancestors.2 ⟨hn, habove⟩, rfl⟩

/-- A directory tries its own file, and then what its parent tries except for one file. -/
theorem candidates_of_parent (h : start.parent? = some parent) :
    candidates start = start.join fileName :: (candidates parent).take 9 := by
  have hancestors : start.ancestors searchDepth = start :: parent.ancestors 9 := by
    rw [searchDepth, Path.ancestors, h]
  have htake : (parent.ancestors searchDepth).take 9 = parent.ancestors 9 := Path.take_ancestors 9 1 parent
  rw [candidates, candidates, hancestors, List.map_cons, ← List.map_take, htake]

theorem length_candidates_le (start : Path) : (candidates start).length ≤ 10 := by
  rw [candidates, List.length_map]
  exact Path.length_ancestors_le searchDepth start

/-- The last of ten files is not tried earlier. -/
theorem tenth_not_mem_take {dir : Path} (h : start.Above 9 dir) :
    dir.join fileName ∉ (candidates start).take 9 := by
  intro hmem
  obtain ⟨k, hk⟩ := List.mem_iff_getElem?.1 hmem
  rw [List.getElem?_take] at hk
  split at hk
  · next hlt =>
      obtain ⟨dir', _, habove, hsame⟩ := getElem?_candidates.1 hk
      exact h.join_ne habove (by omega) (by decide) hsame
  · cases hk

end Config

namespace Workspace

/-- The configuration that a directory finds. -/
def configNear (w : Workspace) (start : Path) : Config.Loaded := w.firstConfig (Config.candidates start)

variable {w : Workspace} {start parent : Path}

theorem loadNear_run (w : Workspace) (start : Path) :
    (Config.loadNear start : StateM Workspace Config.Loaded) w = (w.configNear start, w) :=
  firstUsable_run w (Config.candidates start)

theorem configNear_eq_file_iff {p : Path} {config : Config} : w.configNear start = ⟨config, some p⟩ ↔
    ∃ n dir, n < 10 ∧ start.Above n dir ∧ p = dir.join Config.fileName ∧ w.HoldsConfig p config ∧
      ∀ k nearer, k < n → start.Above k nearer → w.LacksConfig (nearer.join Config.fileName) := by
  rw [configNear, firstConfig_eq_file_iff, nearest_iff]
  constructor
  · rintro ⟨n, hn, hholds, hnearer⟩
    obtain ⟨dir, hlt, habove, hp⟩ := Config.getElem?_candidates.1 hn
    refine ⟨n, dir, hlt, habove, hp, hholds, ?_⟩
    intro k nearer hk hnear
    exact hnearer k _ hk (Config.getElem?_candidates.2 ⟨nearer, Nat.lt_trans hk hlt, hnear, rfl⟩)
  · rintro ⟨n, dir, hlt, habove, hp, hholds, hnearer⟩
    refine ⟨n, Config.getElem?_candidates.2 ⟨dir, hlt, habove, hp⟩, hholds, ?_⟩
    intro k q hk hq
    obtain ⟨nearer, _, hnear, rfl⟩ := Config.getElem?_candidates.1 hq
    exact hnearer k nearer hk hnear

theorem configNear_eq_defaults_iff : w.configNear start = .defaults ↔
    ∀ n dir, n < 10 → start.Above n dir → w.LacksConfig (dir.join Config.fileName) := by
  rw [configNear, firstConfig_eq_defaults_iff]
  constructor
  · intro h n dir hn habove
    have hcandidate := Config.getElem?_candidates.2 ⟨dir, hn, habove, rfl⟩
    exact unusable_iff.1 (h _ (List.mem_of_getElem? hcandidate))
  · intro h p hp
    obtain ⟨n, hn⟩ := List.mem_iff_getElem?.1 hp
    obtain ⟨dir, hlt, habove, rfl⟩ := Config.getElem?_candidates.1 hn
    exact unusable_iff.2 (h n dir hlt habove)

theorem configNear_of_parent (hparent : start.parent? = some parent)
    (hlacks : w.LacksConfig (start.join Config.fileName)) :
    w.configNear start = w.firstConfig ((Config.candidates parent).take 9) := by
  rw [configNear, Config.candidates_of_parent hparent, firstConfig_of_unusable hlacks.unusable]

/-- A parent that tries ten files tries the last one after those that are left to its entry. -/
theorem configNear_of_tenth {dir : Path} (h : parent.Above 9 dir) :
    w.configNear parent = w.firstConfig ((Config.candidates parent).take 9 ++ [dir.join Config.fileName]) := by
  have htenth := Config.getElem?_candidates.2 ⟨dir, by decide, h, rfl⟩
  have hall : (Config.candidates parent).take 10 = Config.candidates parent :=
    List.take_of_length_le (Config.length_candidates_le parent)
  rw [List.take_add_one, htenth] at hall
  exact congrArg w.firstConfig hall.symm

theorem configNear_of_not_above (h : ∀ dir, ¬parent.Above 9 dir) :
    w.configNear parent = w.firstConfig ((Config.candidates parent).take 9) := by
  have hnone : (Config.candidates parent)[9]? = none := by
    rw [Option.eq_none_iff_forall_ne_some]
    intro p hp
    obtain ⟨dir, _, habove, _⟩ := Config.getElem?_candidates.1 hp
    exact h dir habove
  rw [configNear, List.take_of_length_le (List.getElem?_eq_none_iff.1 hnone)]

/-- Discovery of the configuration, in any state of the files and from any directory. It changes nothing. It finds the
configuration of the nearest of ten files that holds one, no matter in which way the nearer ones lack one, and what is
farther has no part in it; it falls back to the defaults, which come from no file, exactly when all of them lack one. A
directory that has a parent and whose own file lacks a configuration finds what the parent finds, but if that comes
from the tenth file of the parent, it finds the defaults. -/
theorem loadNear_finds_nearest (w : Workspace) (start : Path) :
    let near (dir : Path) : Config.Loaded := ((Config.loadNear dir : StateM Workspace Config.Loaded) w).1
    (Config.loadNear start : StateM Workspace Config.Loaded) w = (near start, w) ∧
      (∀ p, w.LacksConfig p ↔ ¬∃ config, w.HoldsConfig p config) ∧
      (∀ p config, near start = ⟨config, some p⟩ ↔
        ∃ n dir, n < 10 ∧ start.Above n dir ∧ p = dir.join ".returnsrcvr.toml" ∧ w.HoldsConfig p config ∧
          ∀ k nearer, k < n → start.Above k nearer → w.LacksConfig (nearer.join ".returnsrcvr.toml")) ∧
      (near start = .defaults ↔
        ∀ n dir, n < 10 → start.Above n dir → w.LacksConfig (dir.join ".returnsrcvr.toml")) ∧
      ((near start).origin = none ↔ near start = .defaults) ∧
      ∀ parent, start.parent? = some parent → w.LacksConfig (start.join ".returnsrcvr.toml") →
        ((∃ tenth, parent.Above 9 tenth ∧ (near parent).origin = some (tenth.join ".returnsrcvr.toml")) →
          near start = .defaults) ∧
        ((¬∃ tenth, parent.Above 9 tenth ∧ (near parent).origin = some (tenth.join ".returnsrcvr.toml")) →
          near start = near parent) := by
  intro near
  have hnear (dir : Path) : near dir = w.configNear dir := congrArg Prod.fst (loadNear_run w dir)
  simp only [hnear]
  refine ⟨loadNear_run w start, fun p => lacksConfig_iff, fun p config => configNear_eq_file_iff,
    configNear_eq_defaults_iff, origin_eq_none_iff, ?_⟩
  intro parent hparent hlacks
  rw [configNear_of_parent hparent hlacks]
  constructor
  · rintro ⟨tenth, habove, horigin⟩
    rw [configNear_of_tenth habove] at horigin
    exact firstConfig_of_origin_last (Config.tenth_not_mem_take habove) horigin
  · intro hother
    by_cases hten : ∃ tenth, parent.Above 9 tenth
    · obtain ⟨tenth, habove⟩ := hten
      have horigin : (w.configNear parent).origin ≠ some (tenth.join Config.fileName) :=
        fun horigin => hother ⟨tenth, habove, horigin⟩
      rw [configNear_of_tenth habove] at horigin ⊢
      exact firstConfig_of_origin_ne_last horigin
    · exact (configNear_of_not_above fun dir habove => hten ⟨dir, habove⟩).symm

/-- A configuration in the working directory. The one in `a` is not text, the one in `a/b` is a directory, and `a/b/c` is
a file. -/
def obstructed : Workspace where
  tree := { entries := [
    ([".returnsrcvr.toml"], .file "[checker]\ndisable_framework_support = \"lombok\"".toUTF8),
    (["a"], .directory), (["a", ".returnsrcvr.toml"], .file ⟨#[255]⟩),
    (["a", "b"], .directory), (["a", "b", ".returnsrcvr.toml"], .directory),
    (["a", "b", "c"], .file ByteArray.empty)] }
  directory := some []

/-- What is found from `i` comes from the tenth file that is tried there, so it is not found from `j`. -/
theorem loadNear_finds_nearest_obstructed :
    let near (dir : Path) : Config.Loaded := ((Config.loadNear dir : StateM Workspace Config.Loaded) obstructed).1
    let found : Config.Loaded := ⟨⟨⟨some "lombok"⟩⟩, some ⟨".returnsrcvr.toml"⟩⟩
    Path.parent? ⟨"a/b/c/d/e/f/g/h/i/j"⟩ = some ⟨"a/b/c/d/e/f/g/h/i"⟩ ∧
      obstructed.LacksConfig ⟨"a/b/c/d/e/f/g/h/i/j/.returnsrcvr.toml"⟩ ∧
      Path.Above ⟨"a/b/c/d/e/f/g/h/i"⟩ 9 ⟨""⟩ ∧ near ⟨"a/b/c/d/e/f/g/h/i"⟩ = found ∧
      near ⟨"a/b/c/d/e/f/g/h/i/j"⟩ = .defaults ∧ near ⟨"a/b/c/d"⟩ = near ⟨"a/b/c"⟩ := by
  intro near found
  have hblocked {p : Path} (h : obstructed.config p = .error (.io .notADirectory)) : obstructed.LacksConfig p :=
    unusable_iff.1 ⟨_, h⟩
  have hparent : Path.parent? ⟨"a/b/c/d/e/f/g/h/i/j"⟩ = some ⟨"a/b/c/d/e/f/g/h/i"⟩ := by decide +kernel
  have hlacks : obstructed.LacksConfig ⟨"a/b/c/d/e/f/g/h/i/j/.returnsrcvr.toml"⟩ := hblocked (by decide +kernel)
  have hlisted : (Path.ancestors 10 ⟨"a/b/c/d/e/f/g/h/i"⟩)[9]? = some ⟨""⟩ := by decide +kernel
  have habove := (Path.getElem?_ancestors.1 hlisted).2
  have hfound : near ⟨"a/b/c/d/e/f/g/h/i"⟩ = found := by decide +kernel
  obtain ⟨_, _, _, _, _, hten⟩ := loadNear_finds_nearest obstructed ⟨"a/b/c/d/e/f/g/h/i/j"⟩
  have hdefaults := (hten _ hparent hlacks).1 ⟨⟨""⟩, habove, congrArg Config.Loaded.origin hfound⟩
  obtain ⟨_, _, _, _, _, hfour⟩ := loadNear_finds_nearest obstructed ⟨"a/b/c/d"⟩
  have hshort : Path.parent? ⟨"a/b/c/d"⟩ = some ⟨"a/b/c"⟩ := by decide +kernel
  have hend : (Path.ancestors 10 ⟨"a/b/c"⟩)[9]? = none := by decide +kernel
  have hnone : ¬∃ tenth, Path.Above ⟨"a/b/c"⟩ 9 tenth ∧
      (near ⟨"a/b/c"⟩).origin = some (tenth.join ".returnsrcvr.toml") := by
    rintro ⟨tenth, htenth, _⟩
    have hlast : (Path.ancestors 10 ⟨"a/b/c"⟩)[9]? = some tenth := Path.getElem?_ancestors.2 ⟨by decide, htenth⟩
    rw [hend] at hlast
    cases hlast
  have hsame := (hfour _ hshort (hblocked (by decide +kernel))).2 hnone
  exact ⟨hparent, hlacks, habove, hfound, hdefaults, hsame⟩

end Workspace

end FluentThis
