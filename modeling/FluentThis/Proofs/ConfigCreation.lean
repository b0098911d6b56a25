import FluentThis.Command.Initializing
import FluentThis.Proofs.ConfigDiscovery
import FluentThis.Proofs.DirectoryEntries
/-!
The configuration file that is written on demand. It sets nothing, so whoever finds it has the defaults. Main statement:
what is there is not touched unless that is asked for, a file that is written is the only one that changes and is found
from its directory and from those below, and what cannot be written leaves all files as they are, unless the system
breaks off the writing.
-/

namespace FluentThis

namespace Config

theorem isEntryName_fileName : IsEntryName fileName := by
  constructor <;> decide

theorem ofToml_template : ofToml template = .ok {} := by
  decide +kernel

end Config

namespace Workspace

/-- Two directories whose files are at one place have the same file there. -/
theorem read_join_congr {w : Workspace} {dir dir' : Path}
    (h : w.locate (dir.join Config.fileName) = w.locate (dir'.join Config.fileName)) :
    w.read (dir.join Config.fileName) = w.read (dir'.join Config.fileName) := by
  simp only [read, entry, refusal, h, wantsDirectory_join _ Config.isEntryName_fileName]

theorem entry_of_file {w : Workspace} {p : Path} {place : Place} {content : ByteArray} (hp : w.locate p = .ok place)
    (hslash : wantsDirectory p = false) (h : w.tree.entry? place = some (.file content)) :
    w.entry p = .ok (.file content) := by
  rw [entry, hp]
  dsimp only
  rw [h]
  dsimp only
  rw [if_neg (ne_true_of_eq_false hslash)]

namespace Wrote

variable {p : Path} {place : Place} {content : ByteArray} {w w' : Workspace}

theorem entry (h : Wrote p place content w w') : w'.entry p = .ok (.file content) :=
  entry_of_file h.leads h.noSlash h.file

theorem read (h : Wrote p place content w w') (hallowed : w.limits.refused .read place = none) :
    w'.read p = .ok content := by
  refine read_eq_ok_iff.2 ⟨h.entry, ?_⟩
  rw [refusal, h.leads, h.limits]
  exact hallowed

end Wrote

/-- No file is made or changed at a place where what was there is kept or a directory is made. -/
theorem KeptOrMade.file_iff {paths : List Path} {w w' : Workspace} {place : Place} (h : KeptOrMade paths w w' place)
    (content : ByteArray) :
    w'.tree.entry? place = some (.file content) ↔ w.tree.entry? place = some (.file content) := by
  rcases h with hkept | ⟨hnone, hmade, _⟩
  · rw [hkept]
  · rw [hnone, hmade]
    exact iff_of_false nofun nofun

/-- A directory finds the file that was written in one above it, or where one above it keeps its own, if no nearer file
holds a configuration. -/
theorem configNear_of_read {w : Workspace} {dir start above : Path} {n : Nat}
    (hread : w.read (dir.join Config.fileName) = .ok Config.template.toUTF8) (hn : n < 10)
    (habove : start.Above n above)
    (hsame : w.locate (above.join Config.fileName) = w.locate (dir.join Config.fileName))
    (hnearer : ∀ k nearer, k < n → start.Above k nearer → w.LacksConfig (nearer.join Config.fileName)) :
    w.configNear start = ⟨{}, some (above.join Config.fileName)⟩ := by
  have hholds : w.HoldsConfig (above.join Config.fileName) {} :=
    .intro ((read_join_congr hsame).trans hread) (fromUTF8?_toUTF8 _) Config.ofToml_template
  exact configNear_eq_file_iff.2 ⟨n, above, hn, habove, rfl, hholds, hnearer⟩

end Workspace

namespace Config

variable (dir : Path) (force : Bool) (w : Workspace)

/-- What is said when a configuration file has been written. -/
def createdMessage : String := "Created " ++ fileName ++ " configuration file\n"

theorem create_run :
    (create dir force : StateM Workspace (Except CommandFailure Unit)) w =
      if (w.entry (dir.join fileName)).toBool && !force then (.error .configExists, w)
      else
        match (FileAccess.writeFile (dir.join fileName) template.toUTF8 : StateM Workspace (Except IoFault Unit)) w with
        | (.error e, w') => (.error (.notWritten e), w')
        | (.ok (), w') => (.ok (), w'.say createdMessage) := by
  simp only [create, bind, StateT.bind, FileAccess.exists?]
  split
  · rfl
  · simp only [StateT.bind]
    cases (FileAccess.writeFile (dir.join fileName) template.toUTF8 : StateM Workspace (Except IoFault Unit)) w with
    | mk result w' => cases result <;> rfl

variable {dir force w} {w' : Workspace}

theorem create_of_there {e : FileEntry} (h : w.entry (dir.join fileName) = .ok e) :
    (create dir false : StateM Workspace (Except CommandFailure Unit)) w = (.error .configExists, w) := by
  rw [create_run, h]
  rfl

/-- Creation that fails is refused, or the file cannot be written. -/
theorem create_error {e : CommandFailure}
    (h : (create dir force : StateM Workspace (Except CommandFailure Unit)) w = (.error e, w')) :
    e = .configExists ∧ w' = w ∨
      ∃ cause, e = .notWritten cause ∧ w.Writing (dir.join fileName) template.toUTF8 (.error cause) w' := by
  rw [create_run] at h
  split at h
  · cases h
    exact .inl ⟨rfl, rfl⟩
  · split at h
    · next cause written hwrite =>
        cases h
        exact .inr ⟨cause, rfl, Workspace.writeFile_writing hwrite⟩
    · cases h

theorem create_ok (h : (create dir force : StateM Workspace (Except CommandFailure Unit)) w = (.ok (), w')) :
    ∃ written, w.Writing (dir.join fileName) template.toUTF8 (.ok ()) written ∧ w' = written.say createdMessage := by
  rw [create_run] at h
  split at h
  · cases h
  · split at h
    · cases h
    · next written hwrite =>
        cases h
        exact ⟨written, Workspace.writeFile_writing hwrite, rfl⟩

/-- In a directory that is there, creation succeeds when there is nothing in the place of the file, and also when there
is a file and creation is forced, if the system lets it happen. -/
theorem create_of_directory {place : Place} (h : w.entry dir = .ok .directory)
    (hfile : w.LeadsToFile (dir.join fileName) place) (hfree : w.tree.entry? place = none ∨ force = true)
    (hallowed : w.limits.refused .write place = none) (hwhole : w.limits.breaksOff place template.toUTF8 = none) :
    ∃ w', (create dir force : StateM Workspace (Except CommandFailure Unit)) w = (.ok (), w') := by
  have hunhindered : ((w.entry (dir.join fileName)).toBool && !force) ≠ true := by
    rcases hfree with hnone | hforced
    · have hentry : w.entry (dir.join fileName) = .error .notFound := by
        rw [Workspace.entry, hfile.leads]
        dsimp only
        rw [hnone]
      rw [hentry]
      exact Bool.false_ne_true
    · rw [hforced, Bool.not_true, Bool.and_false]
      exact Bool.false_ne_true
  rw [create_run, if_neg hunhindered, Workspace.writeFile_of_directory h isEntryName_fileName hfile hallowed hwhole]
  exact ⟨_, rfl⟩

/-- A file that was created is what its directory finds, and every directory that tries it before any other file with a
configuration. -/
theorem near_of_wrote {written : Workspace} {place : Place} {start above : Path} {n : Nat}
    (hwrote : w.Wrote (dir.join fileName) place template.toUTF8 written)
    (hallowed : w.limits.refused .read place = none) (hn : n < 10) (habove : start.Above n above)
    (hsame : written.locate (above.join fileName) = .ok place)
    (hnearer : ∀ k nearer, k < n → start.Above k nearer →
      (written.say createdMessage).LacksConfig (nearer.join fileName)) :
    ((loadNear start : StateM Workspace Loaded) (written.say createdMessage)).1 =
      ⟨{}, some (above.join fileName)⟩ := by
  -- printing has no part in where a path leads and in what is there
  have hread : (written.say createdMessage).read (dir.join fileName) = .ok template.toUTF8 := hwrote.read hallowed
  have hplace : (written.say createdMessage).locate (above.join fileName) =
      (written.say createdMessage).locate (dir.join fileName) := hsame.trans hwrote.leads.symm
  rw [Workspace.loadNear_run]
  exact Workspace.configNear_of_read hread hn habove hplace hnearer

/-- Creation of a configuration file in a directory, in any state of the files. If its path leads to anything and creation
is not forced, it is refused and nothing changes. It succeeds if the directory is there, nothing is in the way, and the
system lets it happen. A file that is created is the only file that is new or different. Unless writing is printing
there, another creation that is not forced is refused, and if the file may be read, it is what its directory finds,
whatever the directories above hold, and what every directory finds that tries it, under this path or another one to the
same place, if no nearer file holds a configuration; it leaves all settings at their defaults. A creation that fails
leaves every file as it is, unless the system breaks off the writing; then the one file that its path leads to has the
beginning of what was to be written. -/
theorem create_protects_and_applies (dir : Path) (force : Bool) (w : Workspace) :
    let file := dir.join ".returnsrcvr.toml"
    let creation (force : Bool) (w : Workspace) :=
      (create dir force : StateM Workspace (Except CommandFailure Unit)) w
    let near (w : Workspace) (start : Path) := ((loadNear start : StateM Workspace Loaded) w).1
    (∀ e, w.entry file = .ok e → force = false → creation force w = (.error .configExists, w)) ∧
      (∀ place, w.entry dir = .ok .directory → w.LeadsToFile file place →
        w.tree.entry? place = none ∨ force = true → w.limits.refused .write place = none →
        w.limits.breaksOff place template.toUTF8 = none → ∃ w', creation force w = (.ok (), w')) ∧
      (∀ w', creation force w = (.ok (), w') →
        ∃ place, w'.locate file = .ok place ∧ w'.tree.links = w.tree.links ∧
          (∀ other content, other ≠ place →
            (w'.tree.entry? other = some (.file content) ↔ w.tree.entry? other = some (.file content))) ∧
          (w.output ≠ some place →
            creation false w' = (.error .configExists, w') ∧
            (w.limits.refused .read place = none →
              near w' dir = ⟨{}, some file⟩ ∧
              ∀ start n above, n < 10 → start.Above n above →
                w'.locate (above.join ".returnsrcvr.toml") = .ok place →
                (∀ k nearer, k < n → start.Above k nearer → w'.LacksConfig (nearer.join ".returnsrcvr.toml")) →
                near w' start = ⟨{}, some (above.join ".returnsrcvr.toml")⟩))) ∧
      ∀ e w', creation force w = (.error e, w') →
        (∀ place content, w.tree.entry? place = some (.file content) →
          w'.tree.entry? place = some (.file content)) ∨
        ∃ place n cause, e = .notWritten cause ∧ w.limits.breaksOff place template.toUTF8 = some (n, cause) ∧
          w.Wrote file place (template.toUTF8.extract 0 n) w' := by
  intro file creation near
  refine ⟨?_, fun place => create_of_directory, ?_, ?_⟩
  · rintro e hthere rfl
    exact create_of_there hthere
  · intro w' hcreated
    obtain ⟨written, hwriting, rfl⟩ := create_ok hcreated
    cases hwriting with
    | @printed place made prepared leads output =>
        refine ⟨place, leads, prepared.links, fun other content _ => (prepared.entry other).file_iff content, ?_⟩
        intro houtput
        exact absurd output houtput
    | @stored place _ wrote =>
        refine ⟨place, wrote.leads, wrote.links, fun other content hother => (wrote.others other hother).file_iff content,
          fun _ => ⟨create_of_there wrote.entry, fun hallowed => ⟨?_, ?_⟩⟩⟩
        · exact near_of_wrote wrote hallowed (by decide) (.self dir) wrote.leads fun k _ hk =>
            absurd hk (Nat.not_lt_zero k)
        · intro start n above hn habove hsame hnearer
          exact near_of_wrote wrote hallowed hn habove hsame hnearer
  · intro e w' hfailed
    rcases create_error hfailed with ⟨_, rfl⟩ | ⟨cause, rfl, hwriting⟩
    · exact .inl fun place content hfile => hfile
    · cases hwriting with
      | refused made => exact .inl fun place content hfile => made.entry_of_some hfile
      | brokenOff stopped wrote => exact .inr ⟨_, _, cause, rfl, stopped, wrote⟩

/-- The working directory has a configuration that sets something, and `a` has one of its own. In `l` there is a link to
a file that is not there. -/
def configured (limits : Limits) : Workspace where
  tree := {
    entries := [
      ([".returnsrcvr.toml"], .file "[checker]\ndisable_framework_support = \"lombok\"".toUTF8),
      (["a"], .directory), (["a", ".returnsrcvr.toml"], .file ByteArray.empty), (["l"], .directory)]
    links := [(["l", ".returnsrcvr.toml"], ⟨false, ["other.toml"]⟩)] }
  directory := some []
  limits := limits

/-- Creation that is not forced replaces a file if its path leads there only once a directory has been made for it, and
where there is a link that leads nowhere, it makes another file. On a disk that is full a creation that fails has emptied
the file. -/
theorem create_replaces_and_empties :
    let creation (dir : Path) (force : Bool) (w : Workspace) :=
      (create dir force : StateM Workspace (Except CommandFailure Unit)) w
    (configured {}).read ⟨"a/.returnsrcvr.toml"⟩ = .ok ByteArray.empty ∧
      (creation ⟨"x/../a"⟩ false (configured {})).1 = .ok () ∧
      (creation ⟨"x/../a"⟩ false (configured {})).2.read ⟨"a/.returnsrcvr.toml"⟩ ≠ .ok ByteArray.empty ∧
      (configured {}).read ⟨"l/other.toml"⟩ = .error .notFound ∧
      (creation ⟨"l"⟩ false (configured {})).1 = .ok () ∧
      (creation ⟨"l"⟩ false (configured {})).2.read ⟨"l/other.toml"⟩ ≠ .error .notFound ∧
      (configured .fullDisk).read ⟨".returnsrcvr.toml"⟩ ≠ .ok ByteArray.empty ∧
      (creation ⟨"."⟩ true (configured .fullDisk)).1 =
        .error (.notWritten (.other "No space left on device (os error 28)")) ∧
      (creation ⟨"."⟩ true (configured .fullDisk)).2.read ⟨".returnsrcvr.toml"⟩ = .ok ByteArray.empty := by
  decide +kernel

/-- In `a` creation is refused unless it is forced. In `b/c`, which is not there yet, it is not, and the file is found
from `b/c/d`, which comes to it under another path. -/
theorem create_protects_and_applies_nested :
    let creation (dir : Path) (force : Bool) (w : Workspace) :=
      (create dir force : StateM Workspace (Except CommandFailure Unit)) w
    let near (w : Workspace) (start : Path) := ((loadNear start : StateM Workspace Loaded) w).1
    creation ⟨"a"⟩ false (configured {}) = (.error .configExists, configured {}) ∧
      (∃ w', creation ⟨"a"⟩ true (configured {}) = (.ok (), w')) ∧
      ∃ w', creation ⟨"./b/c"⟩ false (configured {}) = (.ok (), w') ∧
        (∀ content, w'.tree.entry? [".returnsrcvr.toml"] = some (.file content) ↔
          (configured {}).tree.entry? [".returnsrcvr.toml"] = some (.file content)) ∧
        near w' ⟨"./b/c"⟩ = ⟨{}, some ⟨"./b/c/.returnsrcvr.toml"⟩⟩ ∧
        near w' ⟨"b/c/d"⟩ = ⟨{}, some ⟨"b/c/.returnsrcvr.toml"⟩⟩ ∧
        creation ⟨"./b/c"⟩ false w' = (.error .configExists, w') := by
  intro creation near
  obtain ⟨hprotects, _, _, _⟩ := create_protects_and_applies ⟨"a"⟩ false (configured {})
  obtain ⟨_, hsucceeds, _, _⟩ := create_protects_and_applies ⟨"a"⟩ true (configured {})
  obtain ⟨_, _, happlies, _⟩ := create_protects_and_applies ⟨"./b/c"⟩ false (configured {})
  have hleads : (configured {}).locate ⟨"a/.returnsrcvr.toml"⟩ = .ok ["a", ".returnsrcvr.toml"] := by decide +kernel
  have hstands : (configured {}).tree.entry? ["a", ".returnsrcvr.toml"] = some (.file ByteArray.empty) := rfl
  have hslash : Workspace.wantsDirectory ⟨"a/.returnsrcvr.toml"⟩ = false := by decide +kernel
  have hthere : (configured {}).entry ⟨"a/.returnsrcvr.toml"⟩ = .ok (.file ByteArray.empty) :=
    Workspace.entry_of_file hleads hslash hstands
  have hfile : (configured {}).LeadsToFile ⟨"a/.returnsrcvr.toml"⟩ ["a", ".returnsrcvr.toml"] :=
    ⟨hleads, hslash, by simp [hstands], by decide⟩
  have hdir : (configured {}).entry ⟨"a"⟩ = .ok .directory :=
    Workspace.entry_eq_directory_iff.2 ⟨["a"], by decide +kernel, rfl⟩
  have hforced : ∃ w', creation ⟨"a"⟩ true (configured {}) = (.ok (), w') :=
    hsucceeds _ hdir hfile (.inr rfl) rfl rfl
  have hdone : (creation ⟨"./b/c"⟩ false (configured {})).1 = .ok () := by decide +kernel
  obtain ⟨w', hw'⟩ : ∃ w', w' = (creation ⟨"./b/c"⟩ false (configured {})).2 := ⟨_, rfl⟩
  have hrun : creation ⟨"./b/c"⟩ false (configured {}) = (.ok (), w') := Prod.ext hdone hw'.symm
  obtain ⟨place, hplace, _, hothers, hstored⟩ := happlies w' hrun
  have hplace' : w'.locate ⟨"./b/c/.returnsrcvr.toml"⟩ = .ok ["b", "c", ".returnsrcvr.toml"] := by
    rw [hw']
    decide +kernel
  have hsame : w'.locate ⟨"b/c/.returnsrcvr.toml"⟩ = .ok ["b", "c", ".returnsrcvr.toml"] := by
    rw [hw']
    decide +kernel
  have hmissing : w'.config ⟨"b/c/d/.returnsrcvr.toml"⟩ = .error (.io .notFound) := by
    rw [hw']
    decide +kernel
  have habove : Path.Above ⟨"b/c/d"⟩ 1 ⟨"b/c"⟩ := .up (by decide +kernel) (.self _)
  cases hplace.symm.trans hplace'
  obtain ⟨hagain, hfound⟩ := hstored (by decide)
  obtain ⟨hnear, hbelow⟩ := hfound rfl
  refine ⟨hprotects _ hthere rfl, hforced, w', hrun, fun content => hothers _ content (by decide), hnear, ?_, hagain⟩
  refine hbelow _ 1 _ (by decide) habove hsame ?_
  intro k nearer hk hnearer
  rw [Nat.lt_one_iff.1 hk, Path.above_zero_iff] at hnearer
  rw [hnearer]
  exact Workspace.unusable_iff.1 ⟨_, hmissing⟩

end Config

end FluentThis
