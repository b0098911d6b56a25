import FluentThis.Proofs.PathWalks
/-!
What writing a file changes. Directories may be made on the way, where nothing was before, and a path that led somewhere
still leads there afterwards. Main statement: all that can come of an attempt to write a file. If it is refused, all files
are as they were; otherwise the file has what was to be written, or the beginning of it, and no other file has changed.
-/

namespace FluentThis

namespace FileTree

theorem ne_root {t : FileTree} {place : Place} (h : t.entry? place ≠ some .directory) : place ≠ [] := by
  rintro rfl
  exact h rfl

theorem entry?_set_self (t : FileTree) {place : Place} (h : place ≠ []) (e : FileEntry) :
    FileTree.entry? (t.set place e) place = some e := by
  unfold entry? set
  rw [if_neg h, List.lookup_cons_self]

theorem entry?_set_of_ne (t : FileTree) {place other : Place} (h : other ≠ place) (e : FileEntry) :
    FileTree.entry? (t.set place e) other = t.entry? other := by
  have hne : (other == place) = false := beq_false_of_ne h
  unfold entry? set
  rw [List.lookup_cons, hne]

end FileTree

/-- The directory that a path is an entry of, and those that contain it. -/
def Path.containing (p : Path) : List Path :=
  match p.parent? with
  | some dir => dir.ancestors (dir.text.length + 1)
  | none => []

namespace FileAccess

variable {m : Type → Type} [Monad m] [FileAccess m]

/-- A property of actions that several of them in a row have if each one does. -/
structure Composes (P : (α : Type) → m α → Prop) : Prop where
  pure : ∀ {α : Type} (a : α), P α (Pure.pure a)
  bind : ∀ {α β : Type} {action : m α} {next : α → m β}, P α action → (∀ a, P β (next a)) → P β (action >>= next)

/-- What is done with a directory that may have to be made has a property. -/
structure HoldsAt (P : (α : Type) → m α → Prop) (p : Path) : Prop where
  exists? : P Bool (FileAccess.exists? p)
  isDirectory : P Bool (FileAccess.isDirectory p)
  makeDirectory : P (Except IoFault Unit) (FileAccess.makeDirectory p)

namespace Composes

variable {P : (α : Type) → m α → Prop}

theorem unlessThere (h : Composes P) {p : Path} (hp : HoldsAt P p) (result : Except IoFault Unit) :
    P (Except IoFault Unit) (FileAccess.unlessThere p result) := by
  unfold FileAccess.unlessThere
  cases result with
  | ok u => exact h.pure _
  | error e =>
      apply h.bind hp.isDirectory
      intro there
      split <;> exact h.pure _

/-- The induction is on the directories that contain the first one; each of them is only asked for once the one inside
it could not be made. -/
theorem makeFirst (h : Composes P) {ps : List Path} (hps : ∀ p ∈ ps, HoldsAt P p) :
    P (Except IoFault Unit) (FileAccess.makeFirst ps) := by
  induction ps with
  | nil => exact h.pure _
  | cons p containing ih =>
      have hp := hps p List.mem_cons_self
      have hcontaining := ih fun q hq => hps q (List.mem_cons_of_mem p hq)
      rw [FileAccess.makeFirst]
      split
      · exact h.pure _
      · apply h.bind hp.makeDirectory
        intro result
        split
        · apply h.bind hcontaining
          intro result
          split
          · exact h.bind hp.makeDirectory (h.unlessThere hp)
          · exact h.pure _
        · exact h.unlessThere hp _

/-- What prepares a place for a file has a property if that holds at each directory that contains the file. -/
theorem prepare (h : Composes P) {p : Path} (hp : ∀ q ∈ p.containing, HoldsAt P q) :
    P (Except IoFault Unit) (FileAccess.prepare p) := by
  unfold Path.containing at hp
  unfold FileAccess.prepare
  cases hparent : p.parent? with
  | none => exact h.pure _
  | some dir =>
      rw [hparent] at hp
      dsimp only
      apply h.bind (hp dir List.mem_cons_self).exists?
      intro there
      split
      · exact h.pure _
      · exact h.makeFirst hp

end Composes

end FileAccess

namespace Workspace

/-- The same system: nothing differs but files and directories and what has been printed. -/
structure SameSystem (w w' : Workspace) : Prop where
  links : w'.tree.links = w.tree.links
  directory : w'.directory = w.directory
  output : w'.output = w.output
  limits : w'.limits = w.limits

namespace SameSystem

variable {w w' w'' : Workspace}

theorem refl (w : Workspace) : SameSystem w w := ⟨rfl, rfl, rfl, rfl⟩

theorem put (w : Workspace) (place : Place) (e : FileEntry) : SameSystem w (w.put place e) := ⟨rfl, rfl, rfl, rfl⟩

theorem say (w : Workspace) (s : String) : SameSystem w (w.say s) := ⟨rfl, rfl, rfl, rfl⟩

theorem trans (h : SameSystem w w') (h' : SameSystem w' w'') : SameSystem w w'' where
  links := h'.links.trans h.links
  directory := h'.directory.trans h.directory
  output := h'.output.trans h.output
  limits := h'.limits.trans h.limits

theorem locate_of_directories (h : SameSystem w w')
    (hd : ∀ place, w.tree.entry? place = some .directory → w'.tree.entry? place = some .directory) {p : Path}
    {place : Place} (hp : w.locate p = .ok place) : w'.locate p = .ok place := by
  unfold locate walk at hp ⊢
  rw [h.directory, h.limits]
  cases hs : start w.directory p with
  | none =>
      rw [hs] at hp
      cases hp
  | some first =>
      rw [hs] at hp
      exact FileTree.walk_of_directories h.links hd hp

end SameSystem

/-- Where a path leads does not depend on what stands at a place that is no directory. -/
theorem locate_put {w : Workspace} {place : Place} (h : w.tree.entry? place ≠ some .directory) (e : FileEntry)
    {p : Path} {other : Place} (hp : w.locate p = .ok other) : (w.put place e).locate p = .ok other := by
  refine (SameSystem.put w place e).locate_of_directories ?_ hp
  intro q hq
  have hne : q ≠ place := by
    rintro rfl
    exact h hq
  exact (w.tree.entry?_set_of_ne hne e).trans hq

/-- A directory is made where nothing was, or nothing changes. -/
theorem makeDirectory_cases (w : Workspace) (p : Path) :
    (∃ e, w.makeDirectory p = (.error e, w)) ∨
      ∃ place, w.locate p = .ok place ∧ w.tree.entry? place = none ∧
        w.makeDirectory p = (.ok (), w.put place .directory) := by
  unfold makeDirectory
  split
  · exact .inl ⟨_, rfl⟩
  · split
    · exact .inl ⟨_, rfl⟩
    · next place hplace =>
        split
        · exact .inl ⟨_, rfl⟩
        · next hnone =>
            split
            · exact .inl ⟨_, rfl⟩
            · exact .inr ⟨place, hplace, hnone, rfl⟩

/-- A path leads to a place that a file can be stored at, if there is not one already. -/
structure LeadsToFile (w : Workspace) (p : Path) (place : Place) : Prop where
  leads : w.locate p = .ok place
  noSlash : wantsDirectory p = false
  noDirectory : w.tree.entry? place ≠ some .directory
  noOutput : w.output ≠ some place

theorem fromUTF8?_toUTF8 (s : String) : String.fromUTF8? s.toUTF8 = some s := by
  rw [String.toUTF8_eq_toByteArray, String.fromUTF8?, dif_pos s.isValidUTF8]
  rfl

theorem fill_of_output {w : Workspace} {place : Place} (h : w.output = some place) (content : ByteArray) :
    w.fill place content = (.ok (), w.say (shown content)) := by
  rw [fill, if_pos h]

theorem fill_of_breaksOff {w : Workspace} {place : Place} {content : ByteArray} {n : Nat} {e : IoFault}
    (h : w.output ≠ some place) (hbreak : w.limits.breaksOff place content = some (n, e)) :
    w.fill place content = (.error e, w.put place (.file (content.extract 0 n))) := by
  rw [fill, if_neg h, hbreak]

theorem fill_of_not_breaksOff {w : Workspace} {place : Place} {content : ByteArray} (h : w.output ≠ some place)
    (hbreak : w.limits.breaksOff place content = none) :
    w.fill place content = (.ok (), w.put place (.file content)) := by
  rw [fill, if_neg h, hbreak]

theorem LeadsToFile.write_eq {w : Workspace} {p : Path} {place : Place} (h : w.LeadsToFile p place)
    (hallowed : w.limits.refused .write place = none) (content : ByteArray) :
    w.write p content = w.fill place content := by
  have hslash : ¬wantsDirectory p = true := ne_true_of_eq_false h.noSlash
  unfold write
  rw [h.leads]
  dsimp only
  rw [if_neg hslash]
  split
  · next hdirectory => exact absurd hdirectory h.noDirectory
  · rw [hallowed]

/-- A file is not opened, and nothing changes, or else the file that the path leads to is filled. -/
theorem write_cases (w : Workspace) (p : Path) (content : ByteArray) :
    (∃ e, w.write p content = (.error e, w)) ∨
      ∃ place, w.locate p = .ok place ∧ w.write p content = w.fill place content ∧
        (w.output = some place ∨ w.LeadsToFile p place) := by
  unfold write
  split
  · exact .inl ⟨_, rfl⟩
  · next place hplace =>
      split
      · exact .inl ⟨_, rfl⟩
      · next hslash =>
          split
          · exact .inl ⟨_, rfl⟩
          · next hdirectory =>
              split
              · exact .inl ⟨_, rfl⟩
              · refine .inr ⟨place, hplace, rfl, ?_⟩
                by_cases houtput : w.output = some place
                · exact .inl houtput
                · exact .inr ⟨hplace, eq_false_of_ne_true hslash, hdirectory, houtput⟩

/-- What was at a place is there still, or nothing was and a directory is there now, to which one of the paths leads. -/
def KeptOrMade (paths : List Path) (w w' : Workspace) (place : Place) : Prop :=
  w'.tree.entry? place = w.tree.entry? place ∨
    w.tree.entry? place = none ∧ w'.tree.entry? place = some .directory ∧ ∃ p ∈ paths, w'.locate p = .ok place

/-- Nothing has happened but that directories were made at some of the paths. -/
structure Made (paths : List Path) (w w' : Workspace) : Prop extends SameSystem w w' where
  printed : w'.printed = w.printed
  entry : ∀ place, KeptOrMade paths w w' place

namespace Made

variable {paths : List Path} {w w' w'' : Workspace}

theorem refl (paths : List Path) (w : Workspace) : Made paths w w := ⟨.refl w, rfl, fun _ => .inl rfl⟩

theorem entry_of_some (h : Made paths w w') {place : Place} {e : FileEntry} (he : w.tree.entry? place = some e) :
    w'.tree.entry? place = some e := by
  rcases h.entry place with hkept | ⟨hnone, _, _⟩
  · rw [hkept, he]
  · rw [hnone] at he
    cases he

theorem locate (h : Made paths w w') {p : Path} {place : Place} (hp : w.locate p = .ok place) :
    w'.locate p = .ok place :=
  h.toSameSystem.locate_of_directories (fun _ hd => h.entry_of_some hd) hp

theorem trans (h : Made paths w w') (h' : Made paths w' w'') : Made paths w w'' := by
  refine ⟨h.toSameSystem.trans h'.toSameSystem, h'.printed.trans h.printed, fun place => ?_⟩
  rcases h.entry place with hkept | ⟨hnone, hmade, p, hp, hplace⟩
  · rcases h'.entry place with hkept' | ⟨hnone', hmade', hp'⟩
    · exact .inl (hkept'.trans hkept)
    · exact .inr ⟨hkept ▸ hnone', hmade', hp'⟩
  · exact .inr ⟨hnone, h'.entry_of_some hmade, p, hp, h'.locate hplace⟩

end Made

/-- Whatever it starts from, an action does nothing but make directories at some of the paths. -/
def MakesOnly {α : Type} (paths : List Path) (action : StateM Workspace α) : Prop := ∀ w, Made paths w (action w).2

namespace MakesOnly

variable {paths : List Path}

theorem composes (paths : List Path) :
    FileAccess.Composes fun α (action : StateM Workspace α) => MakesOnly paths action where
  pure _ w := .refl paths w
  bind h hnext w := (h w).trans (hnext _ _)

theorem makeDirectory {p : Path} (hp : p ∈ paths) :
    MakesOnly paths (FileAccess.makeDirectory p : StateM Workspace (Except IoFault Unit)) := by
  intro w
  change Made paths w (w.makeDirectory p).2
  rcases w.makeDirectory_cases p with ⟨e, hrun⟩ | ⟨place, hplace, hnone, hrun⟩
  · rw [hrun]
    exact .refl paths w
  · rw [hrun]
    have hfree : w.tree.entry? place ≠ some .directory := by simp [hnone]
    refine ⟨.put w place _, rfl, fun other => ?_⟩
    by_cases hother : other = place
    · subst hother
      exact .inr ⟨hnone, w.tree.entry?_set_self (FileTree.ne_root hfree) _, p, hp, locate_put hfree _ hplace⟩
    · exact .inl (w.tree.entry?_set_of_ne hother _)

theorem prepare (p : Path) :
    MakesOnly p.containing (FileAccess.prepare p : StateM Workspace (Except IoFault Unit)) := by
  apply (composes p.containing).prepare
  intro q hq
  exact ⟨fun w => .refl _ w, fun w => .refl _ w, makeDirectory hq⟩

end MakesOnly

/-- A file was written at the place that a path leads to, and directories were made on the way to it. Nothing else has
changed. -/
structure Wrote (p : Path) (place : Place) (content : ByteArray) (w w' : Workspace) : Prop extends SameSystem w w' where
  printed : w'.printed = w.printed
  leads : w'.locate p = .ok place
  noSlash : wantsDirectory p = false
  noOutput : w.output ≠ some place
  file : w'.tree.entry? place = some (.file content)
  others : ∀ other, other ≠ place → KeptOrMade p.containing w w' other

theorem Made.wrote {p : Path} {place : Place} {w made : Workspace} (hmade : Made p.containing w made)
    (h : made.LeadsToFile p place) (content : ByteArray) : Wrote p place content w (made.put place (.file content)) := by
  have hstored := made.tree.entry?_set_self (FileTree.ne_root h.noDirectory) (.file content)
  have houtput : w.output ≠ some place := hmade.output ▸ h.noOutput
  refine ⟨hmade.toSameSystem.trans (.put made place _), hmade.printed, locate_put h.noDirectory _ h.leads, h.noSlash,
    houtput, hstored, fun other hother => ?_⟩
  have hkept : (made.put place (.file content)).tree.entry? other = made.tree.entry? other :=
    made.tree.entry?_set_of_ne hother (.file content)
  rw [KeptOrMade, hkept]
  rcases hmade.entry other with hsame | ⟨hnone, hnew, q, hq, hlead⟩
  · exact .inl hsame
  · exact .inr ⟨hnone, hnew, q, hq, locate_put h.noDirectory _ hlead⟩

/-- All that can come of an attempt to write a file. -/
inductive Writing (p : Path) (content : ByteArray) (w : Workspace) : Except IoFault Unit → Workspace → Prop where
  | refused {e : IoFault} {w' : Workspace} (made : Made p.containing w w') : Writing p content w (.error e) w'
  | brokenOff {e : IoFault} {place : Place} {n : Nat} {w' : Workspace}
      (cause : w.limits.breaksOff place content = some (n, e))
      (wrote : Wrote p place (content.extract 0 n) w w') : Writing p content w (.error e) w'
  | printed {place : Place} {made : Workspace} (prepared : Made p.containing w made)
      (leads : made.locate p = .ok place) (output : w.output = some place) :
      Writing p content w (.ok ()) (made.say (shown content))
  | stored {place : Place} {w' : Workspace} (wrote : Wrote p place content w w') : Writing p content w (.ok ()) w'

theorem writeFile_run (p : Path) (content : ByteArray) (w : Workspace) :
    (FileAccess.writeFile p content : StateM Workspace (Except IoFault Unit)) w =
      match (FileAccess.prepare p : StateM Workspace (Except IoFault Unit)) w with
      | (.ok (), made) => made.write p content
      | (.error e, made) => (.error e, made) := by
  simp only [FileAccess.writeFile, bind, StateT.bind]
  cases (FileAccess.prepare p : StateM Workspace (Except IoFault Unit)) w with
  | mk result made => cases result <;> rfl

theorem Made.writing {p : Path} {w made : Workspace} (hmade : Made p.containing w made) (content : ByteArray) :
    Writing p content w (made.write p content).1 (made.write p content).2 := by
  rcases made.write_cases p content with ⟨e, hrun⟩ | ⟨place, hplace, hrun, htarget⟩
  · rw [hrun]
    exact .refused hmade
  · rw [hrun]
    rcases htarget with houtput | hfile
    · rw [fill_of_output houtput]
      exact .printed hmade hplace (hmade.output ▸ houtput)
    · cases hbreak : made.limits.breaksOff place content with
      | none =>
          rw [fill_of_not_breaksOff hfile.noOutput hbreak]
          exact .stored (hmade.wrote hfile content)
      | some cut =>
          obtain ⟨n, e⟩ := cut
          rw [fill_of_breaksOff hfile.noOutput hbreak]
          exact .brokenOff (hmade.limits ▸ hbreak) (hmade.wrote hfile _)

theorem writeFile_writing {p : Path} {content : ByteArray} {w w' : Workspace} {result : Except IoFault Unit}
    (h : (FileAccess.writeFile p content : StateM Workspace (Except IoFault Unit)) w = (result, w')) :
    Writing p content w result w' := by
  have hmade := MakesOnly.prepare p w
  rw [writeFile_run] at h
  cases hp : (FileAccess.prepare p : StateM Workspace (Except IoFault Unit)) w with
  | mk prepared made =>
      rw [hp] at h hmade
      cases prepared with
      | error e =>
          cases h
          exact .refused hmade
      | ok u =>
          have hwriting := hmade.writing content
          simp only at h
          rwa [h] at hwriting

end Workspace

/-- A disk that is full takes nothing of what is to be written. -/
def Limits.fullDisk : Limits where
  breaksOff _ _ := some (0, .other "No space left on device (os error 28)")

end FluentThis
