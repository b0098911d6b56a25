import FluentThis.Proofs.PathTrails
import FluentThis.Proofs.WorkspaceReading
/-!
Workspaces that differ at some places only, and what cannot tell them apart. Main statement: files are read and written
in the same way in both as long as no path passes through a place where they differ, and nothing changes there.
-/

namespace FluentThis

namespace Workspace

/-- Nothing differs but the files, directories and links at hidden places. -/
structure AgreesOff (hidden : Place → Prop) (w w' : Workspace) : Prop where
  directory : w'.directory = w.directory
  printed : w'.printed = w.printed
  output : w'.output = w.output
  limits : w'.limits = w.limits
  same : ∀ place, ¬hidden place → w.tree.SameAt w'.tree place

/-- No hidden place is on the way of a path, nor at its end. -/
def Avoids (w : Workspace) (hidden : Place → Prop) (p : Path) : Prop := ∀ place ∈ w.trail p, ¬hidden place

section

variable {hidden : Place → Prop} {w w' : Workspace} {p : Path}

theorem AgreesOff.sameAt (h : AgreesOff hidden w w') (hp : w.Avoids hidden p) :
    ∀ place ∈ w.trail p, w.tree.SameAt w'.tree place :=
  fun place hplace => h.same place (hp place hplace)

theorem AgreesOff.locate (h : AgreesOff hidden w w') (hp : w.Avoids hidden p) : w'.locate p = w.locate p :=
  locate_congr h.directory h.limits (h.sameAt hp)

theorem AgreesOff.namesLink (h : AgreesOff hidden w w') (hp : w.Avoids hidden p) : w'.namesLink p = w.namesLink p :=
  namesLink_congr h.directory h.limits (h.sameAt hp)

theorem AgreesOff.entry_eq (h : AgreesOff hidden w w') (hp : w.Avoids hidden p) : w'.entry p = w.entry p := by
  unfold Workspace.entry
  rw [h.locate hp]
  cases hl : w.locate p with
  | error e => rfl
  | ok place =>
      dsimp only
      rw [(h.sameAt hp place (mem_trail_of_locate hl)).entry]

theorem AgreesOff.read (h : AgreesOff hidden w w') (hp : w.Avoids hidden p) : w'.read p = w.read p := by
  unfold Workspace.read refusal
  rw [h.entry_eq hp, h.locate hp, h.limits]

theorem AgreesOff.program (h : AgreesOff hidden w w') (hp : w.Avoids hidden p) : w'.program p = w.program p := by
  unfold Workspace.program text
  rw [h.read hp]

/-- Printing the same in both, or storing the same at one place, makes no difference where there was none. -/
theorem AgreesOff.say (h : AgreesOff hidden w w') (s : String) : AgreesOff hidden (w.say s) (w'.say s) where
  directory := h.directory
  printed := congrArg (· ++ s) h.printed
  output := h.output
  limits := h.limits
  same := h.same

theorem AgreesOff.put (h : AgreesOff hidden w w') (place : Place) (e : FileEntry) :
    AgreesOff hidden (w.put place e) (w'.put place e) where
  directory := h.directory
  printed := h.printed
  output := h.output
  limits := h.limits
  same other hother := by
    refine ⟨?_, (h.same other hother).link⟩
    show FileTree.entry? (w'.tree.set place e) other = FileTree.entry? (w.tree.set place e) other
    by_cases heq : other = place
    · subst heq
      by_cases hroot : other = []
      · subst hroot
        rfl
      · rw [FileTree.entry?_set_self _ hroot, FileTree.entry?_set_self _ hroot]
    · rw [FileTree.entry?_set_of_ne _ heq, FileTree.entry?_set_of_ne _ heq]
      exact (h.same other hother).entry

theorem Avoids.containing (hp : w.Avoids hidden p) {q : Path} (hq : q ∈ p.containing) : w.Avoids hidden q :=
  fun place hplace => hp place (trail_containing_subset hq w hplace)

theorem Avoids.of_sameSystem (hp : w.Avoids hidden p) (h : SameSystem w w') : w'.Avoids hidden p := by
  unfold Avoids
  rwa [h.trail]

end

/-- How two runs of an action end alike: with one answer, still with no difference but at hidden places, and with
those places as they were. -/
structure RunsAlike {α : Type} (hidden : Place → Prop) (w w' : Workspace) (result result' : α × Workspace) : Prop where
  answer : result'.1 = result.1
  agrees : AgreesOff hidden result.2 result'.2
  same : SameSystem w result.2
  same' : SameSystem w' result'.2
  kept : ∀ place, hidden place → result.2.tree.entry? place = w.tree.entry? place
  kept' : ∀ place, hidden place → result'.2.tree.entry? place = w'.tree.entry? place

/-- An action that does not tell workspaces apart that differ at hidden places only, in a system as that of the given
one. -/
def Blind {α : Type} (here : Workspace) (hidden : Place → Prop) (action : StateM Workspace α) : Prop :=
  ∀ w w', SameSystem here w → AgreesOff hidden w w' → RunsAlike hidden w w' (action w) (action w')

section

variable {α β : Type} {here : Workspace} {hidden : Place → Prop} {w w' : Workspace}

theorem RunsAlike.of_agrees (h : AgreesOff hidden w w') (a : α) : RunsAlike hidden w w' (a, w) (a, w') :=
  ⟨rfl, h, .refl w, .refl w', fun _ _ => rfl, fun _ _ => rfl⟩

theorem RunsAlike.say (h : AgreesOff hidden w w') (a : α) (s : String) :
    RunsAlike hidden w w' (a, w.say s) (a, w'.say s) :=
  ⟨rfl, h.say s, .say w s, .say w' s, fun _ _ => rfl, fun _ _ => rfl⟩

theorem RunsAlike.put (h : AgreesOff hidden w w') (a : α) {place : Place} (hplace : ¬hidden place) (e : FileEntry) :
    RunsAlike hidden w w' (a, w.put place e) (a, w'.put place e) := by
  have hkept (t : FileTree) (other : Place) (hother : hidden other) :
      FileTree.entry? (t.set place e) other = t.entry? other := by
    apply FileTree.entry?_set_of_ne
    rintro rfl
    exact hplace hother
  exact ⟨rfl, h.put place e, .put w place e, .put w' place e, hkept w.tree, hkept w'.tree⟩

theorem RunsAlike.fill (h : AgreesOff hidden w w') {place : Place} (hplace : ¬hidden place) (content : ByteArray) :
    RunsAlike hidden w w' (w.fill place content) (w'.fill place content) := by
  unfold Workspace.fill
  rw [h.output, h.limits]
  split
  · exact .say h _ _
  · split
    · exact .put h _ hplace _
    · exact .put h _ hplace _

namespace Blind

/-- An action that only reads is blind if what it reads is the same. -/
theorem of_reads {action : StateM Workspace α} {f : Workspace → α} (hrun : ∀ w, action w = (f w, w))
    (hf : ∀ w w', SameSystem here w → AgreesOff hidden w w' → f w' = f w) : Blind here hidden action := by
  intro w w' hhere h
  rw [hrun, hrun, hf w w' hhere h]
  exact .of_agrees h _

theorem pure (here : Workspace) (hidden : Place → Prop) (a : α) :
    Blind here hidden (Pure.pure a : StateM Workspace α) :=
  fun _ _ _ h => .of_agrees h a

/-- The next action starts where the first one has left both workspaces, which is where they still agree. -/
theorem bind {action : StateM Workspace α} {next : α → StateM Workspace β} (h : Blind here hidden action)
    (hnext : ∀ a, Blind here hidden (next a)) : Blind here hidden (action >>= next) := by
  intro w w' hhere hagrees
  have hfirst := h w w' hhere hagrees
  have hthen := hnext (action w).1 (action w).2 (action w').2 (hhere.trans hfirst.same) hfirst.agrees
  show RunsAlike hidden w w' (next (action w).1 (action w).2) (next (action w').1 (action w').2)
  rw [hfirst.answer]
  constructor
  · exact hthen.answer
  · exact hthen.agrees
  · exact hfirst.same.trans hthen.same
  · exact hfirst.same'.trans hthen.same'
  · exact fun place hplace => (hthen.kept place hplace).trans (hfirst.kept place hplace)
  · exact fun place hplace => (hthen.kept' place hplace).trans (hfirst.kept' place hplace)

theorem composes (here : Workspace) (hidden : Place → Prop) :
    FileAccess.Composes fun α (action : StateM Workspace α) => Blind here hidden action :=
  ⟨pure here hidden, bind⟩

theorem print (here : Workspace) (hidden : Place → Prop) (s : String) :
    Blind here hidden (FileAccess.print s : StateM Workspace Unit) :=
  fun _ _ _ h => .say h _ s

variable {p : Path}

theorem exists? (hp : here.Avoids hidden p) :
    Blind here hidden (FileAccess.exists? p : StateM Workspace Bool) := by
  apply of_reads fun _ => rfl
  intro w w' hhere h
  rw [h.entry_eq (hp.of_sameSystem hhere)]

theorem isDirectory (hp : here.Avoids hidden p) :
    Blind here hidden (FileAccess.isDirectory p : StateM Workspace Bool) := by
  apply of_reads fun _ => rfl
  intro w w' hhere h
  rw [h.entry_eq (hp.of_sameSystem hhere)]

theorem write (hp : here.Avoids hidden p) (content : ByteArray) :
    Blind here hidden (FileAccess.write p content : StateM Workspace (Except IoFault Unit)) := by
  intro w w' hhere h
  have havoids := hp.of_sameSystem hhere
  show RunsAlike hidden w w' (w.write p content) (w'.write p content)
  unfold Workspace.write
  rw [h.locate havoids, h.limits]
  cases hl : w.locate p with
  | error e => exact .of_agrees h _
  | ok place =>
      have hplace := mem_trail_of_locate hl
      dsimp only
      rw [(h.sameAt havoids place hplace).entry]
      split
      · exact .of_agrees h _
      · split
        · exact .of_agrees h _
        · split
          · exact .of_agrees h _
          · exact .fill h (havoids place hplace) content

theorem makeDirectory (hp : here.Avoids hidden p) :
    Blind here hidden (FileAccess.makeDirectory p : StateM Workspace (Except IoFault Unit)) := by
  intro w w' hhere h
  have havoids := hp.of_sameSystem hhere
  show RunsAlike hidden w w' (w.makeDirectory p) (w'.makeDirectory p)
  unfold Workspace.makeDirectory
  rw [h.namesLink havoids, h.locate havoids, h.limits]
  split
  · exact .of_agrees h _
  · cases hl : w.locate p with
    | error e => exact .of_agrees h _
    | ok place =>
        have hplace := mem_trail_of_locate hl
        dsimp only
        rw [(h.sameAt havoids place hplace).entry]
        split
        · exact .of_agrees h _
        · split
          · exact .of_agrees h _
          · exact .put h _ (havoids place hplace) _

theorem prepare (hp : here.Avoids hidden p) :
    Blind here hidden (FileAccess.prepare p : StateM Workspace (Except IoFault Unit)) := by
  apply (composes here hidden).prepare
  intro q hq
  have hcontaining := hp.containing hq
  exact ⟨exists? hcontaining, isDirectory hcontaining, makeDirectory hcontaining⟩

theorem writeFile (hp : here.Avoids hidden p) (content : ByteArray) :
    Blind here hidden (FileAccess.writeFile p content : StateM Workspace (Except IoFault Unit)) := by
  apply bind (prepare hp)
  intro result
  cases result with
  | ok u => exact write hp content
  | error e => exact .pure here hidden _

end Blind

end

end Workspace

end FluentThis
