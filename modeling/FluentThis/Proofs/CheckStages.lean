import FluentThis.Command.Execution
import FluentThis.Proofs.Checking
import FluentThis.Proofs.FileChanges
/-!
Checks carried out in full. What can stop a check is told apart by stages, each on its own: a stage fails or not
whatever comes of the others, except that nothing is written before there is a report. Main statement: a check stops at
the first stage that fails and then prints nothing and changes no file, unless the system breaks off the writing of the
output file; otherwise its report is printed or is all that is written, and the file holds what would be printed.
-/

namespace FluentThis

inductive CheckStage where
  | config
  | disabled
  | reading
  | decoding
  | building
  | writing
  deriving DecidableEq, Repr

/-- Where a stage comes among the others. -/
def CheckStage.position : CheckStage → Nat
  | config => 0
  | disabled => 1
  | reading => 2
  | decoding => 3
  | building => 4
  | writing => 5

/-- The source in a text, in the format that the name of its file tells. -/
def Source.ofText (p : Path) (s : String) : Except Failure Source :=
  if Program.isJson p then (ofJson s).mapError .json else (ofToml s).mapError .toml

theorem Program.ofText_eq (p : Path) (s : String) : ofText p s = Source.ofText p s >>= ofSource := by
  unfold ofText Source.ofText
  split
  · unfold ofJson
    cases Source.ofJson s <;> rfl
  · unfold ofToml
    cases Source.ofToml s <;> rfl

namespace Report

theorem listing_of_plain (r : Report) {colors marks : Bool} (h : colors = false ∨ marks = false) :
    r.listing colors marks = r.listing false false := by
  have hpaint : Style.paint false = fun _ text => text := rfl
  rcases h with rfl | rfl
  · rfl
  · cases colors with
    | false => rfl
    | true => simp [listing, listingChars, Entry.line, hpaint]

end Report

namespace CheckRequest

variable (r : CheckRequest) (w : Workspace)

/-- The list of disabled generators that counts: that of the request, or else that of the configuration. -/
def disabledIn : Option String :=
  r.disabled.or <|
    match r.config with
    | some p => (w.config p).toOption.bind (·.checker.disabled)
    | none => w.configHere.config.checker.disabled

/-- What stops a check at a stage, if the check gets that far. -/
inductive FailsAt : CheckStage → CommandFailure → Prop where
  | config {p : Path} {e : Failure} (named : r.config = some p) (unusable : w.config p = .error e) :
      FailsAt .config (.failed (some (.loadConfig p)) e)
  | disabled {e : Failure} (unknown : GeneratorSet.disabling (r.disabledIn w) = .error e) :
      FailsAt .disabled (.failed none e)
  | reading {e : IoFault} (unreadable : w.text r.program = .error e) :
      FailsAt .reading (.failed (some (.loadProgram r.program)) (.io e))
  | decoding {text : String} {e : Failure} (readable : w.text r.program = .ok text)
      (undecodable : Source.ofText r.program text = .error e) :
      FailsAt .decoding (.failed (some (.loadProgram r.program)) e)
  | building {text : String} {source : Source} {e : Failure} (readable : w.text r.program = .ok text)
      (decodable : Source.ofText r.program text = .ok source) (inconsistent : Program.ofSource source = .error e) :
      FailsAt .building (.failed (some (.loadProgram r.program)) e)
  | writing {p : Path} {report : Report} {e : IoFault} {w' : Workspace} (asked : r.output = some p)
      (complete : r.reportIn w = .ok report)
      (refused : (FileAccess.writeFile p (report.render r.format false false).toUTF8 :
        StateM Workspace (Except IoFault Unit)) w = (.error e, w')) : FailsAt .writing (.notWritten e)

/-- No stage before the given one fails. -/
def ClearBefore (stage : CheckStage) : Prop :=
  ∀ earlier e, earlier.position < stage.position → ¬r.FailsAt w earlier e

/-- The first stage that fails, and how. -/
structure FirstFailure (stage : CheckStage) (e : CommandFailure) : Prop where
  fails : r.FailsAt w stage e
  clear : r.ClearBefore w stage

variable {r w}

theorem clearBefore_config : r.ClearBefore w .config := fun _ _ h => absurd h (Nat.not_lt_zero _)

theorem ClearBefore.next {stage later : CheckStage} (h : r.ClearBefore w stage)
    (hlater : later.position = stage.position + 1) (hs : ∀ e, ¬r.FailsAt w stage e) : r.ClearBefore w later := by
  intro earlier e hlt
  by_cases heq : earlier = stage
  · subst heq
    exact hs e
  · refine h earlier e ?_
    have hne : earlier.position ≠ stage.position := by
      cases earlier <;> cases stage <;> simp_all [CheckStage.position]
    omega

theorem settingsIn_cases (r : CheckRequest) (w : Workspace) :
    (∃ e, r.settingsIn w = .error e ∧ r.FirstFailure w .config e) ∨
      ∃ settings, r.settingsIn w = .ok settings ∧ settings.disabled = r.disabledIn w ∧
        r.ClearBefore w .disabled := by
  unfold settingsIn disabledIn
  cases hc : r.config with
  | none =>
      refine .inr ⟨_, rfl, rfl, clearBefore_config.next rfl fun e he => ?_⟩
      cases he with
      | config named unusable => simp [hc] at named
  | some p =>
      dsimp only
      cases hw : w.config p with
      | error cause => exact .inl ⟨_, rfl, .config hc hw, clearBefore_config⟩
      | ok config =>
          refine .inr ⟨_, rfl, rfl, clearBefore_config.next rfl fun e he => ?_⟩
          cases he with
          | config named unusable =>
              cases hc.symm.trans named
              cases hw.symm.trans unusable

/-- The file is read, decoded and built into a program, in this order. -/
theorem program_cases (h : r.ClearBefore w .reading) :
    (∃ stage e, stage ≠ .writing ∧ w.program r.program = .error e ∧
      r.FirstFailure w stage (.failed (some (.loadProgram r.program)) e)) ∨
      ∃ source, w.program r.program = .ok (Source.program source) ∧ r.ClearBefore w .writing := by
  rw [Workspace.program]
  cases ht : w.text r.program with
  | error e => exact .inl ⟨.reading, _, by decide, rfl, .reading ht, h⟩
  | ok text =>
      have hread : r.ClearBefore w .decoding := by
        refine h.next rfl fun e he => ?_
        cases he with
        | reading unreadable => cases ht.symm.trans unreadable
      dsimp only
      rw [Program.ofText_eq]
      cases hd : Source.ofText r.program text with
      | error e => exact .inl ⟨.decoding, _, by decide, rfl, .decoding ht hd, hread⟩
      | ok source =>
          have hdecoded : r.ClearBefore w .building := by
            refine hread.next rfl fun e he => ?_
            cases he with
            | decoding readable undecodable =>
                cases ht.symm.trans readable
                cases hd.symm.trans undecodable
          have hsource : (Except.ok source >>= Program.ofSource) = Program.ofSource source := rfl
          rw [hsource]
          cases hb : Program.ofSource source with
          | error e => exact .inl ⟨.building, _, by decide, rfl, .building ht hd hb, hdecoded⟩
          | ok program =>
              refine .inr ⟨source, ?_, hdecoded.next rfl fun e he => ?_⟩
              · rw [← Program.eq_program_of_ofSource hb]
              · cases he with
                | building readable decodable inconsistent =>
                    cases ht.symm.trans readable
                    cases hd.symm.trans decodable
                    cases hb.symm.trans inconsistent

theorem run_error {e : CommandFailure} (h : r.reportIn w = .error e) (marks : Bool) :
    (r.run marks : StateM Workspace (Except CommandFailure Unit)) w = (.error e, w) := by
  simp only [run, bind, StateT.bind, report_run, h]
  rfl

theorem run_write {report : Report} {p : Path} (h : r.reportIn w = .ok report) (hout : r.output = some p)
    (marks : Bool) :
    (r.run marks : StateM Workspace (Except CommandFailure Unit)) w =
      ((FileAccess.writeFile p (report.render r.format false marks).toUTF8 :
        StateM Workspace (Except IoFault Unit)) w).map (·.mapError .notWritten) id := by
  simp only [run, bind, StateT.bind, report_run, h, hout]
  rfl

end CheckRequest

namespace CommandLine

theorem run_check {environment : Option String} {words : List String} {a : CheckArguments}
    (hparse : parse environment words = .ok (.check a)) (marks : Bool) {w w' : Workspace}
    {result : Except CommandFailure Unit}
    (hrun : (a.request.run marks : StateM Workspace (Except CommandFailure Unit)) w = (result, w')) :
    (run environment marks words : StateM Workspace Outcome) w =
      (match result with
        | .ok () => ⟨0, none⟩
        | .error e => ⟨1, some e.complaint⟩, w') := by
  simp only [run, hparse, Invocation.run, bind, StateT.bind, hrun]
  cases result <;> rfl

/-- A program without types, and a report that has been written to `r.txt` before. -/
def reported (limits : Limits) : Workspace where
  tree := {
    entries := [
      (["m.toml"], .file ByteArray.empty), (["r.txt"], .file "kept".toUTF8),
      (["dev"], .directory), (["dev", "stdout"], .file ByteArray.empty)] }
  directory := some []
  limits := limits

end CommandLine

end FluentThis
