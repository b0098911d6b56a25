import FluentThis.Command.Checking
import FluentThis.Files.Tree
/-!
What the commands read from a workspace. Reading leaves the workspace as it is, so each reading command is a function
of the files, and its answer is given here as that function.
-/

namespace FluentThis

/-- The program in a text, in the format that the name of its file tells. -/
def Program.ofText (p : Path) (s : String) : Except Failure Program :=
  if Program.isJson p then Program.ofJson s else Program.ofToml s

namespace Workspace

variable (w : Workspace)

def text (p : Path) : Except IoFault String :=
  match w.read p with
  | .error e => .error e
  | .ok bytes =>
    match String.fromUTF8? bytes with
    | some s => .ok s
    | none => .error .notText

theorem readText_run (p : Path) :
    (FileAccess.readText p : StateM Workspace (Except IoFault String)) w = (w.text p, w) := by
  simp only [FileAccess.readText, FileAccess.read, text, bind, StateT.bind, pure]
  cases w.read p with
  | error e => rfl
  | ok bytes =>
      simp only
      cases String.fromUTF8? bytes <;> rfl

def config (p : Path) : Except Failure Config :=
  match w.text p with
  | .error e => .error (.io e)
  | .ok s => (Config.ofToml s).mapError (.configuration p.text)

theorem load_run (p : Path) : (Config.load p : StateM Workspace (Except Failure Config)) w = (w.config p, w) := by
  simp only [Config.load, bind, StateT.bind, readText_run, config]
  cases w.text p <;> rfl

/-- The first of several files that holds a configuration. -/
def firstConfig : List Path → Config.Loaded
  | [] => .defaults
  | p :: ps =>
    match w.config p with
    | .ok config => ⟨config, some p⟩
    | .error _ => firstConfig ps

theorem firstUsable_run (ps : List Path) :
    (Config.firstUsable ps : StateM Workspace Config.Loaded) w = (w.firstConfig ps, w) := by
  induction ps with
  | nil => rfl
  | cons p ps ih =>
      simp only [Config.firstUsable, bind, StateT.bind, load_run, firstConfig]
      cases w.config p with
      | error e => exact ih
      | ok config => rfl

/-- The configuration nearest to the working directory. -/
def configHere : Config.Loaded :=
  match w.directory with
  | some place => w.firstConfig (Config.candidates (pathOf place))
  | none => .defaults

theorem loadHere_run : (Config.loadHere : StateM Workspace Config.Loaded) w = (w.configHere, w) := by
  simp only [Config.loadHere, bind, StateT.bind, FileAccess.currentDirectory, configHere]
  cases w.directory with
  | none => rfl
  | some place => exact firstUsable_run w _

def program (p : Path) : Except Failure Program :=
  match w.text p with
  | .error e => .error (.io e)
  | .ok s => Program.ofText p s

theorem programLoad_run (p : Path) :
    (Program.load p : StateM Workspace (Except Failure Program)) w = (w.program p, w) := by
  simp only [Program.load, bind, StateT.bind, readText_run, program]
  cases w.text p <;> rfl

end Workspace

namespace CheckRequest

variable (r : CheckRequest) (w : Workspace)

def settingsIn : Except CommandFailure Settings :=
  match r.config with
  | some p =>
    match w.config p with
    | .error e => .error (.failed (some (.loadConfig p)) e)
    | .ok config => .ok (config.checker.override ⟨r.disabled⟩)
  | none => .ok (w.configHere.config.checker.override ⟨r.disabled⟩)

theorem settings_run :
    (r.settings : StateM Workspace (Except CommandFailure Settings)) w = (r.settingsIn w, w) := by
  unfold settings settingsIn
  cases r.config with
  | none => simp only [bind, StateT.bind, Workspace.loadHere_run]; rfl
  | some p =>
      simp only [bind, StateT.bind, Workspace.load_run]
      cases w.config p <;> rfl

/-- The report that a check makes, or the first failure on the way to it. -/
def reportIn : Except CommandFailure Report :=
  match r.settingsIn w with
  | .error e => .error e
  | .ok settings =>
    match settings.generators with
    | .error e => .error (explain e)
    | .ok generators =>
      match w.program r.program with
      | .error e => .error (.failed (some (.loadProgram r.program)) e)
      | .ok program => (Report.ofHost generators program.host).mapError explain

theorem report_run :
    (r.report : StateM Workspace (Except CommandFailure Report)) w = (r.reportIn w, w) := by
  simp only [report, bind, StateT.bind, settings_run, reportIn]
  cases r.settingsIn w with
  | error e => rfl
  | ok settings =>
      simp only
      cases settings.generators with
      | error e => rfl
      | ok generators =>
          simp only [StateT.bind, Workspace.programLoad_run]
          cases w.program r.program <;> rfl

end CheckRequest

end FluentThis
