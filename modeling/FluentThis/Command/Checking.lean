import FluentThis.Command.Failure
import FluentThis.Config.Search
import FluentThis.Program.Building
import FluentThis.Report.Json
import FluentThis.Report.Listing
import FluentThis.Schema.Program
/-!
The command that checks a program and writes a report. The report is complete before anything is written.
-/

namespace FluentThis

namespace Program

def ofToml (s : String) : Except Failure Program :=
  match Source.ofToml s with
  | .ok source => ofSource source
  | .error fault => .error (.toml fault)

def ofJson (s : String) : Except Failure Program :=
  match Source.ofJson s with
  | .ok source => ofSource source
  | .error fault => .error (.json fault)

/-- Whether a file holds JSON, by the extension of its name in any case. -/
def isJson (p : Path) : Bool := p.extension?.map (·.map Char.toLower) == some "json".toList

def load {m : Type → Type} [Monad m] [FileAccess m] (p : Path) : m (Except Failure Program) := do
  match ← FileAccess.readText p with
  | .error e => return .error (.io e)
  | .ok s => return if isJson p then ofJson s else ofToml s

end Program

inductive ReportFormat where
  | listing
  | json
  deriving DecidableEq, Repr

def Report.render (r : Report) (format : ReportFormat) (colors marks : Bool) : String :=
  match format with
  | .listing => r.listing colors marks
  | .json => r.json

structure CheckRequest where
  program : Path
  disabled : Option String := none
  config : Option Path := none
  format : ReportFormat := .listing
  output : Option Path := none
  colors : Bool := false
  deriving DecidableEq, Repr

namespace CheckRequest

variable {m : Type → Type} [Monad m] [FileAccess m]

/-- The settings of a check: those of the named or nearest configuration, overridden by those of the request. -/
def settings (r : CheckRequest) : m (Except CommandFailure Settings) := do
  match r.config with
  | some p =>
    match ← Config.load p with
    | .error e => return .error (.failed (some (.loadConfig p)) e)
    | .ok config => return .ok (config.checker.override ⟨r.disabled⟩)
  | none =>
    let loaded ← Config.loadHere
    return .ok (loaded.config.checker.override ⟨r.disabled⟩)

/-- A failure that is not the user's comes from a damaged program. -/
def explain (e : Failure) : CommandFailure :=
  .failed (if e.isUserError then none else some .trustProgram) e

def report (r : CheckRequest) : m (Except CommandFailure Report) := do
  match ← r.settings with
  | .error e => return .error e
  | .ok settings =>
    match settings.generators with
    | .error e => return .error (explain e)
    | .ok generators =>
      match ← Program.load r.program with
      | .error e => return .error (.failed (some (.loadProgram r.program)) e)
      | .ok program => return (Report.ofHost generators program.host).mapError explain

/-- Checks the program and writes the report to the output file, or prints it when there is none. `marks` tells
whether the terminal takes colors; a file gets none. -/
def run (r : CheckRequest) (marks : Bool) : m (Except CommandFailure Unit) := do
  match ← r.report with
  | .error e => return .error e
  | .ok report =>
    match r.output with
    | some p =>
      let written ← FileAccess.writeFile p (report.render r.format false marks).toUTF8
      return written.mapError .notWritten
    | none =>
      FileAccess.print (report.render r.format r.colors marks)
      return .ok ()

end CheckRequest

end FluentThis
