import FluentThis.Command.Checking
import FluentThis.Command.Initializing
import FluentThis.CommandLine.Help
/-!
The whole program: a command line is carried out and ends with an exit code and, if something is wrong, a complaint.
-/

namespace FluentThis

structure Outcome where
  exitCode : Nat
  complaint : Option String
  deriving DecidableEq, Repr

namespace CommandFailure

/-- The causes below the failure that is shown. -/
def causes : CommandFailure → List String
  | failed (some _) cause => [cause.message]
  | _ => []

def complaint (e : CommandFailure) : String :=
  "Error: " ++ e.message ++ "\n" ++
    match e.causes with
    | [] => ""
    | causes => "\nCaused by:\n" ++ String.join (causes.map fun cause => "    " ++ cause ++ "\n")

end CommandFailure

namespace CommandLine

def FormatName.reportFormat : FormatName → ReportFormat
  | .text => .listing
  | .json => .json

def CheckArguments.request (a : CheckArguments) : CheckRequest where
  program := ⟨a.program⟩
  disabled := a.disabled
  config := a.config.map Path.mk
  format := a.format.reportFormat
  output := a.output.map Path.mk
  colors := !a.plain

variable {m : Type → Type} [Monad m] [FileAccess m]

def Invocation.run (marks : Bool) : Invocation → m (Except CommandFailure Unit)
  | .check arguments => arguments.request.run marks
  | .init force => do
    match ← FileAccess.currentDirectory with
    | some dir => Config.create dir force
    | none => return .error (.notWritten .notFound)

/-- Carries out a command line. `environment` is the list of disabled generators in the environment, and `marks` tells
whether the terminal takes colors. -/
def run (environment : Option String) (marks : Bool) (words : List String) : m Outcome := do
  match parse environment words with
  | .error e =>
    if e.isAnswer then
      FileAccess.print e.message
      return ⟨e.exitCode, none⟩
    else return ⟨e.exitCode, some e.message⟩
  | .ok invocation =>
    match ← invocation.run marks with
    | .ok () => return ⟨0, none⟩
    | .error e => return ⟨1, some e.complaint⟩

end CommandLine

end FluentThis
