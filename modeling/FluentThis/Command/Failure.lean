import FluentThis.Failure
import FluentThis.Files.Path
/-!
Why a command fails: the cause, and what the command was doing when it met it.
-/

namespace FluentThis

inductive Undertaking where
  | loadConfig (path : Path)
  | loadProgram (path : Path)
  | trustProgram
  deriving DecidableEq, Repr

def Undertaking.message : Undertaking → String
  | loadConfig path => "Failed to load config " ++ path.text
  | loadProgram path => "Failed to load program model " ++ path.text
  | trustProgram => "Internal error: the program model is inconsistent"

inductive CommandFailure where
  | failed (undertaking : Option Undertaking) (cause : Failure)
  | notWritten (cause : IoFault)
  | configExists
  deriving DecidableEq, Repr

namespace CommandFailure

/-- What is said when a configuration file is in the way. -/
def configExistsMessage : String := "Configuration file already exists. Use --force to overwrite."

def message : CommandFailure → String
  | failed (some undertaking) _ => undertaking.message
  | failed none cause => cause.message
  | notWritten cause => cause.message
  | configExists => configExistsMessage

end CommandFailure

end FluentThis
