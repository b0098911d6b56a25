import FluentThis.Element
import FluentThis.Schema.Fault
/-!
Why a run stops. Every cause is a value of its own; the words for it are in `Failure.message`.
-/

namespace FluentThis

/-- What makes a program inconsistent. `reported` is for programs that are held elsewhere, in the words of their
holder. -/
inductive ProgramFault where
  | unnamedType
  | duplicateType (name : String)
  | interfaceSuperclass (name : String)
  | selfExtension (name : String)
  | staticConstructor (owner : String)
  | unnamedMethod (owner : String)
  | unknownElement (id : ElementId)
  | notExecutable (name : String)
  | reported (reason : String)
  deriving DecidableEq, Repr

namespace ProgramFault

def message : ProgramFault → String
  | unnamedType => "type declared without a name"
  | duplicateType name => "duplicate type " ++ name
  | interfaceSuperclass name => "interface " ++ name ++ " cannot declare a superclass"
  | selfExtension name => "class " ++ name ++ " cannot extend itself"
  | staticConstructor owner => "constructor of " ++ owner ++ " cannot be static"
  | unnamedMethod owner => "method of " ++ owner ++ " declared without a name"
  | unknownElement id => "unknown element " ++ id.label
  | notExecutable name => name ++ " is not an executable"
  | reported reason => reason

end ProgramFault

/-- Why a file cannot be read or written. What the operating system says beyond the cases that are told apart is
`other`. -/
inductive IoFault where
  | notFound
  | alreadyExists
  | isADirectory
  | notADirectory
  | notText
  | other (reason : String)
  deriving DecidableEq, Repr

namespace IoFault

def message : IoFault → String
  | notFound => "No such file or directory (os error 2)"
  | alreadyExists => "File exists (os error 17)"
  | isADirectory => "Is a directory (os error 21)"
  | notADirectory => "Not a directory (os error 20)"
  | notText => "stream did not contain valid UTF-8"
  | other reason => reason

end IoFault

/-- The name of the option that lists the generators not to recognize. -/
def disableOption : String := "disableFrameworkSupport"

/-- Why a check stops. -/
inductive Failure where
  | unknownGenerator (token : String)
  | missingReturnType (executable : String)
  | program (cause : ProgramFault)
  | configuration (path : String) (cause : Fault)
  | io (cause : IoFault)
  | toml (cause : Fault)
  | json (cause : Fault)
  deriving DecidableEq, Repr

namespace Failure

/-- Whether the user can mend it. A signature without a type to return comes from a damaged program. -/
def isUserError : Failure → Bool
  | missingReturnType _ => false
  | _ => true

/-- What is wrong with a document, in words. -/
def faultMessage (format : DocumentFormat) : Fault → String
  | .malformed => "malformed document"
  | .mismatch cause => cause.message format

def message : Failure → String
  | unknownGenerator token => "Unrecognized framework in " ++ disableOption ++ ": " ++ token
  | missingReturnType executable => "Return type cannot be null: " ++ executable
  | program cause => "Model error: " ++ cause.message
  | configuration path cause => "Configuration error in " ++ path ++ ": " ++ faultMessage .toml cause
  | io cause => cause.message
  | toml cause => faultMessage .toml cause
  | json cause => faultMessage .json cause

end Failure

end FluentThis
