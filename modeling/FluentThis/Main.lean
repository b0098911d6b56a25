import FluentThis.Command.Execution
/-!
The command line program: the files of the machine, its environment and its standard output.
-/

namespace FluentThis

/-- The fault that an error of the operating system stands for. -/
def IoFault.ofError : IO.Error → IoFault
  | .noFileOrDirectory .. => .notFound
  | .alreadyExists .. => .alreadyExists
  | .inappropriateType _ code _ => if code = 21 then .isADirectory else .notADirectory
  | error => .other (toString error)

def attempt {α : Type} (action : IO α) : IO (Except IoFault α) := do
  match ← action.toBaseIO with
  | .ok a => return .ok a
  | .error e => return .error (.ofError e)

instance : FileAccess IO where
  read p := attempt (IO.FS.readBinFile p.text)
  write p content := attempt (IO.FS.writeBinFile p.text content)
  exists? p := do return (← attempt (IO.FS.realPath p.text)).toBool
  isDirectory p := do return (← attempt (IO.FS.realPath (p.text ++ "/."))).toBool
  makeDirectory p := attempt (IO.FS.createDir p.text)
  currentDirectory := do return (← attempt IO.currentDir).toOption.map fun dir => ⟨toString dir⟩
  print s := IO.print s

end FluentThis

open FluentThis in
/-- Whether the terminal takes colors: the environment may say so, or the output is one. -/
def takesColors : IO Bool := do
  let isOn (s : String) : Bool := s != "0"
  if (← IO.getEnv "CLICOLOR_FORCE").map isOn == some true then return true
  if (← IO.getEnv "NO_COLOR").isSome then return false
  if (← IO.getEnv "CLICOLOR").map isOn == some false then return false
  (← IO.getStdout).isTty

open FluentThis in
def main (words : List String) : IO UInt32 := do
  let outcome ← CommandLine.run (← IO.getEnv CommandLine.disableVariable) (← takesColors) words
  match outcome.complaint with
  | some complaint => IO.eprint complaint
  | none => pure ()
  return UInt32.ofNat outcome.exitCode
