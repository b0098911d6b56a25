import FluentThis.Command.Failure
import FluentThis.Config.Search
/-!
The command that writes a configuration file. It does not touch a file that is there already unless it is forced to.
-/

namespace FluentThis

namespace Config

def template : String :=
  "# returns-receiver configuration\n" ++
  "\n" ++
  "[checker]\n" ++
  "# Comma-separated frameworks whose generated builders are NOT recognized.\n" ++
  "# Known names: autovalue, lombok\n" ++
  "# disable_framework_support = \"lombok\"\n"

def create {m : Type → Type} [Monad m] [FileAccess m] (dir : Path) (force : Bool) :
    m (Except CommandFailure Unit) := do
  let file := dir.join fileName
  if (← FileAccess.exists? file) && !force then return .error .configExists
  match ← FileAccess.writeFile file template.toUTF8 with
  | .error e => return .error (.notWritten e)
  | .ok () =>
    FileAccess.print ("Created " ++ fileName ++ " configuration file\n")
    return .ok ()

end Config

end FluentThis
