import FluentThis.Files.Access
import FluentThis.Schema.Config
/-!
Finding the configuration. A file that is named has to load. Otherwise the directory and those that contain it are
searched, and a file there that does not load is passed over, whatever the reason.
-/

namespace FluentThis

namespace Config

def fileName : String := ".returnsrcvr.toml"

def searchDepth : Nat := 10

/-- The files that are tried for a directory, nearest first. -/
def candidates (start : Path) : List Path := (start.ancestors searchDepth).map (·.join fileName)

/-- A configuration and the file that it comes from, if it comes from one. -/
structure Loaded where
  config : Config
  origin : Option Path
  deriving DecidableEq, Repr

def Loaded.defaults : Loaded := ⟨{}, none⟩

variable {m : Type → Type} [Monad m] [FileAccess m]

def load (p : Path) : m (Except Failure Config) := do
  match ← FileAccess.readText p with
  | .error e => return .error (.io e)
  | .ok s => return (ofToml s).mapError (.configuration p.text)

def firstUsable : List Path → m Loaded
  | [] => return .defaults
  | p :: ps => do
    match ← load p with
    | .ok config => return ⟨config, some p⟩
    | .error _ => firstUsable ps

def loadNear (start : Path) : m Loaded := firstUsable (candidates start)

def loadHere : m Loaded := do
  match ← FileAccess.currentDirectory with
  | some dir => loadNear dir
  | none => return .defaults

end Config

end FluentThis
