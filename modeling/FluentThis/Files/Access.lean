import FluentThis.Failure
import FluentThis.Files.Path
/-!
What the commands do with files. A command is written once, over any monad that offers these operations; it runs on
the files of the machine and, as a function, on a `FileTree`.
-/

namespace FluentThis

/-- Reading and writing files and the standard output. -/
class FileAccess (m : Type → Type) where
  read : Path → m (Except IoFault ByteArray)
  write : Path → ByteArray → m (Except IoFault Unit)
  exists? : Path → m Bool
  isDirectory : Path → m Bool
  makeDirectory : Path → m (Except IoFault Unit)
  currentDirectory : m (Option Path)
  print : String → m Unit

namespace FileAccess

variable {m : Type → Type} [Monad m] [FileAccess m]

def readText (p : Path) : m (Except IoFault String) := do
  match ← read p with
  | .error e => return .error e
  | .ok bytes =>
    match String.fromUTF8? bytes with
    | some s => return .ok s
    | none => return .error .notText

/-- What comes of an attempt to make a directory when one that is there already will do. -/
def unlessThere (p : Path) (result : Except IoFault Unit) : m (Except IoFault Unit) := do
  match result with
  | .ok () => return .ok ()
  | .error e => if ← isDirectory p then return .ok () else return .error e

/-- Makes the first directory of a list, which holds a path and those that contain it. When nothing is where it
should go, the rest of the list is made first. The empty path is where a relative one starts. -/
def makeFirst : List Path → m (Except IoFault Unit)
  | [] => return .ok ()
  | p :: containing => do
    if p.text = "" then return .ok ()
    match ← makeDirectory p with
    | .error .notFound =>
      match ← makeFirst containing with
      | .ok () => unlessThere p (← makeDirectory p)
      | .error e => return .error e
    | result => unlessThere p result

/-- Makes a directory and those that contain it. -/
def makeDirectories (p : Path) : m (Except IoFault Unit) := makeFirst (p.ancestors (p.text.length + 1))

/-- Makes the directory that a path is to be an entry of, unless there is something in its place. -/
def prepare (p : Path) : m (Except IoFault Unit) := do
  match p.parent? with
  | none => return .ok ()
  | some dir => if dir.text = "" ∨ (← exists? dir) then return .ok () else makeDirectories dir

/-- Writes a file, for which missing directories are made. -/
def writeFile (p : Path) (bytes : ByteArray) : m (Except IoFault Unit) := do
  match ← prepare p with
  | .ok () => write p bytes
  | .error e => return .error e

end FileAccess

end FluentThis
