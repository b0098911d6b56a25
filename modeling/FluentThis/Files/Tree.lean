import FluentThis.Files.Access
/-!
Files and directories as a value. A place is the list of names that leads to it from the root; what is not listed
does not exist. A path leads to a place one part after the other: each part but the last has to be a directory, and at a
symbolic link the way goes on where the link points. Files can be lost here as they can on a disk: a write empties the
file before it puts anything into it, and what stops it then leaves the file with what it has got so far. Nobody else
changes files in the meantime, and of the files that are not on a disk there is only the standard output.
-/

namespace FluentThis

/-- The names that lead from the root to a place. -/
abbrev Place := List String

inductive FileEntry where
  | file (content : ByteArray)
  | directory

def FileEntry.isDirectory : FileEntry → Bool
  | file _ => false
  | directory => true

/-- The path in a symbolic link, part by part. It starts at the root or in the directory that the link stands in. -/
structure Link where
  fromRoot : Bool
  parts : List String

def Link.start (link : Link) (here : Place) : Place := if link.fromRoot then [] else here

/-- More links than the system follows on the way of one path. -/
def IoFault.tooManyLinks : IoFault := .other "Too many levels of symbolic links (os error 40)"

/-- The entries of a file system, and its symbolic links, which have no entry of their own. The first one at a place
counts. -/
structure FileTree where
  entries : List (Place × FileEntry) := []
  links : List (Place × Link) := []

namespace FileTree

/-- What is at a place. The root is always a directory. -/
def entry? (t : FileTree) (place : Place) : Option FileEntry :=
  if place = [] then some .directory else t.entries.lookup place

def set (t : FileTree) (place : Place) (e : FileEntry) : FileTree := { t with entries := (place, e) :: t.entries }

def remove (t : FileTree) (place : Place) : FileTree where
  entries := t.entries.filter fun (p, _) => !place.isPrefixOf p
  links := t.links.filter fun (p, _) => !place.isPrefixOf p

/-- Where a part of a path leads from a directory, if no link stands there. -/
def enter (here : Place) (part : String) : Place :=
  if part = "." then here else if part = ".." then here.dropLast else here ++ [part]

/-- The link that a part of a path names in a directory, if it names one. -/
def link? (t : FileTree) (here : Place) (part : String) : Option Link :=
  if part = "." ∨ part = ".." then none else t.links.lookup (enter here part)

section

variable (t : FileTree) (refused : Place → Option IoFault)

/-- Whether a path may lead on from a place: only from a directory, and not if the system refuses to enter it. -/
def pass (here : Place) : Except IoFault Unit :=
  match t.entry? here with
  | none => .error .notFound
  | some (.file _) => .error .notADirectory
  | some .directory =>
    match refused here with
    | some e => .error e
    | none => .ok ()

/-- A walk along the parts of a path up to the first link, where it goes on with `follow`. -/
def walkUpTo (follow : Place → Link → List String → Except IoFault Place) : Place → List String → Except IoFault Place
  | here, [] => .ok here
  | here, part :: rest =>
    match t.pass refused here with
    | .error e => .error e
    | .ok () =>
      match t.link? here part with
      | none => walkUpTo follow (enter here part) rest
      | some link => follow here link rest

/-- A walk along the parts of a path that follows so many links at most. -/
def walk : Nat → Place → List String → Except IoFault Place
  | 0 => t.walkUpTo refused fun _ _ _ => .error .tooManyLinks
  | n + 1 => t.walkUpTo refused fun here link rest => walk n (link.start here) (link.parts ++ rest)

end

end FileTree

/-- What the system may refuse at a place. -/
inductive Access where
  | enter
  | read
  | write
  | make
  deriving DecidableEq, Repr

/-- What the system does not let happen, for whatever reason: rights that are missing, a disk that is full. -/
structure Limits where
  refused : Access → Place → Option IoFault := fun _ _ => none
  /-- After how many bytes the writing of a content breaks off, if it does, and with which fault. -/
  breaksOff : Place → ByteArray → Option (Nat × IoFault) := fun _ _ => none

/-- The files, the place of the working directory, what has been printed, the place where writing is printing, and what
the system does not let happen. -/
structure Workspace where
  tree : FileTree := {}
  directory : Option Place := none
  printed : String := ""
  output : Option Place := some ["dev", "stdout"]
  limits : Limits := {}

namespace Workspace

def names (p : Path) : List String := (p.parts.reverse.filter (· ≠ [])).map String.ofList

/-- Whether a path ends in a slash: it then leads to a directory only. -/
def wantsDirectory (p : Path) : Bool := p.text.toList.getLast? == some '/'

/-- Where a path starts, given the working directory: at the root or there. The empty path starts nowhere. -/
def start (here : Option Place) (p : Path) : Option Place :=
  if p.text = "" then none
  else if p.isAbsolute then some []
  else here

/-- How many links are followed on the way of a path. -/
def linkLimit : Nat := 40

section

variable (w : Workspace)

def walk (here : Place) (parts : List String) : Except IoFault Place :=
  w.tree.walk (w.limits.refused .enter) linkLimit here parts

/-- The place that a path leads to, which need not exist unless it is one that is passed through. -/
def locate (p : Path) : Except IoFault Place :=
  match start w.directory p with
  | none => .error .notFound
  | some here => w.walk here (names p)

def entry (p : Path) : Except IoFault FileEntry :=
  match w.locate p with
  | .error e => .error e
  | .ok place =>
    match w.tree.entry? place with
    | none => .error .notFound
    | some (.file content) => if wantsDirectory p then .error .notADirectory else .ok (.file content)
    | some .directory => .ok .directory

/-- Whether the last part of a path names a link. -/
def namesLink (p : Path) : Bool :=
  match start w.directory p, (names p).getLast? with
  | some here, some last =>
    match w.walk here (names p).dropLast with
    | .ok dir => (w.tree.link? dir last).isSome
    | .error _ => false
  | _, _ => false

/-- Why the system does not allow something where a path leads, if it does not. -/
def refusal (access : Access) (p : Path) : Option IoFault := (w.locate p).toOption.bind (w.limits.refused access)

def read (p : Path) : Except IoFault ByteArray :=
  match w.entry p with
  | .error e => .error e
  | .ok found =>
    match w.refusal .read p with
    | some e => .error e
    | none =>
      match found with
      | .directory => .error .isADirectory
      | .file content => .ok content

def say (s : String) : Workspace := { w with printed := w.printed ++ s }

def put (place : Place) (e : FileEntry) : Workspace := { w with tree := w.tree.set place e }

/-- A content as it is printed. What is printed is text. -/
def shown (content : ByteArray) : String := (String.fromUTF8? content).getD ""

/-- Puts a content into a file that has been opened, and so is empty. -/
def fill (place : Place) (content : ByteArray) : Except IoFault Unit × Workspace :=
  if w.output = some place then (.ok (), w.say (shown content))
  else
    match w.limits.breaksOff place content with
    | none => (.ok (), w.put place (.file content))
    | some (n, e) => (.error e, w.put place (.file (content.extract 0 n)))

/-- Writes a file, which may be a new one. A path that leads to a directory only is refused as one, whatever is
there. -/
def write (p : Path) (content : ByteArray) : Except IoFault Unit × Workspace :=
  match w.locate p with
  | .error e => (.error e, w)
  | .ok place =>
    if wantsDirectory p then (.error .isADirectory, w)
    else
      match w.tree.entry? place with
      | some .directory => (.error .isADirectory, w)
      | _ =>
        match w.limits.refused .write place with
        | some e => (.error e, w)
        | none => w.fill place content

/-- Makes a directory. A link that leads nowhere is in its way like anything else. -/
def makeDirectory (p : Path) : Except IoFault Unit × Workspace :=
  if w.namesLink p then (.error .alreadyExists, w)
  else
    match w.locate p with
    | .error e => (.error e, w)
    | .ok place =>
      match w.tree.entry? place with
      | some _ => (.error .alreadyExists, w)
      | none =>
        match w.limits.refused .make place with
        | some e => (.error e, w)
        | none => (.ok (), w.put place .directory)

end

def pathOf (place : Place) : Path := if place = [] then ⟨"/"⟩ else ⟨String.join (place.map ("/" ++ ·))⟩

instance : FileAccess (StateM Workspace) where
  read p := fun w => (w.read p, w)
  write p content := fun w => w.write p content
  exists? p := fun w => ((w.entry p).toBool, w)
  isDirectory p := fun w => ((w.entry p).toOption.any FileEntry.isDirectory, w)
  makeDirectory p := fun w => w.makeDirectory p
  currentDirectory := fun w => (w.directory.map pathOf, w)
  print s := fun w => ((), w.say s)

end Workspace

end FluentThis
