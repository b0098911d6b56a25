/-!
Paths as texts. Everything here is decided by the text alone: repeated slashes and single dots do not count, except
for a single dot at the start of a path.
-/

namespace FluentThis

structure Path where
  text : String
  deriving DecidableEq, Repr

namespace Path

/-- The parts of a path between its slashes, last one first. The first part of a path that starts at the root is
empty. -/
def parts (p : Path) : List (List Char) := (p.text.toList.splitOn '/').reverse

def isAbsolute (p : Path) : Bool := p.text.toList.head? == some '/'

/-- Drops the parts at the end that do not count. The first part is not dropped. -/
def dropIdle : List (List Char) → List (List Char)
  | part :: next :: rest => if part = [] ∨ part = ['.'] then dropIdle (next :: rest) else part :: next :: rest
  | ps => ps

/-- The path with the given parts, last one first. -/
def ofParts (ps : List (List Char)) : Path :=
  if ps = [[]] then ⟨"/"⟩ else ⟨String.ofList (['/'].intercalate ps.reverse)⟩

/-- The path without its last part; the root and the empty path have none. -/
def parent? (p : Path) : Option Path :=
  match dropIdle p.parts with
  | [] => none
  | [part] => if part = [] then none else some ⟨""⟩
  | _ :: next :: rest => some (ofParts (dropIdle (next :: rest)))

/-- The last part of a path, unless the path ends at the root or in dots. -/
def fileName? (p : Path) : Option (List Char) :=
  match dropIdle p.parts with
  | [] => none
  | part :: _ => if part = [] ∨ part = ['.'] ∨ part = ['.', '.'] then none else some part

/-- What follows the last dot of the file name. A name that starts with its only dot has none. -/
def extension? (p : Path) : Option (List Char) := do
  let name ← p.fileName?
  let after := (name.reverse.takeWhile (· != '.')).reverse
  if after.length + 1 < name.length then return after else none

def join (p : Path) (name : String) : Path :=
  match p.text.toList.getLast? with
  | none => ⟨name⟩
  | some '/' => ⟨p.text ++ name⟩
  | some _ => ⟨p.text ++ "/" ++ name⟩

/-- A path and those that contain it, nearest first, at most `n` of them. -/
def ancestors : Nat → Path → List Path
  | 0, _ => []
  | n + 1, p =>
    p :: match p.parent? with
      | some q => ancestors n q
      | none => []

end Path

end FluentThis
