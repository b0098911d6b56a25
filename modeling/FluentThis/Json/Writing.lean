import FluentThis.Document.Basic
import FluentThis.Json.Text
/-!
Writing documents as JSON, on one line or with every item and entry on a line of its own.
-/

namespace FluentThis.Json

/-- All on one line, or one item a line with two spaces for each open list or table. -/
inductive Layout where
  | compact
  | indented
  deriving DecidableEq, Repr

namespace Layout

/-- What stands in front of an item or a closing bracket at the given depth. -/
def lineBreak : Layout → Nat → List Char
  | compact, _ => []
  | indented, depth => '\n' :: List.replicate (2 * depth) ' '

def colon : Layout → List Char
  | compact => [':']
  | indented => [':', ' ']

end Layout

/-- The digits of an integer, with a sign when it is negative. -/
def writeInteger : Int → List Char
  | .ofNat n => Nat.toDigits 10 n
  | .negSucc n => '-' :: Nat.toDigits 10 (n + 1)

mutual

def write (l : Layout) (depth : Nat) : Document → List Char
  | .null => "null".toList
  | .boolean true => "true".toList
  | .boolean false => "false".toList
  | .integer i => writeInteger i
  | .text s => writeText s
  | .list [] => ['[', ']']
  | .list (d :: ds) =>
    '[' :: l.lineBreak (depth + 1) ++ write l (depth + 1) d ++ writeItems l depth ds ++ l.lineBreak depth ++ [']']
  | .table [] => ['\x7b', '\x7d']
  | .table ((k, d) :: es) =>
    '\x7b' :: l.lineBreak (depth + 1) ++ writeText k ++ l.colon ++ write l (depth + 1) d ++
      writeEntries l depth es ++ l.lineBreak depth ++ ['\x7d']

def writeItems (l : Layout) (depth : Nat) : List Document → List Char
  | [] => []
  | d :: ds => ',' :: l.lineBreak (depth + 1) ++ write l (depth + 1) d ++ writeItems l depth ds

def writeEntries (l : Layout) (depth : Nat) : List (String × Document) → List Char
  | [] => []
  | (k, d) :: es =>
    ',' :: l.lineBreak (depth + 1) ++ writeText k ++ l.colon ++ write l (depth + 1) d ++ writeEntries l depth es

end

def render (l : Layout) (d : Document) : String := String.ofList (write l 0 d)

end FluentThis.Json
