import FluentThis.Text.Blank
/-!
References to types, as texts. A reference is a name, generic arguments that are not looked at, and a pair of brackets
for each array; blanks around each of these do not matter.
-/

namespace FluentThis

/-- A reference to a type: the name of the type, and how many times an array is made of it. -/
structure TypeReference where
  base : List Char
  dimensions : Nat
  deriving DecidableEq, Repr

namespace TypeReference

/-- Takes the pairs of brackets and the blanks off the right end of a text, which is given from right to left. -/
def takeBrackets : List Char → Nat × List Char
  | ']' :: '[' :: r => ((takeBrackets r).1 + 1, (takeBrackets r).2)
  | c :: r => if Text.isBlank c then takeBrackets r else (0, c :: r)
  | [] => (0, [])

/-- The reference that a text writes. The name ends at the first opening angle bracket. -/
def ofChars (cs : List Char) : TypeReference :=
  let (dimensions, rest) := takeBrackets cs.reverse
  ⟨Text.trimChars (rest.reverse.takeWhile (· != '<')), dimensions⟩

end TypeReference

end FluentThis
