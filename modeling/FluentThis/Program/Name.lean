/-!
Dotted names. The simple name is what follows the last dot; a name lies inside every other name that it continues
after a dot.
-/

namespace FluentThis.Name

def simple (cs : List Char) : List Char := (cs.reverse.takeWhile (· != '.')).reverse

/-- What stands in front of each dot, shortest first. -/
def prefixes : List Char → List (List Char)
  | [] => []
  | c :: r => if c = '.' then [] :: (prefixes r).map (c :: ·) else (prefixes r).map (c :: ·)

/-- What stands in front of each dot, longest first. -/
def outer (cs : List Char) : List (List Char) := (prefixes cs).reverse

end FluentThis.Name
