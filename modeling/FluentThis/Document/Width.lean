/-!
Powers, and the integers that a given number of bits can hold.
-/

namespace FluentThis

def twoTo (n : Nat) : Nat := Nat.pow 2 n

def tenTo (n : Nat) : Nat := Nat.pow 10 n

/-- Whether `bits` bits hold an integer, one of them its sign. -/
def fitsSigned (bits : Nat) (i : Int) : Bool := -(twoTo (bits - 1) : Int) ≤ i && i < (twoTo (bits - 1) : Int)

/-- Whether `bits` bits hold an integer that has no sign. -/
def fitsUnsigned (bits : Nat) (i : Int) : Bool := 0 ≤ i && i < (twoTo bits : Int)

/-- Whether `bits` bits hold an integer in one of the two ways. -/
def fits (bits : Nat) (i : Int) : Bool := fitsSigned bits i || fitsUnsigned bits i

end FluentThis
