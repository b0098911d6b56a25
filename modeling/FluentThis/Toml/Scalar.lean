import FluentThis.Document.Node
import FluentThis.Document.Width
import FluentThis.Toml.Moment
/-!
Values of TOML that stand without quotes: the two truth values, integers in four bases, floats, dates and times. What
begins like an integer in groups of digits is one, also when it holds other characters: it then has no value.
-/

namespace FluentThis.Toml

open Text (isDigit natOfDigits hexValue?)

/-- Whether each underscore in a number stands between two digits, in the sense of `p`. The first one may also stand
where `start` allows it. -/
def isGrouped (p : Char → Bool) (start : Bool) : List Char → Bool
  | [] => true
  | '_' :: [] => false
  | '_' :: c :: r => start && p c && isGrouped p (p c) r
  | c :: r => isGrouped p (p c) r

def ungroup (cs : List Char) : List Char := cs.filter (· != '_')

def splitSign : List Char → Bool × List Char
  | '-' :: r => (true, r)
  | '+' :: r => (false, r)
  | cs => (false, cs)

def isSigned (cs : List Char) : Bool := (splitSign cs).2.length < cs.length

/-- The value of an integer, as far as 128 bits hold it. -/
def integerNode (i : Int) : Node := if fits 128 i then .integer i else .hugeInteger

/-- An integer in a base up to 16. Without any digit it has no value. -/
def based? (base : Nat) (cs : List Char) : Option Node :=
  let value? (c : Char) : Option Nat := (hexValue? c).filter (· < base)
  let isValid (c : Char) : Bool := (value? c).isSome
  let ds := ungroup cs
  if isGrouped isValid false cs && ds.all isValid then
    some (if ds = [] then .hugeInteger else integerNode (ds.foldl (fun n d => base * n + (value? d).getD 0) 0 : Nat))
  else none

def isFloatMark (c : Char) : Bool := c == '.' || c == 'e' || c == 'E'

/-- A decimal integer, which has no zero in front of another digit: digits alone, or a group of them with an underscore
behind it. In the second case underscores may also stand between hexadecimal digits and other characters may follow,
and then the integer has no value. -/
def decimal? (cs : List Char) : Option Node :=
  let (negative, r) := splitSign cs
  let whole := r.takeWhile isDigit
  let groups := r.dropWhile isDigit
  let isHex (c : Char) : Bool := (hexValue? c).isSome
  if r.head? = some '0' ∧ 1 < r.length then none
  else if groups = [] ∧ whole ≠ [] ∨
      groups.head? = some '_' ∧ !groups.any isFloatMark ∧ isGrouped isHex (isSigned cs) r then
    if (ungroup r).all isDigit then
      let n : Int := natOfDigits (ungroup r)
      some (integerNode (if negative then -n else n))
    else some .hugeInteger
  else none

def integer? (cs : List Char) : Option Node :=
  match cs with
  | '0' :: 'x' :: r => based? 16 r
  | '0' :: 'o' :: r => based? 8 r
  | '0' :: 'b' :: r => based? 2 r
  | _ => decimal? cs

/-- Digits of which there is at least one. -/
def digits? (cs : List Char) : Option (List Char) := if cs ≠ [] ∧ cs.all isDigit then some cs else none

/-- The digits after a point, if there is one. -/
def fractionDigits? : List Char → Option (List Char)
  | [] => some []
  | '.' :: r => digits? r
  | _ => none

/-- The exponent after its letter, if there is one. -/
def exponentValue? : List Char → Option Int
  | [] => some 0
  | c :: r =>
    if c = 'e' ∨ c = 'E' then
      let (negative, r) := splitSign r
      (digits? r).map fun ds =>
        let n : Int := natOfDigits ds
        if negative then -n else n
    else none

/-- A number with a fraction or an exponent, which has no zero in front of another digit. -/
def decimalFloat? (negative : Bool) (cs : List Char) : Option Node := do
  let isExponentMark (c : Char) : Bool := c == 'e' || c == 'E'
  let ds := ungroup cs
  let mantissa := ds.takeWhile (!isExponentMark ·)
  let whole ← digits? (mantissa.takeWhile (· != '.'))
  let fraction ← fractionDigits? (mantissa.dropWhile (· != '.'))
  let exponent ← exponentValue? (ds.dropWhile (!isExponentMark ·))
  if !ds.any isFloatMark ∨ cs.head? = some '0' ∧ 1 < whole.length then none
  else
    match Binary64.ofDecimal negative (natOfDigits (whole ++ fraction)) (exponent - fraction.length) with
    | some x => return .float x
    | none => return .hugeFloat

/-- A number with a fraction or an exponent, or one of the values that stand outside the numbers. -/
def float? (cs : List Char) : Option Node :=
  let (negative, r) := splitSign cs
  if r = ['i', 'n', 'f'] then some (.float (.infinite negative))
  else if r = ['n', 'a', 'n'] then some (.float .nan)
  else if isGrouped isDigit (isSigned cs) r then decimalFloat? negative r
  else none

def scalar? (cs : List Char) : Option Node :=
  if cs = "true".toList then some (.boolean true)
  else if cs = "false".toList then some (.boolean false)
  else (integer? cs).or ((float? cs).or (if isMoment cs then some .date else none))

end FluentThis.Toml
