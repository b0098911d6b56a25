import FluentThis.Document.Binary64
/-!
Decimal texts of numbers. `Binary64.shortest` finds the fewest decimal digits that read back as the same number, in
exact arithmetic, and `FloatStyle` says how they are written.
-/

namespace FluentThis

structure FloatStyle where
  /-- Whether the even one of two equally near last digits is taken, and not the upper one. -/
  tiesToEven : Bool
  /-- The least and the greatest number of digits in front of the decimal point with which a number is written without
  an exponent, where zeros behind the point count as less than none; `none` if there never is an exponent. -/
  pointRange : Option (Int × Int)
  deriving DecidableEq, Repr

namespace FloatStyle

/-- Whether a number with so many digits in front of the point is written without an exponent. -/
def isPositional (style : FloatStyle) (point : Int) : Bool :=
  match style.pointRange with
  | some (least, greatest) => least ≤ point && point ≤ greatest
  | none => true

/-- Writes digits without an exponent, a point and at least one digit after it included. -/
def positional (ds : List Char) (power : Int) : List Char :=
  if 0 ≤ power then ds ++ List.replicate power.toNat '0' ++ ['.', '0']
  else
    let places := (-power).toNat
    let ds := List.replicate (places + 1 - ds.length) '0' ++ ds
    ds.take (ds.length - places) ++ '.' :: ds.drop (ds.length - places)

/-- Writes digits with an exponent and its sign, and a point behind the first digit if there are more. -/
def scientific (ds : List Char) (point : Int) : List Char :=
  let exponent := point - 1
  let sign := if exponent < 0 then '-' else '+'
  let fraction := if ds.length ≤ 1 then [] else '.' :: ds.drop 1
  ds.take 1 ++ fraction ++ 'e' :: sign :: Nat.toDigits 10 exponent.natAbs

/-- Writes `digits * 10 ^ power`. -/
def write (style : FloatStyle) (digits : Nat) (power : Int) : String :=
  let ds := Nat.toDigits 10 digits
  let point := ds.length + power
  String.ofList (if style.isPositional point then positional ds power else scientific ds point)

end FloatStyle

namespace Binary64

/-- Of the two numbers with `places` decimal places that are next to `n / d`, the nearer one that lies between the
bounds `low / d` and `high / d`, counted in units of its last place. -/
def onGrid (tiesToEven : Bool) (n d low high : Nat) (inclusive : Bool) (places : Int) : Option Nat :=
  let (n, low, high, d) :=
    if 0 ≤ places then (n * tenTo places.toNat, low * tenTo places.toNat, high * tenTo places.toNat, d)
    else (n, low, high, d * tenTo (-places).toNat)
  let below := n / d
  let inside (k : Nat) : Bool :=
    if inclusive then low ≤ k * d && k * d ≤ high else low < k * d && k * d < high
  let rest := n % d
  let belowIsNearer := 2 * rest < d || (2 * rest == d && tiesToEven && below % 2 == 0)
  if inside below && (belowIsNearer || !inside (below + 1)) then some below
  else if inside (below + 1) then some (below + 1)
  else none

/-- The shortest decimal digits that read back as `m * 2 ^ e`, and the power of ten of the last of them. -/
def shortest (tiesToEven : Bool) (m : Nat) (e : Int) : Nat × Int :=
  let lowest := m == twoTo 52 && -1074 < e
  let (n, d) := scaled (4 * m) (e - 2)
  let (low, _) := scaled (if lowest then 4 * m - 1 else 4 * m - 2) (e - 2)
  let (high, _) := scaled (4 * m + 2) (e - 2)
  let lead : Int :=
    if n < d then 2 - (Nat.toDigits 10 (d / n)).length else 1 + (Nat.toDigits 10 (n / d)).length
  let tries : List Int := (List.range 22).map fun k => Int.ofNat k - lead
  match tries.findSome? fun places => (onGrid tiesToEven n d low high (m % 2 == 0) places).map (·, -places) with
  | some found => found
  | none => (m, 0)

/-- The text of a number, with the fewest digits that read back. -/
def text (style : FloatStyle) : Binary64 → String
  | .finite negative m e =>
    let (digits, power) := if m == 0 then (0, 0) else shortest style.tiesToEven m e
    (if negative then "-" else "") ++ style.write digits power
  | .infinite negative => if negative then "-inf" else "inf"
  | .nan => "NaN"

end Binary64

end FluentThis
