import FluentThis.Document.Width
/-!
Numbers with 53 significant bits, as documents hold them. `ofRatio` rounds a quotient to the nearest such number,
an exact half to the even one. All of it is exact arithmetic on natural numbers.
-/

namespace FluentThis

/-- A number of the form `mantissa * 2 ^ exponent` with a sign, where the mantissa has at most 53 bits and the
exponent is at least -1074, or one of the values that stand outside the numbers. -/
inductive Binary64 where
  | finite (negative : Bool) (mantissa : Nat) (exponent : Int)
  | infinite (negative : Bool)
  | nan
  deriving DecidableEq, Repr

namespace Binary64

/-- The numerator and denominator of `n * 2 ^ e`. -/
def scaled (n : Nat) (e : Int) : Nat × Nat :=
  if 0 ≤ e then (n * twoTo e.toNat, 1) else (n, twoTo (-e).toNat)

/-- The natural number nearest to `n / d`, an exact half to the even one. -/
def roundHalfEven (n d : Nat) : Nat :=
  let q := n / d
  let r := n % d
  if 2 * r < d || (2 * r == d && q % 2 == 0) then q else q + 1

/-- The exponent for which `n / d` has a 53 bit mantissa, or the least exponent there is. -/
def exponentFor (n d : Nat) : Int :=
  let e : Int := (Nat.log2 n : Int) - (Nat.log2 d : Int) - 52
  let (p, q) := if 0 ≤ e then (n, d * twoTo e.toNat) else (n * twoTo (-e).toNat, d)
  let e := if p < q * twoTo 52 then e - 1 else e
  max e (-1074)

/-- The number nearest to the quotient `n / d`; `none` when it lies beyond the largest one. -/
def ofRatio (negative : Bool) (n d : Nat) : Option Binary64 :=
  if n == 0 then some (.finite negative 0 0)
  else
    let e := exponentFor n d
    let m := if 0 ≤ e then roundHalfEven n (d * twoTo e.toNat) else roundHalfEven (n * twoTo (-e).toNat) d
    let (m, e) := if m == twoTo 53 then (twoTo 52, e + 1) else (m, e)
    if 971 < e then none else some (.finite negative m e)

/-- The number nearest to `digits * 10 ^ exponent`. -/
def ofDecimal (negative : Bool) (digits : Nat) (exponent : Int) : Option Binary64 :=
  let size : Int := exponent + (Nat.toDigits 10 digits).length
  if digits == 0 || size < -400 then some (.finite negative 0 0)
  else if 400 < size then none
  else if 0 ≤ exponent then ofRatio negative (digits * tenTo exponent.toNat) 1
  else ofRatio negative digits (tenTo (-exponent).toNat)

/-- The product or quotient of a number and the power of ten nearest to `10 ^ power`, rounded; `none` beyond the
largest number. -/
def scaleByTen (up : Bool) (x : Binary64) (power : Nat) : Option Binary64 :=
  match x, ofRatio false (tenTo power) 1 with
  | .finite negative m e, some (.finite _ m₁ e₁) =>
    let (n, d) := scaled m e
    let (n₁, d₁) := scaled m₁ e₁
    if up then ofRatio negative (n * n₁) (d * d₁) else ofRatio negative (n * d₁) (d * n₁)
  | _, _ => none

end Binary64

end FluentThis
