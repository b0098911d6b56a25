import FluentThis.Document.Node
import FluentThis.Text.Digit
/-!
Numbers in JSON texts. A number without a fraction and an exponent that fits into 64 bits is an integer; every other
one is a `Binary64`, found by one rounding of its first significant digits and one more by the power of ten.
-/

namespace FluentThis.Json

open Text (isDigit digitValue natOfDigits)

/-- The largest significand: digits that would carry it further are not looked at. -/
def significandLimit : Nat := twoTo 64 - 1

/-- Appends digits to a significand up to the first that does not fit; the rest is returned. -/
def significand (n : Nat) : List Char → Nat × List Char
  | [] => (n, [])
  | d :: ds =>
    if significandLimit < 10 * n + digitValue d then (n, d :: ds) else significand (10 * n + digitValue d) ds

/-- The value of `n * 10 ^ exponent` after rounding `n`, then once for each factor of at most `10 ^ 308`; `none`
beyond the largest number. -/
def scaleTo (x : Binary64) (exponent : Int) : Option Binary64 :=
  if 0 ≤ exponent then
    match x with
    | .finite _ 0 _ => some x
    | _ => if exponent ≤ 308 then x.scaleByTen true exponent.toNat else none
  else if -308 ≤ exponent then x.scaleByTen false (-exponent).toNat
  else
    match x with
    | .finite _ 0 _ => some x
    | _ =>
      match x.scaleByTen false 308 with
      | some y => scaleTo y (exponent + 308)
      | none => none
termination_by (-exponent).toNat
decreasing_by omega

/-- The parts of a written number: sign, digits before the point, digits after it, and the exponent. -/
structure Numeral where
  negative : Bool
  whole : List Char
  fraction : Option (List Char)
  exponent : Option (Bool × List Char)
  deriving Repr

namespace Numeral

/-- The largest exponent that is looked at. -/
def exponentLimit : Nat := twoTo 31 - 1

/-- The value of a number that is not an integer; `none` when it lies beyond the largest one. -/
def float? (x : Numeral) : Option Binary64 :=
  let (n, dropped) := significand 0 x.whole
  let fraction := x.fraction.getD []
  let (n, ignored) := significand n fraction
  let shift : Int := (dropped.length : Int) - ((fraction.length : Int) - ignored.length)
  match x.exponent with
  | none => (Binary64.ofRatio x.negative n 1).bind (scaleTo · shift)
  | some (negative, ds) =>
    let e := natOfDigits ds
    if exponentLimit < e then
      if n ≠ 0 ∧ !negative then none else some (.finite x.negative 0 0)
    else (Binary64.ofRatio x.negative n 1).bind (scaleTo · (shift + if negative then -(e : Int) else (e : Int)))

/-- The value of a written number; `none` when it lies beyond the largest one. Minus zero is no integer. -/
def value? (x : Numeral) : Option Node :=
  match x.fraction, x.exponent with
  | none, none =>
    let n := natOfDigits x.whole
    if !x.negative && fitsUnsigned 64 n then some (.integer n)
    else if x.negative && 0 < n && fitsSigned 64 (-(n : Int)) then some (.integer (-(n : Int)))
    else x.float?.map .float
  | _, _ => x.float?.map .float

def sign : List Char → Bool × List Char
  | '-' :: r => (true, r)
  | cs => (false, cs)

/-- The digits after a point, if there is one: at least one has to follow it. -/
def fractionPart : List Char → Option (Option (List Char) × List Char)
  | '.' :: r => if r.takeWhile isDigit = [] then none else some (some (r.takeWhile isDigit), r.dropWhile isDigit)
  | cs => some (none, cs)

def exponentSign : List Char → Bool × List Char
  | '-' :: r => (true, r)
  | '+' :: r => (false, r)
  | cs => (false, cs)

/-- The exponent, if there is one: at least one digit has to follow its letter and sign. -/
def exponentPart : List Char → Option (Option (Bool × List Char) × List Char)
  | [] => some (none, [])
  | c :: r =>
    if c = 'e' ∨ c = 'E' then
      let (down, r) := exponentSign r
      if r.takeWhile isDigit = [] then none else some (some (down, r.takeWhile isDigit), r.dropWhile isDigit)
    else some (none, c :: r)

/-- The digits before the point: at least one, and no zero in front of another. -/
def isWholePart : List Char → Bool
  | [] => false
  | ['0'] => true
  | d :: _ => d != '0'

/-- Reads a number at the start of a text, as far as it reaches. -/
def read (cs : List Char) : Option (Numeral × List Char) := do
  let (negative, r) := sign cs
  let whole := r.takeWhile isDigit
  if isWholePart whole then
    let (fraction, r) ← fractionPart (r.dropWhile isDigit)
    let (exponent, r) ← exponentPart r
    return (⟨negative, whole, fraction, exponent⟩, r)
  else none

theorem length_dropWhile_le (p : Char → Bool) (cs : List Char) :
    (cs.dropWhile p).length ≤ cs.length :=
  (List.dropWhile_suffix p).length_le

theorem length_sign_le (cs : List Char) : (sign cs).2.length ≤ cs.length := by
  unfold sign
  split <;> simp

theorem length_exponentSign_le (cs : List Char) : (exponentSign cs).2.length ≤ cs.length := by
  unfold exponentSign
  split <;> simp

theorem length_fractionPart_le {cs r : List Char} {f : Option (List Char)}
    (h : fractionPart cs = some (f, r)) : r.length ≤ cs.length := by
  unfold fractionPart at h
  split at h
  · next s =>
    split at h
    · simp at h
    · simp only [Option.some.injEq, Prod.mk.injEq] at h
      have := length_dropWhile_le isDigit s
      simp only [← h.2, List.length_cons]
      omega
  · simp_all

theorem length_exponentPart_le {cs r : List Char} {e : Option (Bool × List Char)}
    (h : exponentPart cs = some (e, r)) : r.length ≤ cs.length := by
  unfold exponentPart at h
  split at h
  · simp_all
  · next c s =>
    split at h
    · have hs := length_exponentSign_le s
      simp only at h
      split at h
      · simp at h
      · simp only [Option.some.injEq, Prod.mk.injEq] at h
        have := length_dropWhile_le isDigit (exponentSign s).2
        simp only [← h.2, List.length_cons]
        omega
    · simp only [Option.some.injEq, Prod.mk.injEq] at h
      simp [← h.2]

/-- Reading a number takes at least one character. -/
theorem length_read_lt {cs r : List Char} {x : Numeral} (h : read cs = some (x, r)) : r.length < cs.length := by
  simp only [read, Option.bind_eq_bind, Option.pure_def] at h
  split at h
  · next hw =>
    obtain ⟨⟨f, s⟩, hf, h⟩ := Option.bind_eq_some_iff.1 h
    obtain ⟨⟨e, t⟩, he, h⟩ := Option.bind_eq_some_iff.1 h
    simp only [Option.some.injEq, Prod.mk.injEq] at h
    have h₁ := length_sign_le cs
    have h₂ := length_fractionPart_le hf
    have h₃ : t.length ≤ s.length := length_exponentPart_le he
    have h₄ := congrArg List.length (List.takeWhile_append_dropWhile (p := isDigit) (l := (sign cs).2))
    have h₅ : 0 < ((sign cs).2.takeWhile isDigit).length := by
      refine List.length_pos_iff.2 fun hn => ?_
      simp [hn, isWholePart] at hw
    simp only [List.length_append] at h₄
    rw [← h.2]
    omega
  · simp at h

end Numeral

end FluentThis.Json
