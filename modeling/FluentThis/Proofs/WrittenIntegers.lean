import FluentThis.Json.Writing
import FluentThis.Json.Token
/-!
Integers in JSON texts. An integer that 64 bits hold reads back from its digits, whatever follows them, as long as
that does not make the number longer.
-/

namespace FluentThis.Json

open Text (isDigit natOfDigits)

/-- What follows a number does not begin with a character that would belong to it. -/
def EndsNumber (r : List Char) : Prop :=
  ∀ c ∈ r.head?, isDigit c = false ∧ c ≠ '.' ∧ c ≠ 'e' ∧ c ≠ 'E'

theorem endsNumber_nil : EndsNumber [] := by
  intro c hc
  cases hc

theorem endsNumber_cons {c : Char} (hd : isDigit c = false) (hp : c ≠ '.') (he : c ≠ 'e') (hE : c ≠ 'E')
    (r : List Char) : EndsNumber (c :: r) := by
  intro d hd'
  cases hd'
  exact ⟨hd, hp, he, hE⟩

theorem isDigit_of_mem_toDigits {n : Nat} {c : Char} (hc : c ∈ Nat.toDigits 10 n) : isDigit c = true :=
  Nat.isDigit_of_mem_toDigits (by decide) (by decide) hc

theorem natOfDigits_toDigits (n : Nat) : natOfDigits (Nat.toDigits 10 n) = n :=
  Nat.ofDigitChars_ten_toDigits

/-- The first digit of a number is zero only if the number is. -/
theorem head?_toDigits_ne_zero {n : Nat} (hn : 0 < n) : (Nat.toDigits 10 n).head? ≠ some '0' := by
  induction n using Nat.strongRecOn with
  | ind n ih =>
      by_cases hlt : n < 10
      · have hdigit : ∀ m : Fin 10, 0 < m.val → [Nat.digitChar m.val].head? ≠ some '0' := by decide
        rw [Nat.toDigits_of_lt_base hlt]
        exact hdigit ⟨n, hlt⟩ hn
      · have hquotient : 0 < n / 10 := by omega
        have hfirst := ih (n / 10) (by omega) hquotient
        rw [Nat.toDigits_of_base_le (by decide) (by omega), List.head?_append]
        cases hd : (Nat.toDigits 10 (n / 10)).head? with
        | none => exact absurd (List.head?_eq_none_iff.1 hd) Nat.toDigits_ne_nil
        | some d => rwa [hd] at hfirst

namespace Numeral

theorem isWholePart_toDigits (n : Nat) : isWholePart (Nat.toDigits 10 n) = true := by
  rcases Nat.eq_zero_or_pos n with rfl | hn
  · decide
  · have hfirst := head?_toDigits_ne_zero hn
    cases hd : Nat.toDigits 10 n with
    | nil => exact absurd hd Nat.toDigits_ne_nil
    | cons d ds =>
        rw [hd] at hfirst
        simp only [List.head?_cons, ne_eq, Option.some.injEq] at hfirst
        unfold isWholePart
        split <;> simp_all

theorem fractionPart_of_endsNumber {r : List Char} (hr : EndsNumber r) : fractionPart r = some (none, r) := by
  unfold fractionPart
  split
  · exact absurd rfl (hr '.' rfl).2.1
  · rfl

theorem exponentPart_of_endsNumber {r : List Char} (hr : EndsNumber r) : exponentPart r = some (none, r) := by
  cases r with
  | nil => rfl
  | cons c r =>
      obtain ⟨_, _, he, hE⟩ := hr c rfl
      rw [exponentPart, if_neg (by simp [he, hE])]

theorem takeWhile_isDigit_of_endsNumber {r : List Char} (hr : EndsNumber r) :
    r.takeWhile isDigit = [] ∧ r.dropWhile isDigit = r := by
  cases r with
  | nil => simp
  | cons c r => simp [(hr c rfl).1]

/-- The digits of a number are read up to their end, after a sign or without one. -/
theorem read_toDigits {cs r : List Char} {negative : Bool} {n : Nat}
    (hs : sign cs = (negative, Nat.toDigits 10 n ++ r)) (hr : EndsNumber r) :
    read cs = some (⟨negative, Nat.toDigits 10 n, none, none⟩, r) := by
  have hdigits : ∀ c ∈ Nat.toDigits 10 n, isDigit c = true := fun c hc => isDigit_of_mem_toDigits hc
  obtain ⟨htake, hdrop⟩ := takeWhile_isDigit_of_endsNumber hr
  have hwhole : (Nat.toDigits 10 n ++ r).takeWhile isDigit = Nat.toDigits 10 n := by
    rw [List.takeWhile_append_of_pos hdigits, htake, List.append_nil]
  have hrest : (Nat.toDigits 10 n ++ r).dropWhile isDigit = r := by
    rw [List.dropWhile_append_of_pos hdigits, hdrop]
  simp only [read, hs, hwhole, hrest, isWholePart_toDigits, if_true, fractionPart_of_endsNumber hr,
    exponentPart_of_endsNumber hr, Option.bind_eq_bind, Option.bind_some, Option.pure_def]

theorem sign_toDigits (n : Nat) (r : List Char) :
    sign (Nat.toDigits 10 n ++ r) = (false, Nat.toDigits 10 n ++ r) := by
  unfold sign
  split
  · next s hs =>
    cases hd : Nat.toDigits 10 n with
    | nil => exact absurd hd Nat.toDigits_ne_nil
    | cons d ds =>
        rw [hd, List.cons_append] at hs
        cases hs
        exact absurd (isDigit_of_mem_toDigits (hd ▸ List.mem_cons_self)) (by decide)
  · rfl

end Numeral

/-- The numeral that an integer is written as. -/
def numeralOf (i : Int) : Numeral := ⟨i < 0, Nat.toDigits 10 i.natAbs, none, none⟩

theorem read_writeInteger (i : Int) {r : List Char} (hr : EndsNumber r) :
    Numeral.read (writeInteger i ++ r) = some (numeralOf i, r) := by
  cases i with
  | ofNat n =>
      rw [writeInteger, Numeral.read_toDigits (Numeral.sign_toDigits n r) hr]
      simp [numeralOf]
  | negSucc n =>
      rw [writeInteger, List.cons_append, Numeral.read_toDigits rfl hr]
      simp [numeralOf]

theorem value?_numeralOf {i : Int} (hi : fits 64 i = true) : (numeralOf i).value? = some (.integer i) := by
  simp only [numeralOf, Numeral.value?, natOfDigits_toDigits]
  cases i with
  | ofNat n =>
      have hfits : fitsUnsigned 64 n = true := by
        have hsigned : twoTo (64 - 1) = 9223372036854775808 := rfl
        have hunsigned : twoTo 64 = 18446744073709551616 := rfl
        simp only [fits, fitsSigned, fitsUnsigned, hsigned, hunsigned, Bool.or_eq_true, Bool.and_eq_true,
          decide_eq_true_eq, Int.ofNat_eq_natCast] at hi ⊢
        omega
      simp [hfits]
  | negSucc n =>
      have hneg : -((Int.negSucc n).natAbs : Int) = Int.negSucc n := by omega
      have hfits : fitsSigned 64 (Int.negSucc n) = true := by
        simpa [fits, fitsUnsigned] using hi
      rw [hneg, hfits]
      simp

/-- A written integer begins with a digit or with the sign of a negative one. -/
theorem head?_writeInteger (i : Int) (r : List Char) :
    ∃ c s, writeInteger i ++ r = c :: s ∧ (isDigit c = true ∨ c = '-') := by
  cases i with
  | ofNat n =>
      cases hd : Nat.toDigits 10 n with
      | nil => exact absurd hd Nat.toDigits_ne_nil
      | cons d ds =>
          refine ⟨d, ds ++ r, by rw [writeInteger, hd, List.cons_append], .inl ?_⟩
          exact isDigit_of_mem_toDigits (hd ▸ List.mem_cons_self)
  | negSucc n => exact ⟨'-', _, rfl, .inr rfl⟩

end FluentThis.Json
