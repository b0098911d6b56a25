import FluentThis.Text.Digit
/-!
Texts between quotes in JSON. `writeText` escapes the quote, the backslash and the control characters; `readText`
reads every escape of the format. Main statement: what is written reads back.
-/

namespace FluentThis.Json

open Text (hexValue? hexDigit hexValue?_hexDigit)

def unit? : List Char → Option (Nat × List Char)
  | a :: b :: c :: d :: r => do
    let a ← hexValue? a
    let b ← hexValue? b
    let c ← hexValue? c
    let d ← hexValue? d
    return (16 * (16 * (16 * a + b) + c) + d, r)
  | _ => none

/-- The character that a pair of units outside the characters stands for. -/
def pairedChar (high low : Nat) : Char := Char.ofNat (0x10000 + 0x400 * (high - 0xD800) + (low - 0xDC00))

/-- The character written by one unit, or by two when the first is the high half of a pair. -/
def unitChar? (cs : List Char) : Option (Char × List Char) := do
  let (n, r) ← unit? cs
  if n < 0xD800 ∨ 0xDFFF < n then return (Char.ofNat n, r)
  else if n < 0xDC00 then
    match r with
    | '\\' :: 'u' :: r =>
      let (m, r) ← unit? r
      if 0xDC00 ≤ m ∧ m ≤ 0xDFFF then return (pairedChar n m, r) else none
    | _ => none
  else none

def escapeLetter? : Char → Option Char
  | '"' => some '"'
  | '\\' => some '\\'
  | '/' => some '/'
  | 'b' => some '\x08'
  | 'f' => some '\x0c'
  | 'n' => some '\n'
  | 'r' => some '\r'
  | 't' => some '\t'
  | _ => none

/-- The character written after a backslash, and what follows it. -/
def escape? : List Char → Option (Char × List Char)
  | 'u' :: r => unitChar? r
  | c :: r => (escapeLetter? c).map (·, r)
  | [] => none

theorem length_unit?_lt {cs r : List Char} {n : Nat} (h : unit? cs = some (n, r)) : r.length < cs.length := by
  unfold unit? at h
  split at h
  · simp only [Option.bind_eq_bind, Option.bind_eq_some_iff, Option.pure_def, Option.some.injEq,
      Prod.mk.injEq] at h
    obtain ⟨_, _, _, _, _, _, _, _, _, rfl⟩ := h
    simp only [List.length_cons]
    omega
  · simp at h

theorem length_unitChar?_lt {cs r : List Char} {c : Char} (h : unitChar? cs = some (c, r)) :
    r.length < cs.length := by
  simp only [unitChar?, Option.bind_eq_bind, Option.bind_eq_some_iff, Option.pure_def] at h
  obtain ⟨⟨n, s⟩, hn, h⟩ := h
  have hs := length_unit?_lt hn
  simp only at h
  split at h
  · simp only [Option.some.injEq, Prod.mk.injEq] at h
    rw [← h.2]
    exact hs
  · split at h
    · split at h
      · next t =>
        obtain ⟨⟨m, t'⟩, hm, h⟩ := Option.bind_eq_some_iff.1 h
        have ht := length_unit?_lt hm
        split at h
        · simp only [Option.some.injEq, Prod.mk.injEq] at h
          simp only [List.length_cons] at hs
          rw [← h.2]
          omega
        · simp at h
      · simp at h
    · simp at h

theorem length_escape?_lt {cs r : List Char} {c : Char} (h : escape? cs = some (c, r)) :
    r.length < cs.length := by
  unfold escape? at h
  split at h
  · have := length_unitChar?_lt h
    simp only [List.length_cons]
    omega
  · obtain ⟨_, _, h⟩ := Option.map_eq_some_iff.1 h
    simp only [Prod.mk.injEq] at h
    simp [← h.2]
  · simp at h

/-- Reads a text up to its closing quote; `none` when it has none, holds a control character or an escape that the
format does not know. -/
def readText (cs : List Char) : Option (List Char × List Char) :=
  match cs with
  | [] => none
  | '"' :: r => some ([], r)
  | '\\' :: r =>
    match h : escape? r with
    | some (c, s) =>
      have : s.length < r.length := length_escape?_lt h
      (readText s).map fun (t, r) => (c :: t, r)
    | none => none
  | c :: r => if c < ' ' then none else (readText r).map fun (t, r) => (c :: t, r)
termination_by cs.length

theorem length_readText_lt {cs t r : List Char} (h : readText cs = some (t, r)) : r.length < cs.length := by
  fun_induction readText cs generalizing t with
  | case1 => simp at h
  | case2 s =>
    simp only [Option.some.injEq, Prod.mk.injEq] at h
    simp [← h.2]
  | case3 r' c s hs hlt ih =>
    obtain ⟨⟨u, v⟩, hu, h⟩ := Option.map_eq_some_iff.1 h
    simp only [Prod.mk.injEq] at h
    have := ih (t := u) (by rw [hu, h.2])
    simp only [List.length_cons]
    omega
  | case4 => simp at h
  | case5 => simp at h
  | case6 c r' _ _ _ ih =>
    obtain ⟨⟨u, v⟩, hu, h⟩ := Option.map_eq_some_iff.1 h
    simp only [Prod.mk.injEq] at h
    have := ih (t := u) (by rw [hu, h.2])
    simp only [List.length_cons]
    omega

def writeChar (c : Char) : List Char :=
  match c with
  | '"' => ['\\', '"']
  | '\\' => ['\\', '\\']
  | '\x08' => ['\\', 'b']
  | '\t' => ['\\', 't']
  | '\n' => ['\\', 'n']
  | '\x0c' => ['\\', 'f']
  | '\r' => ['\\', 'r']
  | c => if c < ' ' then ['\\', 'u', '0', '0', hexDigit (c.toNat / 16), hexDigit (c.toNat % 16)] else [c]

def writeText (s : String) : List Char := '"' :: s.toList.flatMap writeChar ++ ['"']

theorem unitChar?_of_lt {n : Nat} (h : n < 32) (r : List Char) :
    unitChar? ('0' :: '0' :: hexDigit (n / 16) :: hexDigit (n % 16) :: r) = some (Char.ofNat n, r) := by
  have h₁ := hexValue?_hexDigit (n := n / 16) (by omega)
  have h₂ := hexValue?_hexDigit (n := n % 16) (by omega)
  have h₀ : hexValue? '0' = some 0 := by decide
  have hn : 16 * (n / 16) + n % 16 = n := Nat.div_add_mod n 16
  simp only [unitChar?, unit?, h₀, h₁, h₂, Option.bind_eq_bind, Option.bind_some, Option.pure_def,
    Nat.mul_zero, Nat.zero_add, hn]
  rw [if_pos (by omega)]

theorem readText_escape {cs r : List Char} {c : Char} (h : escape? cs = some (c, r)) :
    readText ('\\' :: cs) = (readText r).map fun (t, r) => (c :: t, r) := by
  rw [readText]
  split
  · next d s hs =>
    rw [h] at hs
    simp only [Option.some.injEq, Prod.mk.injEq] at hs
    rw [hs.1, hs.2]
  · next hs => simp [h] at hs

theorem readText_plain {c : Char} (hq : c ≠ '"') (hb : c ≠ '\\') (hc : ¬ c < ' ') (r : List Char) :
    readText (c :: r) = (readText r).map fun (t, r) => (c :: t, r) := by
  rw [readText.eq_4 _ _ (by simpa using hq) (by simpa using hb), if_neg hc]

/-- A character that is written reads back, whatever follows it. -/
theorem readText_writeChar (c : Char) (r : List Char) :
    readText (writeChar c ++ r) = (readText r).map fun (t, r) => (c :: t, r) := by
  fun_cases writeChar c with
  | case8 c h₁ h₂ h₃ h₄ h₅ h₆ h₇ hc =>
    have hn : c.toNat < 32 := by simpa [Char.lt_def, UInt32.lt_iff_toNat_lt] using hc
    have := unitChar?_of_lt hn r
    rw [Char.ofNat_toNat] at this
    exact readText_escape (by simpa [escape?] using this)
  | case9 c h₁ h₂ h₃ h₄ h₅ h₆ h₇ hc =>
    exact readText_plain (by simpa using h₁) (by simpa using h₂) hc r
  | _ => exact readText_escape rfl

/-- What is written reads back, whatever follows the closing quote. -/
theorem readText_writeText (s : String) (r : List Char) :
    readText (s.toList.flatMap writeChar ++ '"' :: r) = some (s.toList, r) := by
  induction s.toList with
  | nil => simp [readText]
  | cons c cs ih => simp [List.flatMap_cons, readText_writeChar, ih]

end FluentThis.Json
