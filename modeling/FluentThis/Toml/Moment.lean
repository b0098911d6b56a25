import FluentThis.Text.Digit
/-!
Dates and times in TOML. Only whether one is well formed matters here: no part of a program or a configuration is a
date.
-/

namespace FluentThis.Toml

open Text (isDigit natOfDigits)

/-- A number of exactly `count` digits, and what follows it. -/
def fixedDigits? (count : Nat) (cs : List Char) : Option (Nat × List Char) :=
  let ds := cs.takeWhile isDigit
  if ds.length = count then some (natOfDigits ds, cs.dropWhile isDigit) else none

/-- What follows the character `c`. -/
def after? (c : Char) : List Char → Option (List Char)
  | d :: r => if d = c then some r else none
  | [] => none

def isLeapYear (year : Nat) : Bool := year % 4 == 0 && (year % 100 != 0 || year % 400 == 0)

def daysIn (year month : Nat) : Nat :=
  if month == 2 then if isLeapYear year then 29 else 28
  else if month == 4 || month == 6 || month == 9 || month == 11 then 30
  else 31

def date? (cs : List Char) : Option (List Char) := do
  let (year, r) ← fixedDigits? 4 cs
  let r ← after? '-' r
  let (month, r) ← fixedDigits? 2 r
  let r ← after? '-' r
  let (day, r) ← fixedDigits? 2 r
  if 1 ≤ month ∧ month ≤ 12 ∧ 1 ≤ day ∧ day ≤ daysIn year month then some r else none

/-- What follows the fraction of a second, if there is one. -/
def fraction? : List Char → Option (List Char)
  | '.' :: r => if r.takeWhile isDigit = [] then none else some (r.dropWhile isDigit)
  | cs => some cs

/-- What follows a time of day; the seconds may be left out, and a leap second is one. -/
def time? (cs : List Char) : Option (List Char) := do
  let (hour, r) ← fixedDigits? 2 cs
  let r ← after? ':' r
  let (minute, r) ← fixedDigits? 2 r
  if 23 < hour ∨ 59 < minute then none
  else
    match r with
    | ':' :: r =>
      let (second, r) ← fixedDigits? 2 r
      if 60 < second then none else fraction? r
    | _ => some r

/-- Whether a text is the distance from universal time: nothing, a letter, or a sign, hours and minutes. -/
def isOffset : List Char → Bool
  | [] => true
  | ['Z'] => true
  | ['z'] => true
  | c :: r =>
    (c == '+' || c == '-') &&
      match fixedDigits? 2 r with
      | some (hour, ':' :: r) => fixedDigits? 2 r matches some (_, []) && hour ≤ 23 && natOfDigits r ≤ 59
      | _ => false

/-- Whether a text is a date, a time, or both with the letter T or a space between them. -/
def isMoment (cs : List Char) : Bool :=
  match date? cs with
  | some [] => true
  | some (c :: r) => (c == 'T' || c == 't' || c == ' ') && ((time? r).map isOffset).getD false
  | none => (time? cs).map (·.isEmpty) == some true

end FluentThis.Toml
