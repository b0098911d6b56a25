import FluentThis.Text.Digit
/-!
Texts in TOML: basic and literal ones, each on one line or over several. Every reader takes the characters after the
opening quotes and returns the text with what follows the closing quotes.
-/

namespace FluentThis.Toml

/-- The characters that may stand in a comment or a text as they are: the tab and everything that is no control. -/
def isPlain (c : Char) : Bool := c == '\t' || (' ' ≤ c && c ≠ '\x7f')

/-- The character with the given code, if there is one. -/
def charOfCode? (n : Nat) : Option Char := if n.isValidChar then some (Char.ofNat n) else none

/-- The number written by the first `count` characters, all of them hexadecimal digits. -/
def hexNumber? (count : Nat) (cs : List Char) : Option Nat :=
  if (cs.take count).length = count then
    (cs.take count).foldlM (fun n c => (Text.hexValue? c).map (16 * n + ·)) 0
  else none

/-- The character written after a backslash, and how many characters that takes. -/
def escape? : List Char → Option (Char × Nat)
  | 'b' :: _ => some ('\x08', 1)
  | 't' :: _ => some ('\t', 1)
  | 'n' :: _ => some ('\n', 1)
  | 'f' :: _ => some ('\x0c', 1)
  | 'r' :: _ => some ('\r', 1)
  | 'e' :: _ => some ('\x1b', 1)
  | '"' :: _ => some ('"', 1)
  | '\\' :: _ => some ('\\', 1)
  | 'x' :: r => (hexNumber? 2 r).bind fun n => (charOfCode? n).map (·, 3)
  | 'u' :: r => (hexNumber? 4 r).bind fun n => (charOfCode? n).map (·, 5)
  | 'U' :: r => (hexNumber? 8 r).bind fun n => (charOfCode? n).map (·, 9)
  | _ => none

def prepend (c : Char) (t : Option (List Char × List Char)) : Option (List Char × List Char) :=
  t.map fun (t, r) => (c :: t, r)

def basic (cs : List Char) : Option (List Char × List Char) :=
  match cs with
  | [] => none
  | '"' :: r => some ([], r)
  | '\\' :: r =>
    match escape? r with
    | some (c, n) => prepend c (basic (r.drop n))
    | none => none
  | c :: r => if isPlain c then prepend c (basic r) else none
termination_by cs.length

/-- A literal text on one line: nothing in it is escaped. -/
def literal : List Char → Option (List Char × List Char)
  | [] => none
  | '\'' :: r => some ([], r)
  | c :: r => if isPlain c then prepend c (literal r) else none

/-- The line break at the start of `cs`, and what follows it. -/
def lineBreak? : List Char → Option (List Char × List Char)
  | '\n' :: r => some (['\n'], r)
  | '\r' :: '\n' :: r => some (['\r', '\n'], r)
  | _ => none

def dropFirstBreak (cs : List Char) : List Char := ((lineBreak? cs).map (·.2)).getD cs

def isSpace (c : Char) : Bool := c == ' ' || c == '\t'

/-- What follows a backslash at the end of a line: everything up to the next character that is neither a space nor
a line break. -/
def continueLine? (cs : List Char) : Option (List Char) :=
  match lineBreak? (cs.dropWhile isSpace) with
  | some (_, r) => some (skip r)
  | none => none
where
  /-- Drops spaces and line breaks. -/
  skip : List Char → List Char
    | '\r' :: '\n' :: r => skip r
    | '\n' :: r => skip r
    | ' ' :: r => skip r
    | '\t' :: r => skip r
    | cs => cs

/-- The number of quotes at the start of `cs`. -/
def quoteRun (q : Char) (cs : List Char) : Nat := (cs.takeWhile (· == q)).length

/-- The text over several lines that follows three quotes `q`, where `escapes` tells whether a backslash escapes.
Up to two quotes may stand in front of the closing three. -/
def multiline (q : Char) (escapes : Bool) : Nat → List Char → Option (List Char × List Char)
  | 0, _ => none
  | _ + 1, [] => none
  | fuel + 1, c :: r =>
    if c == q then
      let n := quoteRun q (c :: r)
      if n < 3 then (multiline q escapes fuel (r.drop (n - 1))).map fun (t, r) => (List.replicate n q ++ t, r)
      else if n ≤ 5 then some (List.replicate (n - 3) q, r.drop (n - 1))
      else none
    else if c == '\\' && escapes then
      match continueLine? r, escape? r with
      | some r, _ => multiline q escapes fuel r
      | none, some (c, n) => prepend c (multiline q escapes fuel (r.drop n))
      | none, none => none
    else
      match lineBreak? (c :: r) with
      | some (b, r) => (multiline q escapes fuel r).map fun (t, r) => (b ++ t, r)
      | none => if isPlain c then prepend c (multiline q escapes fuel r) else none

/-- The text that starts at a quote, and whether it may run over several lines. -/
def text? : List Char → Option (Bool × List Char × List Char)
  | '"' :: '"' :: '"' :: r => (multiline '"' true (r.length + 1) (dropFirstBreak r)).map (true, ·)
  | '\'' :: '\'' :: '\'' :: r => (multiline '\'' false (r.length + 1) (dropFirstBreak r)).map (true, ·)
  | '"' :: r => (basic r).map (false, ·)
  | '\'' :: r => (literal r).map (false, ·)
  | _ => none

end FluentThis.Toml
