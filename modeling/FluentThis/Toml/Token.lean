import FluentThis.Toml.Text
/-!
The tokens of a TOML text. Comments are dropped. What a run of other characters means is decided where it stands: it
may be a part of a key, of a number or of a date.
-/

namespace FluentThis.Toml

/-- A mark, a run of spaces, a line break, a quoted text or a run of other characters. -/
inductive Token where
  | dot
  | equals
  | comma
  | openList
  | closeList
  | openTable
  | closeTable
  | lineBreak
  | spaces (cs : List Char)
  | text (multiline : Bool) (value : String)
  | word (cs : List Char)
  deriving DecidableEq, Repr

namespace Token

/-- The tokens of one fixed character. -/
def ofChar? : Char → Option Token
  | '.' => some dot
  | '=' => some equals
  | ',' => some comma
  | '[' => some openList
  | ']' => some closeList
  | '{' => some openTable
  | '}' => some closeTable
  | '\n' => some lineBreak
  | _ => none

/-- The characters that end a run of other characters. A quote begins a text only at the start of a token. -/
def endsWord (c : Char) : Bool := (ofChar? c).isSome || isSpace c || c == '\r' || c == '#'

/-- The tokens of a text; `none` when a quoted text, a comment or a line break is malformed. -/
def ofChars? : Nat → List Char → Option (List Token)
  | _, [] => some []
  | 0, _ => none
  | fuel + 1, c :: r =>
    if c = '\r' then
      match r with
      | '\n' :: r => (ofChars? fuel r).map (lineBreak :: ·)
      | _ => none
    else if c = '#' then
      ofChars? fuel (r.dropWhile isPlain)
    else if c = '"' ∨ c = '\'' then
      match text? (c :: r) with
      | some (multiline, t, r) => (ofChars? fuel r).map (text multiline (String.ofList t) :: ·)
      | none => none
    else if isSpace c then
      (ofChars? fuel (r.dropWhile isSpace)).map (spaces (c :: r.takeWhile isSpace) :: ·)
    else
      match ofChar? c with
      | some t => (ofChars? fuel r).map (t :: ·)
      | none => (ofChars? fuel (r.dropWhile (!endsWord ·))).map (word (c :: r.takeWhile (!endsWord ·)) :: ·)

end Token

end FluentThis.Toml
