import FluentThis.Toml.Scalar
import FluentThis.Toml.Table
import FluentThis.Toml.Token
/-!
Reading TOML. A text is a list of sections, each with a header and the keys and values below it, and the sections are
put together in order. Either the whole text is well formed and gives one table with its keys in ascending order, or
it gives nothing.
-/

namespace FluentThis.Toml

abbrev Key := List String × String

/-- The most lists and inline tables that may be open at once, and the most parts that a key may have. -/
def depthLimit : Nat := 80

def skipSpaces : List Token → List Token
  | .spaces _ :: ts => ts
  | ts => ts

def skipBreaks : List Token → List Token
  | .spaces _ :: ts => skipBreaks ts
  | .lineBreak :: ts => skipBreaks ts
  | ts => ts

def isBare (c : Char) : Bool := c.isAlphanum || c == '_' || c == '-'

def keyPart? : List Token → Option (String × List Token)
  | .word cs :: ts => if cs.all isBare then some (String.ofList cs, ts) else none
  | .text false s :: ts => some (s, ts)
  | _ => none

/-- A key of at most `parts` parts, which dots separate. -/
def keyParts? : Nat → List Token → Option (Key × List Token)
  | 0, _ => none
  | parts + 1, ts => do
    let (part, rest) ← keyPart? (skipSpaces ts)
    match skipSpaces rest with
    | .dot :: rest =>
      let ((path, last), rest) ← keyParts? parts rest
      return ((part :: path, last), rest)
    | _ => return (([], part), rest)

def key? (ts : List Token) : Option (Key × List Token) := keyParts? depthLimit ts

/-- The characters of a value without quotes: one run, or two with a point between them, and a time after a date and
a space. -/
def lexeme (cs : List Char) (ts : List Token) : List Char × List Token :=
  match ts with
  | .dot :: .word ds :: ts => (cs ++ '.' :: ds, ts)
  | .spaces [' '] :: .word ds :: ts =>
    if date? cs = some [] then
      match ts with
      | .dot :: .word fs :: ts => (cs ++ ' ' :: ds ++ '.' :: fs, ts)
      | _ => (cs ++ ' ' :: ds, ts)
    else (cs, .spaces [' '] :: .word ds :: ts)
  | _ => (cs, ts)

mutual

/-- A value inside `depth` lists and inline tables. -/
def value? : Nat → Nat → List Token → Option (Node × List Token)
  | 0, _, _ => none
  | _ + 1, _, .text _ s :: ts => some (.text s, ts)
  | _ + 1, _, .word cs :: ts =>
    let (cs, ts) := lexeme cs ts
    (scalar? cs).map (·, ts)
  | fuel + 1, depth, .openList :: ts =>
    if depth < depthLimit then
      (items? fuel (depth + 1) (skipBreaks ts)).map fun (ns, ts) => (.list ns .closed, ts)
    else none
  | fuel + 1, depth, .openTable :: ts =>
    if depth < depthLimit then do
      let (body, ts) ← pairs? fuel (depth + 1) (skipBreaks ts)
      let es ← Entries.assignAll [] body
      return (.table (Draft.nodes es) .closed, ts)
    else none
  | _ + 1, _, _ => none

/-- The items of a list up to its end, the last of which a comma may follow. -/
def items? : Nat → Nat → List Token → Option (List Node × List Token)
  | 0, _, _ => none
  | _ + 1, _, .closeList :: ts => some ([], ts)
  | fuel + 1, depth, ts => do
    let (n, ts) ← value? fuel depth ts
    match skipBreaks ts with
    | .comma :: ts =>
      let (ns, ts) ← items? fuel depth (skipBreaks ts)
      return (n :: ns, ts)
    | .closeList :: ts => return ([n], ts)
    | _ => none

/-- The keys and values of an inline table up to its end, the last of which a comma may follow. Line breaks may stand
around every mark but the dots of a key. -/
def pairs? : Nat → Nat → List Token → Option (List (Key × Node) × List Token)
  | 0, _, _ => none
  | _ + 1, _, .closeTable :: ts => some ([], ts)
  | fuel + 1, depth, ts => do
    let (k, ts) ← key? ts
    match skipBreaks ts with
    | .equals :: ts =>
      let (n, ts) ← value? fuel depth (skipBreaks ts)
      match skipBreaks ts with
      | .comma :: ts =>
        let (ps, ts) ← pairs? fuel depth (skipBreaks ts)
        return ((k, n) :: ps, ts)
      | .closeTable :: ts => return ([(k, n)], ts)
      | _ => none
    | _ => none

end

/-- A line of a text: nothing, the header of a table or of one more of an array of tables, or a key and a value. -/
inductive Line where
  | empty
  | table (key : Key)
  | element (key : Key)
  | pair (key : Key) (value : Node)
  deriving Repr

/-- What a line says, and what follows it. -/
def line? (fuel : Nat) (ts : List Token) : Option (Line × List Token) :=
  match skipSpaces ts with
  | [] => some (.empty, [])
  | .lineBreak :: ts => some (.empty, .lineBreak :: ts)
  | .openList :: .openList :: ts => do
    let (k, ts) ← key? ts
    match skipSpaces ts with
    | .closeList :: .closeList :: ts => return (.element k, ts)
    | _ => none
  | .openList :: ts => do
    let (k, ts) ← key? ts
    match skipSpaces ts with
    | .closeList :: ts => return (.table k, ts)
    | _ => none
  | ts => do
    let (k, ts) ← key? ts
    match skipSpaces ts with
    | .equals :: ts =>
      let (n, ts) ← value? fuel 0 (skipSpaces ts)
      return (.pair k n, ts)
    | _ => none

/-- The lines of a text, each of which ends at a line break or at the end of the text. -/
def lines? : Nat → List Token → Option (List Line)
  | 0, _ => none
  | fuel + 1, ts => do
    let (l, ts) ← line? fuel ts
    match skipSpaces ts with
    | [] => return [l]
    | .lineBreak :: ts =>
      let ls ← lines? fuel ts
      return l :: ls
    | _ => none

structure Section where
  isElement : Bool
  key : Key
  body : List (Key × Node)
  deriving Repr

/-- The keys and values in front of the first header, and the sections after them. -/
def sections : List Line → List (Key × Node) × List Section
  | [] => ([], [])
  | .empty :: ls => sections ls
  | .pair k n :: ls =>
    let (body, rest) := sections ls
    ((k, n) :: body, rest)
  | .table k :: ls =>
    let (body, rest) := sections ls
    ([], ⟨false, k, body⟩ :: rest)
  | .element k :: ls =>
    let (body, rest) := sections ls
    ([], ⟨true, k, body⟩ :: rest)

def assemble (ls : List Line) : Option Entries := do
  let (body, rest) := sections ls
  let es ← Entries.assignAll [] body
  rest.foldlM (fun es s => if s.isElement then es.addElement s.key s.body else es.addTable s.key s.body) es

/-- A byte order mark at the start of a text is skipped. -/
def dropMark : List Char → List Char
  | '\ufeff' :: r => r
  | cs => cs

/-- The table that a TOML text holds; `none` when the text is malformed. -/
def read (s : String) : Option Node := do
  let cs := dropMark s.toList
  let ts ← Token.ofChars? (cs.length + 1) cs
  let ls ← lines? (2 * ts.length + 2) ts
  let es ← assemble ls
  return .table (Draft.nodes es) .closed

end FluentThis.Toml
