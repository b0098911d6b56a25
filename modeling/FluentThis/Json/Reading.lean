import FluentThis.Json.Token
/-!
Reading JSON. The reader keeps the lists and tables that are still open, innermost first, and what may stand next;
each token moves it by one step. At the first token that may not stand where it does, everything still open is
closed as cut.
-/

namespace FluentThis.Json

/-- A list or table that is still open: what it holds so far, latest first, and for a table the key whose value is
due. -/
inductive OpenNode where
  | list (items : List Node)
  | table (entries : List (String × Node)) (key : Option String)
  deriving Repr

/-- What may stand next: a value, an item or the end of an empty list, a key or the end of an empty table, a key, a
colon, a comma or the end of a list or table, or nothing more. -/
inductive Due where
  | value
  | itemOrEnd
  | keyOrEnd
  | key
  | colon
  | separator
  | nothing
  deriving DecidableEq, Repr

/-- Where the reader stands; `root` is the document once it is complete. -/
structure Reader where
  stack : List OpenNode
  due : Due
  root : Node

/-- A document as far as it can be read, and whether anything follows it. -/
structure Reading where
  root : Node
  trailing : Bool
  deriving DecidableEq, Repr

/-- Whether a text is read to its end and nothing in it is cut. -/
def Reading.isWhole (r : Reading) : Bool := r.root.isWhole && !r.trailing

namespace OpenNode

/-- The value of an open list or table that ends here, with `last` as the value in progress if there is one. -/
def close (ending : Ending) : OpenNode → Option Node → Node
  | list items, none => .list items.reverse ending
  | list items, some n => .list (n :: items).reverse ending
  | table entries none, _ => .table entries.reverse ending
  | table entries (some k), none => .table ((k, .cut) :: entries).reverse ending
  | table entries (some k), some n => .table ((k, n) :: entries).reverse ending

end OpenNode

namespace Reader

def start : Reader := ⟨[], .value, .cut⟩

/-- The most lists and tables that may be open at once. -/
def depthLimit : Nat := 127

/-- Closes what is open as cut, from the inside out. -/
def abandon : List OpenNode → Option Node → Node
  | [], none => .cut
  | [], some n => n
  | o :: rest, n => abandon rest (some (o.close .cut n))

def put (n : Node) : List OpenNode → Reader
  | [] => ⟨[], .nothing, n⟩
  | .list items :: rest => ⟨.list (n :: items) :: rest, .separator, .cut⟩
  | .table entries none :: rest => ⟨.table entries none :: rest, .separator, .cut⟩
  | .table entries (some k) :: rest => ⟨.table ((k, n) :: entries) none :: rest, .separator, .cut⟩

/-- Opens a list or table, if not too many are open. -/
def enter (o : OpenNode) (due : Due) (stack : List OpenNode) : Option Reader :=
  if stack.length < depthLimit then some ⟨o :: stack, due, .cut⟩ else none

def value (stack : List OpenNode) : Token → Option Reader
  | .scalar n => some (put n stack)
  | .openList => enter (.list []) .itemOrEnd stack
  | .openTable => enter (.table [] none) .keyOrEnd stack
  | _ => none

def leave : List OpenNode → Option Reader
  | [] => none
  | o :: rest => some (put (o.close .closed none) rest)

def key (stack : List OpenNode) : Token → Option Reader
  | .scalar (.text k) =>
    match stack with
    | .table entries _ :: rest => some ⟨.table entries (some k) :: rest, .colon, .cut⟩
    | _ => none
  | _ => none

def separate (stack : List OpenNode) : Token → Option Reader
  | .comma =>
    match stack with
    | .list _ :: _ => some ⟨stack, .value, .cut⟩
    | .table _ _ :: _ => some ⟨stack, .key, .cut⟩
    | [] => none
  | .closeList =>
    match stack with
    | .list _ :: _ => leave stack
    | _ => none
  | .closeTable =>
    match stack with
    | .table _ _ :: _ => leave stack
    | _ => none
  | _ => none

/-- One token; `none` when it may not stand here. -/
def step (r : Reader) (t : Token) : Option Reader :=
  match r.due with
  | .value => value r.stack t
  | .itemOrEnd =>
    match t with
    | .closeList => leave r.stack
    | _ => value r.stack t
  | .keyOrEnd =>
    match t with
    | .closeTable => leave r.stack
    | _ => key r.stack t
  | .key => key r.stack t
  | .colon =>
    match t with
    | .colon => some ⟨r.stack, .value, .cut⟩
    | _ => none
  | .separator => separate r.stack t
  | .nothing => none

/-- The reading that ends at a token that may not stand where it does, or at the end of the text. -/
def stop (r : Reader) (t : Option Token) : Reading :=
  match r.due with
  | .nothing => ⟨r.root, t.isSome⟩
  | _ => ⟨abandon r.stack none, true⟩

def run (r : Reader) : List Token → Reading
  | [] => r.stop none
  | t :: ts =>
    match r.step t with
    | some r' => r'.run ts
    | none => r.stop (some t)

end Reader

/-- The document that a JSON text holds, as far as it can be read. -/
def read (s : String) : Reading := Reader.start.run (Token.ofChars s.toList)

end FluentThis.Json
