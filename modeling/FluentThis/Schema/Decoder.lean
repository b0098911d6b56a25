import FluentThis.Schema.Fault
/-!
Reading values out of documents. Every reader meets the problems of a document in the order of its entries, and the
first one is the answer: a place where the text is cut counts when it is reached, not before.
-/

namespace FluentThis

namespace Schema

def reject (n : Node) (expected : String) : Fault :=
  match n with
  | .hugeInteger => .mismatch .hugeInteger
  | .hugeFloat => .mismatch .hugeFloat
  | n =>
    match n.kind? with
    | some found => .mismatch (.invalidType found expected)
    | none => .malformed

def text : Node → Except Fault String
  | .text s => .ok s
  | n => .error (reject n "a string")

def flag : Node → Except Fault Bool
  | .boolean b => .ok b
  | n => .error (reject n "a boolean")

/-- A value that null may stand for. -/
def optional {α : Type} (f : Node → Except Fault α) : Node → Except Fault (Option α)
  | .null => .ok none
  | n => (f n).map some

/-- Nothing may be wrong with the end of a list or table. -/
def ended (ending : Ending) : Except Fault Unit := if ending = .closed then .ok () else .error .malformed

def list {α : Type} (f : Node → Except Fault α) : Node → Except Fault (List α)
  | .list items ending => do
    let xs ← items.mapM f
    ended ending
    return xs
  | n => .error (reject n "a sequence")

def named {α : Type} (variants : List (String × α)) (s : String) : Except Fault α :=
  match variants.lookup s with
  | some a => .ok a
  | none => .error (.mismatch (.unknownVariant s (variants.map (·.1))))

def unit : DocumentFormat → Node → Except Fault Unit
  | .json, .null => .ok ()
  | .json, n => .error (reject n "unit")
  | .toml, .list [] _ => .ok ()
  | .toml, .table [] _ => .ok ()
  | .toml, n => .error (.mismatch (.variantContent (problem n)))
where
  /-- What is wrong with the value of a variant that holds none. -/
  problem : Node → String
    | .list _ _ => "expected empty array"
    | .table _ _ => "expected empty table"
    | .boolean _ => "expected table, found boolean"
    | .integer _ => "expected table, found integer"
    | .hugeInteger => "expected table, found integer"
    | .text _ => "expected table, found string"
    | .date => "expected table, found datetime"
    | _ => "expected table, found float"

/-- One of several names, written as a text or as the only key of a table. -/
def variant {α : Type} (format : DocumentFormat) (variants : List (String × α)) : Node → Except Fault α
  | .text s => named variants s
  | .table entries ending =>
    match format, entries, ending with
    | .json, [], _ => .error .malformed
    | .json, (k, n) :: rest, ending => do
      let a ← named variants k
      unit .json n
      if rest.isEmpty then ended ending else .error .malformed
      return a
    | .toml, [], _ => .error (.mismatch .noVariant)
    | .toml, [(k, n)], _ => do
      let a ← named variants k
      unit .toml n
      return a
    | .toml, _, _ => .error (.mismatch .manyVariants)
  | _ =>
    match format with
    | .json => .error .malformed
    | .toml => .error (.mismatch .noVariantForm)

/-- Reads the entries of a table into a record, one field after the other. A key is looked at before its value. -/
def entries {σ : Type} (fields : List String) (step : String → Node → σ → Except Fault σ) :
    List (String × Node) → List String → σ → Except Fault σ
  | [], _, s => .ok s
  | (k, n) :: rest, seen, s =>
    if k ∈ fields then
      if k ∈ seen then .error (.mismatch (.duplicateField k))
      else do
        let s ← step k n s
        entries fields step rest (k :: seen) s
    else .error (.mismatch (.unknownField k fields))

/-- Reads the items of a list into a record, one field after the other. What is left over of either is returned. -/
def positions {σ : Type} (step : String → Node → σ → Except Fault σ) :
    List String → List Node → σ → Except Fault (σ × List String × List Node)
  | f :: fields, n :: items, s => do
    let s ← step f n s
    positions step fields items s
  | fields, items, s => .ok (s, fields, items)

/-- The only key of a date, when it is looked at as a table. -/
def dateKey : String := "$__toml_private_datetime"

/-- A record, written as a table or as the list of its fields. `finish` looks at what was read; it is told whether
that was a list. -/
def record {σ α : Type} (format : DocumentFormat) (label : String) (fields : List String)
    (step : String → Node → σ → Except Fault σ) (finish : Bool → σ → Except Fault α) (start : σ) :
    Node → Except Fault α
  | .table es ending => do
    let s ← entries fields step es [] start
    ended ending
    finish false s
  | .list items ending => do
    let (s, unfilled, extra) ← positions step fields items start
    if unfilled.isEmpty then pure () else ended ending
    let a ← finish true s
    if format = .json then
      if extra.isEmpty then ended ending else .error .malformed
    return a
  | .date => .error (.mismatch (.unknownField dateKey fields))
  | n => .error (reject n label)

mutual

/-- Whether a value can be read at all, whatever it is: nothing in it is cut and no number in it is too large. -/
def settled : Node → Except Fault Unit
  | .cut => .error .malformed
  | .hugeInteger => .error (.mismatch .hugeInteger)
  | .hugeFloat => .error (.mismatch .hugeFloat)
  | .integer i => if fits 64 i then .ok () else .error (reject (.integer i) "any value")
  | .list items ending => do
    settledItems items
    ended ending
  | .table es ending => do
    settledEntries es
    ended ending
  | _ => .ok ()

def settledItems : List Node → Except Fault Unit
  | [] => .ok ()
  | n :: ns => do
    settled n
    settledItems ns

def settledEntries : List (String × Node) → Except Fault Unit
  | [] => .ok ()
  | (_, n) :: es => do
    settled n
    settledEntries es

end

end Schema

end FluentThis
