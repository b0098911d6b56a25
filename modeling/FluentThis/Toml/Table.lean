import FluentThis.Document.Node
/-!
Tables under construction. A TOML text may come back to a table, but only in the way in which it was begun: by a
header to one that headers so far only passed through, by dotted keys to one that dotted keys began, and by a header
to the last of an array of tables. Values and inline tables are complete where they stand.
-/

namespace FluentThis.Toml

/-- How a table was begun: by headers of tables inside it, by its own header, or by dotted keys. -/
inductive Origin where
  | passed
  | header
  | dotted
  deriving DecidableEq, Repr

/-- A complete value, a table, or an array of tables of which the last may still grow. -/
inductive Draft where
  | value (node : Node)
  | table (origin : Origin) (entries : List (String × Draft))
  | tables (earlier : List Node) (last : List (String × Draft))
  deriving Repr

/-- The entries of a table under construction, in ascending order of their keys. -/
abbrev Entries := List (String × Draft)

namespace Draft

mutual

/-- The value that a draft has when nothing more is added to it. -/
def node : Draft → Node
  | value n => n
  | table _ entries => .table (nodes entries) .closed
  | tables earlier last => .list (earlier ++ [.table (nodes last) .closed]) .closed

def nodes : List (String × Draft) → List (String × Node)
  | [] => []
  | (k, d) :: es => (k, node d) :: nodes es

end

end Draft

namespace Entries

def get? (k : String) (es : Entries) : Option Draft := es.lookup k

/-- Sets the entry with the given key, in its place among the others. -/
def set (k : String) (d : Draft) : Entries → Entries
  | [] => [(k, d)]
  | (k', d') :: es =>
    if k = k' then (k, d) :: es
    else if k < k' then (k, d) :: (k', d') :: es
    else (k', d') :: set k d es

/-- Changes the table that a path leads to, where `dotted` tells a path of dotted keys from one of a header. `change`
is told whether dotted keys began that table. Dotted keys may not lead through a table that has its own header. -/
def alter (dotted : Bool) (change : Bool → Entries → Option Entries) :
    List String → Bool → Entries → Option Entries
  | [], begunDotted, es => change begunDotted es
  | k :: ks, _, es =>
    match es.get? k with
    | none =>
      (alter dotted change ks dotted []).map fun sub => es.set k (.table (if dotted then .dotted else .passed) sub)
    | some (.value _) => none
    | some (.table origin sub) =>
      if dotted && origin == .header then none
      else (alter dotted change ks (origin == .dotted) sub).map fun sub => es.set k (.table origin sub)
    | some (.tables earlier last) =>
      (alter dotted change ks false last).map fun last => es.set k (.tables earlier last)

/-- Adds a value under a key that is not there yet. A plain key may not reach into a table that dotted keys began,
and dotted keys may not reach into any other. -/
def add (k : String) (n : Node) (dotted begunDotted : Bool) (es : Entries) : Option Entries :=
  if dotted != begunDotted || (es.get? k).isSome then none else some (es.set k (.value n))

/-- Adds a value under a key that may be dotted. -/
def assign (key : List String × String) (n : Node) (es : Entries) : Option Entries :=
  alter true (add key.2 n !key.1.isEmpty) key.1 false es

def assignAll (es : Entries) (body : List ((List String × String) × Node)) : Option Entries :=
  body.foldlM (fun es (key, n) => es.assign key n) es

/-- Begins or comes back to a table by its header and adds the values below it. -/
def addTable (key : List String × String) (body : List ((List String × String) × Node)) (es : Entries) :
    Option Entries :=
  alter false
    (fun _ es =>
      match es.get? key.2 with
      | none => (assignAll [] body).map fun sub => es.set key.2 (.table .header sub)
      | some (.table .passed sub) => (assignAll sub body).map fun sub => es.set key.2 (.table .header sub)
      | some _ => none)
    key.1 false es

/-- Appends a table to an array of tables by its header and adds the values below it. -/
def addElement (key : List String × String) (body : List ((List String × String) × Node)) (es : Entries) :
    Option Entries :=
  alter false
    (fun _ es =>
      match es.get? key.2 with
      | none => (assignAll [] body).map fun last => es.set key.2 (.tables [] last)
      | some (.tables earlier last) =>
        (assignAll [] body).map fun new =>
          es.set key.2 (.tables (earlier ++ [.table (Draft.nodes last) .closed]) new)
      | some _ => none)
    key.1 false es

end Entries

end FluentThis.Toml
