import FluentThis.Document.Node
/-!
Whole documents: what a program or a report is written as, in whichever format. `Document.toNode` is the tree that
reading such a text gives.
-/

namespace FluentThis

/-- A whole document of named values, integers, texts, lists and tables. -/
inductive Document where
  | null
  | boolean (value : Bool)
  | integer (value : Int)
  | text (value : String)
  | list (items : List Document)
  | table (entries : List (String × Document))
  deriving Repr

namespace Document

/-- A text, or null when there is none. -/
def ofText? (s : Option String) : Document := (s.map text).getD null

mutual

def toNode : Document → Node
  | null => .null
  | boolean b => .boolean b
  | integer i => .integer i
  | text s => .text s
  | list items => .list (toNodes items) .closed
  | table entries => .table (toEntries entries) .closed

def toNodes : List Document → List Node
  | [] => []
  | d :: ds => toNode d :: toNodes ds

def toEntries : List (String × Document) → List (String × Node)
  | [] => []
  | (k, d) :: es => (k, toNode d) :: toEntries es

end

end Document

end FluentThis
