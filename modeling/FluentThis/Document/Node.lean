import FluentThis.Document.Binary64
/-!
Documents as trees. Reading a text never fails: it gives the tree as far as the text is well formed and marks the
place where it stops being so, so that a reader of the tree meets its problems in the order of the text.
-/

namespace FluentThis

/-- The kinds of values, each with what is written about it when it stands in the wrong place. -/
inductive ValueKind where
  | null
  | boolean (value : Bool)
  | integer (value : Int)
  | float (value : Binary64)
  | text (value : String)
  | sequence
  | map
  deriving DecidableEq, Repr

/-- How a list or table ends: with its bracket, or where the text stops being well formed. -/
inductive Ending where
  | closed
  | cut
  deriving DecidableEq, Repr

/-- A value of a document. `date` stands for the dates and times of TOML, `hugeInteger` for an integer that 128 bits do
not hold or that has no value, `hugeFloat` for a number too large for `Binary64`, and `cut` for a value that cannot be
read. -/
inductive Node where
  | null
  | boolean (value : Bool)
  | integer (value : Int)
  | hugeInteger
  | float (value : Binary64)
  | hugeFloat
  | text (value : String)
  | date
  | list (items : List Node) (ending : Ending)
  | table (entries : List (String × Node)) (ending : Ending)
  | cut
  deriving Repr, Inhabited

namespace Node

/-- The kind of a value; a date counts as a table. -/
def kind? : Node → Option ValueKind
  | null => some .null
  | boolean b => some (.boolean b)
  | integer i => some (.integer i)
  | float x => some (.float x)
  | text s => some (.text s)
  | date => some .map
  | list _ _ => some .sequence
  | table _ _ => some .map
  | hugeInteger => none
  | hugeFloat => none
  | cut => none

mutual

/-- Whether nothing in the tree is cut: the text it was read from was well formed up to the end of the value. -/
def isWhole : Node → Bool
  | cut => false
  | list items ending => ending == .closed && allWhole items
  | table entries ending => ending == .closed && entriesWhole entries
  | _ => true

def allWhole : List Node → Bool
  | [] => true
  | n :: ns => isWhole n && allWhole ns

def entriesWhole : List (String × Node) → Bool
  | [] => true
  | (_, n) :: es => isWhole n && entriesWhole es

end

mutual

/-- Whether two trees are equal. -/
def same : Node → Node → Bool
  | null, null => true
  | boolean a, boolean b => a == b
  | integer i, integer j => i == j
  | hugeInteger, hugeInteger => true
  | float x, float y => x == y
  | hugeFloat, hugeFloat => true
  | text s, text t => s == t
  | date, date => true
  | list ns e, list ms f => allSame ns ms && e == f
  | table ns e, table ms f => entriesSame ns ms && e == f
  | cut, cut => true
  | _, _ => false

def allSame : List Node → List Node → Bool
  | [], [] => true
  | n :: ns, m :: ms => same n m && allSame ns ms
  | _, _ => false

def entriesSame : List (String × Node) → List (String × Node) → Bool
  | [], [] => true
  | (k, n) :: ns, (l, m) :: ms => k == l && same n m && entriesSame ns ms
  | _, _ => false

end

mutual

theorem same_iff (n m : Node) : same n m = true ↔ n = m := by
  cases n with
  | list ns e => cases m <;> simp [same, allSame_iff ns]
  | table ns e => cases m <;> simp [same, entriesSame_iff ns]
  | _ => cases m <;> simp [same]

theorem allSame_iff (ns ms : List Node) : allSame ns ms = true ↔ ns = ms := by
  cases ns with
  | nil => cases ms <;> simp [allSame]
  | cons n ns => cases ms <;> simp [allSame, same_iff n, allSame_iff ns]

theorem entriesSame_iff (ns ms : List (String × Node)) : entriesSame ns ms = true ↔ ns = ms := by
  cases ns with
  | nil => cases ms <;> simp [entriesSame]
  | cons n ns => cases ms <;> simp [entriesSame, same_iff n.2, entriesSame_iff ns, Prod.ext_iff]

end

instance : DecidableEq Node := fun n m => decidable_of_iff (same n m = true) (same_iff n m)

end Node

end FluentThis
