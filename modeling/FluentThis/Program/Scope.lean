import FluentThis.Program.Name
import FluentThis.Program.Reference
import FluentThis.Signature
/-!
What the names in a program mean. A scope holds the names of the types of a program, each at the position that is the
identity of its type; every other name means a type from elsewhere.
-/

namespace FluentThis

/-- The names of the types of a program, in order. -/
structure Scope where
  names : List String
  deriving DecidableEq, Repr

namespace Scope

def find? (scope : Scope) (name : String) : Option ElementId := (scope.names.idxOf? name).map ElementId.mk

/-- The type with the longest name that the given name lies inside. -/
def enclosing? (scope : Scope) (name : String) : Option ElementId :=
  (Name.outer name.toList).findSome? fun outer => scope.find? (String.ofList outer)

/-- The names of the primitive types. -/
def primitives : List String := ["boolean", "byte", "short", "int", "long", "char", "float", "double"]

/-- What a name means. The words for no value and for the primitive types cannot be taken by a type. -/
def meaning (scope : Scope) (name : String) : TypeIdentity :=
  if name = "void" then .void
  else if name ∈ primitives then .primitive name
  else
    match scope.find? name with
    | some id => .declared id
    | none => .external name

def resolve (scope : Scope) (text : String) : TypeIdentity :=
  let reference := TypeReference.ofChars text.toList
  (scope.meaning (String.ofList reference.base)).arrays reference.dimensions

/-- A name is found exactly when a type has it. -/
theorem find?_eq_none_iff {scope : Scope} {name : String} : scope.find? name = none ↔ name ∉ scope.names := by
  simp [find?]

/-- What is found has the name that was asked for. -/
theorem getElem?_of_find? {scope : Scope} {name : String} {id : ElementId} (h : scope.find? name = some id) :
    scope.names[id.index]? = some name := by
  obtain ⟨i, hi, rfl⟩ := Option.map_eq_some_iff.1 h
  obtain ⟨hlt, hname, _⟩ := List.idxOf?_eq_some_iff.1 hi
  exact List.getElem?_eq_some_iff.2 ⟨hlt, by simpa using hname⟩

end Scope

end FluentThis
