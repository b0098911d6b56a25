/-!
The elements of a program: its classes and interfaces and their methods and constructors, each known by a number, and
the annotations attached to them.
-/

namespace FluentThis

/-- The identity of an element: its position in the program that holds it. -/
structure ElementId where
  index : Nat
  deriving DecidableEq, Repr

def ElementId.label (id : ElementId) : String := "#" ++ toString id.index

inductive ElementKind where
  | classType
  | interfaceType
  | method
  | constructor
  deriving DecidableEq, Repr

namespace ElementKind

def isExecutable : ElementKind → Bool
  | classType => false
  | interfaceType => false
  | method => true
  | constructor => true

end ElementKind

inductive ExecutableKind where
  | method
  | constructor
  deriving DecidableEq, Repr

namespace ExecutableKind

def name : ExecutableKind → String
  | method => "method"
  | constructor => "constructor"

def elementKind : ExecutableKind → ElementKind
  | method => .method
  | constructor => .constructor

end ExecutableKind

def constructorName : String := "<init>"

/-- An annotation. One whose own declaration is not available is not resolved and can be told by its name alone. -/
structure Annotation where
  name : String
  resolved : Bool
  deriving DecidableEq, Repr

end FluentThis
