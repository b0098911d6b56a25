import FluentThis.Element
import FluentThis.Qualifier
/-!
Programs as they are written down: types with their annotations and methods. References to types are texts here; what
they stand for is decided when the program is built.
-/

namespace FluentThis

inductive TypeKind where
  | classType
  | interfaceType
  deriving DecidableEq, Repr

namespace TypeKind

def name : TypeKind → String
  | classType => "class"
  | interfaceType => "interface"

def elementKind : TypeKind → ElementKind
  | classType => .classType
  | interfaceType => .interfaceType

end TypeKind

/-- An annotation, written as its name or with whether it is resolved. -/
inductive DeclaredAnnotation where
  | named (name : String)
  | detailed (name : String) (resolved : Bool)
  deriving DecidableEq, Repr

namespace DeclaredAnnotation

/-- The annotation that is declared. One of which only the name is written is resolved. -/
def annotation : DeclaredAnnotation → Annotation
  | named name => ⟨name, true⟩
  | detailed name resolved => ⟨name, resolved⟩

end DeclaredAnnotation

/-- A method or constructor. The name and the type to return of a constructor are not looked at. -/
structure DeclaredMethod where
  name : String := ""
  kind : ExecutableKind := .method
  isStatic : Bool := false
  returns : String := "void"
  returnQualifier : Option Qualifier := none
  annotations : List DeclaredAnnotation := []
  deriving DecidableEq, Repr

structure DeclaredType where
  name : String
  kind : TypeKind := .classType
  superclass : Option String := none
  annotations : List DeclaredAnnotation := []
  methods : List DeclaredMethod := []
  deriving DecidableEq, Repr

structure Source where
  types : List DeclaredType := []
  deriving DecidableEq, Repr

end FluentThis
