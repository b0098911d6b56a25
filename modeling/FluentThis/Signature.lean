import FluentThis.Element
import FluentThis.Qualifier
/-!
Signatures of methods and constructors: the types they return and receive, each with room for one qualifier.
Inference changes the qualifiers and nothing else.
-/

namespace FluentThis

/-- What a type is, apart from its qualifier. `noType` is what stands for the superclass of an interface, `declared`
is a type of the program itself and `external` one that the program only mentions. -/
inductive TypeIdentity where
  | noType
  | void
  | primitive (name : String)
  | array (component : TypeIdentity)
  | declared (id : ElementId)
  | external (name : String)
  deriving DecidableEq, Repr

namespace TypeIdentity

/-- The element that declares the type. An array is declared by none, whatever its component. -/
def element? : TypeIdentity → Option ElementId
  | declared id => some id
  | _ => none

/-- The name of a type, where `nameOf` names the types of the program. -/
def display (nameOf : ElementId → String) : TypeIdentity → String
  | noType => "<none>"
  | void => "void"
  | primitive name => name
  | array component => component.display nameOf ++ "[]"
  | declared id => nameOf id
  | external name => name

/-- The type with arrays made of it, one of the other. -/
def arrays (t : TypeIdentity) : Nat → TypeIdentity
  | 0 => t
  | n + 1 => array (arrays t n)

theorem element?_eq_some_iff {t : TypeIdentity} {id : ElementId} : t.element? = some id ↔ t = declared id := by
  cases t <;> simp [element?]

end TypeIdentity

/-- A type with the qualifier on it, if there is one. -/
structure QualifiedType where
  identity : TypeIdentity
  qualifier : Option Qualifier := none
  deriving DecidableEq, Repr

namespace QualifiedType

/-- The qualifier on the type, if it belongs to the hierarchy whose top is `top`. -/
def qualifierIn (t : QualifiedType) (top : Qualifier) : Option Qualifier := t.qualifier.filter (·.isInHierarchy top)

def qualify (t : QualifiedType) (q : Qualifier) : QualifiedType := { t with qualifier := some q }

@[simp] theorem qualify_identity (t : QualifiedType) (q : Qualifier) : (t.qualify q).identity = t.identity := rfl

@[simp] theorem qualify_qualifier (t : QualifiedType) (q : Qualifier) : (t.qualify q).qualifier = some q := rfl

@[simp] theorem qualify_qualify (t : QualifiedType) (q r : Qualifier) : (t.qualify q).qualify r = t.qualify r := rfl

/-- Every qualifier belongs to the hierarchy of `@UnknownThis`. -/
@[simp] theorem qualifierIn_unknown (t : QualifiedType) : t.qualifierIn .unknown = t.qualifier := by
  cases h : t.qualifier <;> simp [qualifierIn, h, Qualifier.isInHierarchy, Qualifier.top]

end QualifiedType

/-- The signature of a method or constructor. A signature that has lost the type it returns has none; a constructor
and a static method have no receiver. -/
structure Signature where
  element : ElementId
  enclosing : ElementId
  name : String
  kind : ExecutableKind
  isStatic : Bool
  returns : Option QualifiedType
  receiver : Option QualifiedType
  deriving DecidableEq, Repr

namespace Signature

/-- The signature of a method that is called on a value of the enclosing type. -/
def method (element enclosing : ElementId) (name : String) (returns : QualifiedType) : Signature where
  element := element
  enclosing := enclosing
  name := name
  kind := .method
  isStatic := false
  returns := some returns
  receiver := some { identity := .declared enclosing }

def staticMethod (element enclosing : ElementId) (name : String) (returns : QualifiedType) : Signature :=
  { method element enclosing name returns with isStatic := true, receiver := none }

/-- The signature of a constructor, which returns the enclosing type. -/
def constructor (element enclosing : ElementId) : Signature where
  element := element
  enclosing := enclosing
  name := constructorName
  kind := .constructor
  isStatic := false
  returns := some { identity := .declared enclosing }
  receiver := none

/-- The signature with another type to return, or with none. -/
def withReturns (s : Signature) (returns : Option QualifiedType) : Signature := { s with returns := returns }

/-- The signature with the given qualifier on the type it returns, if it has one. -/
def qualifyReturns (s : Signature) (q : Qualifier) : Signature := { s with returns := s.returns.map (·.qualify q) }

/-- The signature with the given qualifier on its receiver, if it has one. -/
def qualifyReceiver (s : Signature) (q : Qualifier) : Signature := { s with receiver := s.receiver.map (·.qualify q) }

def returnQualifier (s : Signature) : Option Qualifier := s.returns.bind (·.qualifier)

def receiverQualifier (s : Signature) : Option Qualifier := s.receiver.bind (·.qualifier)

/-- How a signature is mentioned, where `nameOf` names the types of the program. -/
def mention (s : Signature) (nameOf : ElementId → String) : String := nameOf s.enclosing ++ "#" ++ s.name

end Signature

end FluentThis
