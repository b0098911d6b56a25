import FluentThis.Host
import FluentThis.Program.Name
import FluentThis.Program.Source
/-!
Programs with all references resolved. The elements are numbered: the types come first, then the executables.
`Program.host` is how inference sees a program.
-/

namespace FluentThis

structure TypeElement where
  name : String
  kind : TypeKind
  superclass : TypeIdentity
  enclosing : Option ElementId
  annotations : List Annotation
  deriving DecidableEq, Repr

structure ExecutableElement where
  owner : ElementId
  ownerName : String
  name : String
  kind : ExecutableKind
  isStatic : Bool
  returns : QualifiedType
  annotations : List Annotation
  deriving DecidableEq, Repr

inductive Element where
  | type (element : TypeElement)
  | executable (element : ExecutableElement)
  deriving DecidableEq, Repr

namespace Element

def kind : Element → ElementKind
  | type t => t.kind.elementKind
  | executable e => e.kind.elementKind

/-- The name of an element without that of what encloses it. -/
def simpleName : Element → String
  | type t => String.ofList (Name.simple t.name.toList)
  | executable e => e.name

def qualifiedName : Element → String
  | type t => t.name
  | executable e => e.ownerName ++ "#" ++ e.name

def enclosing : Element → Option ElementId
  | type t => t.enclosing
  | executable e => some e.owner

/-- The superclass of an element; only classes have one. -/
def superclass : Element → TypeIdentity
  | type t => t.superclass
  | executable _ => .noType

def annotations : Element → List Annotation
  | type t => t.annotations
  | executable e => e.annotations

end Element

def ExecutableElement.signature (e : ExecutableElement) (id : ElementId) : Signature :=
  match e.kind, e.isStatic with
  | .constructor, _ => (Signature.constructor id e.owner).withReturns (some e.returns)
  | .method, true => Signature.staticMethod id e.owner e.name e.returns
  | .method, false => Signature.method id e.owner e.name e.returns

/-- A program with all references resolved. -/
structure Program where
  types : List TypeElement
  executables : List ExecutableElement
  deriving DecidableEq, Repr

namespace Program

def elements (p : Program) : List Element := p.types.map .type ++ p.executables.map .executable

def size (p : Program) : Nat := p.types.length + p.executables.length

def element? (p : Program) (id : ElementId) : Option Element :=
  match p.types[id.index]? with
  | some t => some (.type t)
  | none => (p.executables[id.index - p.types.length]?).map .executable

/-- The numbers of the executables, in order. -/
def executableIds (p : Program) : List ElementId :=
  (List.range p.executables.length).map fun i => ⟨p.types.length + i⟩

def type? (p : Program) (name : String) : Option ElementId := (p.types.findIdx? (·.name == name)).map ElementId.mk

/-- The first executable of the given type that has the given name. -/
def executable? (p : Program) (owner name : String) : Option ElementId := do
  let owner ← p.type? owner
  let i ← p.executables.findIdx? fun e => e.owner == owner && e.name == name
  return ⟨p.types.length + i⟩

def signature (p : Program) (id : ElementId) : Except Failure Signature :=
  match p.element? id with
  | none => .error (.program (.unknownElement id))
  | some (.type t) => .error (.program (.notExecutable t.name))
  | some (.executable e) => .ok (e.signature id)

/-- The program as inference sees it. -/
def host (p : Program) : Host where
  kind id := ((p.element? id).map Element.kind).getD .classType
  simpleName id := ((p.element? id).map Element.simpleName).getD ""
  qualifiedName id := ((p.element? id).map Element.qualifiedName).getD ""
  enclosing id := (p.element? id).bind Element.enclosing
  superclass id := ((p.element? id).map Element.superclass).getD .noType
  annotations id := ((p.element? id).map Element.annotations).getD []
  executables := p.executableIds
  signature := p.signature

@[simp] theorem length_elements (p : Program) : p.elements.length = p.size := by simp [elements, size]

/-- The numbers count the elements. -/
theorem element?_eq_getElem? (p : Program) (id : ElementId) : p.element? id = p.elements[id.index]? := by
  rw [element?, elements, List.getElem?_append]
  split <;> rename_i h
  · have hlt := (List.getElem?_eq_some_iff.1 h).1
    simp [hlt, (List.getElem?_eq_some_iff.1 h).2]
  · simp [Nat.not_lt.2 (List.getElem?_eq_none_iff.1 h)]

end Program

end FluentThis
