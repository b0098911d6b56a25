import FluentThis.Program.Basic
import FluentThis.Program.Scope
/-!
Programs built from their sources. The types keep the order of the source, and so do the methods, type by type.
`Source.fault?` tells what keeps a source from making a program, and `Source.program` is the program that it makes
otherwise; `Program.ofSource` is both together.
-/

namespace FluentThis

/-- The superclass of a class that names none. -/
def rootClass : String := "java.lang.Object"

namespace DeclaredType

/-- The name of a type, without the blanks around it. -/
def trimmedName (t : DeclaredType) : String := Text.trim t.name

def superclassIn (scope : Scope) (t : DeclaredType) : TypeIdentity :=
  match t.kind with
  | .interfaceType => .noType
  | .classType => scope.resolve (t.superclass.getD rootClass)

def superclassFault? (scope : Scope) (t : DeclaredType) : Option ProgramFault :=
  match t.kind with
  | .interfaceType => if t.superclass.isSome then some (.interfaceSuperclass t.trimmedName) else none
  | .classType =>
    match (t.superclassIn scope).element? with
    | some id => if scope.find? t.trimmedName = some id then some (.selfExtension t.trimmedName) else none
    | none => none

def element (scope : Scope) (t : DeclaredType) : TypeElement where
  name := t.trimmedName
  kind := t.kind
  superclass := t.superclassIn scope
  enclosing := scope.enclosing? t.trimmedName
  annotations := t.annotations.map DeclaredAnnotation.annotation

end DeclaredType

namespace DeclaredMethod

/-- The name of a method, without the blanks around it, or that of every constructor. -/
def elementName (m : DeclaredMethod) : String :=
  match m.kind with
  | .method => Text.trim m.name
  | .constructor => constructorName

def fault? (owner : String) (m : DeclaredMethod) : Option ProgramFault :=
  match m.kind with
  | .constructor => if m.isStatic then some (.staticConstructor owner) else none
  | .method => if m.elementName = "" then some (.unnamedMethod owner) else none

def returnIdentity (scope : Scope) (owner : ElementId) (m : DeclaredMethod) : TypeIdentity :=
  match m.kind with
  | .constructor => .declared owner
  | .method => scope.resolve m.returns

def element (scope : Scope) (owner : ElementId) (ownerName : String) (m : DeclaredMethod) : ExecutableElement where
  owner := owner
  ownerName := ownerName
  name := m.elementName
  kind := m.kind
  isStatic := m.isStatic
  returns := { identity := m.returnIdentity scope owner, qualifier := m.returnQualifier }
  annotations := m.annotations.map DeclaredAnnotation.annotation

end DeclaredMethod

namespace DeclaredType

def methodFault? (t : DeclaredType) : Option ProgramFault := t.methods.findSome? (·.fault? t.trimmedName)

/-- The elements of the methods of a type, where `id` is the number of the type. -/
def executables (scope : Scope) (id : ElementId) (t : DeclaredType) : List ExecutableElement :=
  t.methods.map (·.element scope id t.trimmedName)

end DeclaredType

namespace Source

/-- The names of the types, in order. -/
def scope (s : Source) : Scope := ⟨s.types.map DeclaredType.trimmedName⟩

/-- The first type without a name or with one that an earlier type has. -/
def nameFault? : List String → List String → Option ProgramFault
  | _, [] => none
  | earlier, name :: rest =>
    if name = "" then some .unnamedType
    else if name ∈ earlier then some (.duplicateType name)
    else nameFault? (name :: earlier) rest

/-- What is wrong with a source. The names of all types are looked at first, then their superclasses, then their
methods. -/
def fault? (s : Source) : Option ProgramFault :=
  let scope := s.scope
  (nameFault? [] scope.names).or
    ((s.types.findSome? (·.superclassFault? scope)).or (s.types.findSome? DeclaredType.methodFault?))

def program (s : Source) : Program :=
  let scope := s.scope
  { types := s.types.map (·.element scope)
    executables := s.types.zipIdx.flatMap fun (t, i) => t.executables scope ⟨i⟩ }

end Source

/-- The program that a source makes. -/
def Program.ofSource (s : Source) : Except Failure Program :=
  match s.fault? with
  | some fault => .error (.program fault)
  | none => .ok s.program

end FluentThis
