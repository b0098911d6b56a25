import FluentThis.Json.Reading
import FluentThis.Program.Source
import FluentThis.Schema.Decoder
import FluentThis.Toml.Reading
/-!
Programs in documents. `Source.ofJson` and `Source.ofToml` read the same records; the two formats differ in how a
text becomes a tree.
-/

namespace FluentThis

namespace Qualifier

def decode (format : DocumentFormat) (n : Node) : Except Fault Qualifier :=
  Schema.variant format (all.map fun q => (q.name, q)) n

end Qualifier

namespace ExecutableKind

def decode (format : DocumentFormat) (n : Node) : Except Fault ExecutableKind :=
  Schema.variant format ([method, constructor].map fun k => (k.name, k)) n

end ExecutableKind

namespace TypeKind

def decode (format : DocumentFormat) (n : Node) : Except Fault TypeKind :=
  Schema.variant format ([classType, interfaceType].map fun k => (k.name, k)) n

end TypeKind

namespace DeclaredAnnotation

def valuesOf (key : String) (es : List (String × Node)) : List Node :=
  (es.filter (·.1 = key)).map (·.2)

/-- An annotation written as a table. A key other than its two is ignored. -/
def detailed? (es : List (String × Node)) : Option DeclaredAnnotation :=
  match valuesOf "name" es, valuesOf "resolved" es with
  | [.text name], [] => some (detailed name true)
  | [.text name], [.boolean resolved] => some (detailed name resolved)
  | _, _ => none

/-- An annotation in either of its forms. The whole value is read before its form is looked at. -/
def decode (n : Node) : Except Fault DeclaredAnnotation := do
  Schema.settled n
  match n with
  | .text name => return named name
  | .table es _ =>
    match detailed? es with
    | some a => return a
    | none => .error (.mismatch .noAnnotationForm)
  | _ => .error (.mismatch .noAnnotationForm)

end DeclaredAnnotation

namespace DeclaredMethod

/-- The keys of a method, in the order in which a list gives their values. -/
def fields : List String := ["name", "kind", "static", "returns", "return_qualifier", "annotations"]

def setField (format : DocumentFormat) (key : String) (n : Node) (m : DeclaredMethod) : Except Fault DeclaredMethod :=
  match key with
  | "name" => do return { m with name := ← Schema.text n }
  | "kind" => do return { m with kind := ← ExecutableKind.decode format n }
  | "static" => do return { m with isStatic := ← Schema.flag n }
  | "returns" => do return { m with returns := ← Schema.text n }
  | "return_qualifier" => do return { m with returnQualifier := ← Schema.optional (Qualifier.decode format) n }
  | _ => do return { m with annotations := ← Schema.list DeclaredAnnotation.decode n }

/-- A method. Every field may be left out. -/
def decode (format : DocumentFormat) (n : Node) : Except Fault DeclaredMethod :=
  Schema.record format "struct MethodDecl" fields (setField format) (fun _ m => .ok m) {} n

end DeclaredMethod

namespace DeclaredType

/-- The keys of a type, in the order in which a list gives their values. -/
def fields : List String := ["name", "kind", "superclass", "annotations", "methods"]

/-- Sets one field of a type; the truth value tells whether the name was set. -/
def setField (format : DocumentFormat) (key : String) (n : Node) (t : Bool × DeclaredType) :
    Except Fault (Bool × DeclaredType) :=
  match key with
  | "name" => do return (true, { t.2 with name := ← Schema.text n })
  | "kind" => do return (t.1, { t.2 with kind := ← TypeKind.decode format n })
  | "superclass" => do return (t.1, { t.2 with superclass := ← Schema.optional Schema.text n })
  | "annotations" => do return (t.1, { t.2 with annotations := ← Schema.list DeclaredAnnotation.decode n })
  | _ => do return (t.1, { t.2 with methods := ← Schema.list (DeclaredMethod.decode format) n })

/-- A type has to have a name. -/
def finish (byPosition : Bool) (t : Bool × DeclaredType) : Except Fault DeclaredType :=
  if t.1 then .ok t.2
  else if byPosition then .error (.mismatch (.invalidLength 0 "struct TypeDecl with 5 elements"))
  else .error (.mismatch (.missingField "name"))

/-- A type. Every field but the name may be left out. -/
def decode (format : DocumentFormat) (n : Node) : Except Fault DeclaredType :=
  Schema.record format "struct TypeDecl" fields (setField format) finish (false, { name := "" }) n

end DeclaredType

namespace Source

def setField (format : DocumentFormat) (_ : String) (n : Node) (_ : Source) : Except Fault Source := do
  return { types := ← Schema.list (DeclaredType.decode format) n }

def decode (format : DocumentFormat) (n : Node) : Except Fault Source :=
  Schema.record format "struct ProgramSource" ["types"] (setField format) (fun _ s => .ok s) {} n

/-- The program that a reading of a JSON text gives; nothing may follow it. -/
def ofReading (r : Json.Reading) : Except Fault Source := do
  let source ← decode .json r.root
  if r.trailing then .error .malformed else return source

def ofJson (s : String) : Except Fault Source := ofReading (Json.read s)

def ofToml (s : String) : Except Fault Source :=
  match Toml.read s with
  | some n => decode .toml n
  | none => .error .malformed

end Source

end FluentThis
