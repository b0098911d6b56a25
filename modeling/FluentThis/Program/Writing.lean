import FluentThis.Json.Writing
import FluentThis.Program.Source
/-!
Programs written down. Every field is written, in the order of its declaration, except a superclass and a qualifier
that are not there; those have no entry at all.
-/

namespace FluentThis

namespace DeclaredAnnotation

/-- An annotation as a text, or as a table that tells whether it is resolved. -/
def document : DeclaredAnnotation → Document
  | named name => .text name
  | detailed name resolved => .table [("name", .text name), ("resolved", .boolean resolved)]

end DeclaredAnnotation

namespace DeclaredMethod

def entries (m : DeclaredMethod) : List (String × Document) :=
  [("name", .text m.name), ("kind", .text m.kind.name), ("static", .boolean m.isStatic),
    ("returns", .text m.returns)] ++
    (m.returnQualifier.map fun q => ("return_qualifier", Document.text q.name)).toList ++
    [("annotations", .list (m.annotations.map DeclaredAnnotation.document))]

def document (m : DeclaredMethod) : Document := .table m.entries

end DeclaredMethod

namespace DeclaredType

def entries (t : DeclaredType) : List (String × Document) :=
  [("name", .text t.name), ("kind", .text t.kind.name)] ++
    (t.superclass.map fun s => ("superclass", Document.text s)).toList ++
    [("annotations", .list (t.annotations.map DeclaredAnnotation.document)),
      ("methods", .list (t.methods.map DeclaredMethod.document))]

def document (t : DeclaredType) : Document := .table t.entries

end DeclaredType

namespace Source

def document (s : Source) : Document := .table [("types", .list (s.types.map DeclaredType.document))]

def json (s : Source) : String := Json.render .compact s.document

end Source

end FluentThis
