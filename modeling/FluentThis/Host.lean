import FluentThis.Failure
import FluentThis.Signature
/-!
What inference asks about a program. Any holder of a program can answer; the answers are functions of the question.
-/

namespace FluentThis

/-- A program as its holder presents it: the elements, how they are connected, and the signatures that are declared. -/
structure Host where
  kind : ElementId → ElementKind
  simpleName : ElementId → String
  qualifiedName : ElementId → String
  enclosing : ElementId → Option ElementId
  superclass : ElementId → TypeIdentity
  annotations : ElementId → List Annotation
  executables : List ElementId
  signature : ElementId → Except Failure Signature

namespace Host

/-- Whether an element carries an annotation of the given name, resolved or not. -/
def carries (h : Host) (id : ElementId) (name : String) : Bool := (h.annotations id).any (·.name == name)

/-- Whether an element carries a resolved annotation of the given name. -/
def carriesResolved (h : Host) (id : ElementId) (name : String) : Bool :=
  (h.annotations id).any fun a => a.resolved && a.name == name

def mention (h : Host) (s : Signature) : String := s.mention h.qualifiedName

end Host

end FluentThis
