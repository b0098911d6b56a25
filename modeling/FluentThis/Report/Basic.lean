import FluentThis.SignatureStore
/-!
The result of a check: one entry for each executable of the program, in the order of the host.
-/

namespace FluentThis

/-- What is inferred about one executable, in names. -/
structure Entry where
  owner : String
  name : String
  kind : ExecutableKind
  returnType : Option String
  returnQualifier : Option Qualifier
  receiverQualifier : Option Qualifier
  generator : Option Generator
  deriving DecidableEq, Repr

namespace Entry

/-- Whether the executable returns `@This`. -/
def returnsThis (e : Entry) : Bool := e.returnQualifier == some .receiver

/-- The entry of a signature and of the generator that recognized it. -/
def ofSignature (h : Host) (s : Signature) (g : Option Generator) : Entry where
  owner := h.qualifiedName s.enclosing
  name := s.name
  kind := s.kind
  returnType := s.returns.map (·.identity.display h.qualifiedName)
  returnQualifier := s.returnQualifier
  receiverQualifier := s.receiverQualifier
  generator := g

end Entry

structure Report where
  entries : List Entry
  deriving DecidableEq, Repr

namespace Report

/-- The entries of several executables, in order, and the store that results; the first that fails ends it. -/
def gather (gs : GeneratorSet) (h : Host) : List ElementId → SignatureStore →
    Except Failure (List Entry) × SignatureStore
  | [], t => (.ok [], t)
  | id :: ids, t =>
    match t.signature gs h id with
    | (.error e, t) => (.error e, t)
    | (.ok s, t) =>
      let entry := Entry.ofSignature h s (t.recognizer? id)
      match gather gs h ids t with
      | (.error e, t) => (.error e, t)
      | (.ok es, t) => (.ok (entry :: es), t)

/-- The report on a program. -/
def ofHost (gs : GeneratorSet) (h : Host) : Except Failure Report :=
  (gather gs h h.executables .empty).1.map Report.mk

/-- The number of executables that return `@This`. -/
def returningThis (r : Report) : Nat := r.entries.countP (·.returnsThis)

def find? (r : Report) (owner name : String) : Option Entry :=
  r.entries.find? fun e => e.owner == owner && e.name == name

end Report

end FluentThis
