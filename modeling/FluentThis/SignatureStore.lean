import FluentThis.Inference
/-!
A store of inferred signatures. It asks the host for each signature once, infers it, and keeps the result; one that
fails is not kept, so it is asked for again.
-/

namespace FluentThis

/-- What has been asked for and inferred so far: the signatures, the generators that recognized some of them, and
every request to the host, latest first. -/
structure SignatureStore where
  known : List (ElementId × Signature) := []
  recognized : List (ElementId × Generator) := []
  requests : List ElementId := []
  deriving Repr

namespace SignatureStore

def empty : SignatureStore := {}

/-- Asks the host for a signature, infers it and keeps it. -/
def request (gs : GeneratorSet) (h : Host) (id : ElementId) (t : SignatureStore) :
    Except Failure Signature × SignatureStore :=
  let t := { t with requests := id :: t.requests }
  match h.signature id with
  | .error e => (.error e, t)
  | .ok declared =>
    match declared.infer gs h with
    | (.error e, _) => (.error e, t)
    | (.ok none, s) => (.ok s, { t with known := (id, s) :: t.known })
    | (.ok (some g), s) => (.ok s, { t with known := (id, s) :: t.known, recognized := (id, g) :: t.recognized })

def signature (gs : GeneratorSet) (h : Host) (id : ElementId) (t : SignatureStore) :
    Except Failure Signature × SignatureStore :=
  match t.known.lookup id with
  | some s => (.ok s, t)
  | none => t.request gs h id

/-- The inferred signatures of several elements, in order; the first that fails ends it. -/
def signatures (gs : GeneratorSet) (h : Host) : List ElementId → SignatureStore →
    Except Failure (List Signature) × SignatureStore
  | [], t => (.ok [], t)
  | id :: ids, t =>
    match t.signature gs h id with
    | (.error e, t) => (.error e, t)
    | (.ok s, t) =>
      match signatures gs h ids t with
      | (.error e, t) => (.error e, t)
      | (.ok ss, t) => (.ok (s :: ss), t)

def allSignatures (gs : GeneratorSet) (h : Host) (t : SignatureStore) :
    Except Failure (List Signature) × SignatureStore :=
  t.signatures gs h h.executables

def recognizer? (t : SignatureStore) (id : ElementId) : Option Generator := t.recognized.lookup id

def size (t : SignatureStore) : Nat := t.known.length

/-- What is known is not asked for again. -/
theorem signature_known {gs : GeneratorSet} {h : Host} {id : ElementId} {t : SignatureStore} {s : Signature}
    (hs : t.known.lookup id = some s) : t.signature gs h id = (.ok s, t) := by
  simp [signature, hs]

/-- What is not known is asked for. -/
theorem signature_fresh {gs : GeneratorSet} {h : Host} {id : ElementId} {t : SignatureStore}
    (hs : t.known.lookup id = none) : t.signature gs h id = t.request gs h id := by
  simp [signature, hs]

end SignatureStore

end FluentThis
