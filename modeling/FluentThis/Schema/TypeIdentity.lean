import FluentThis.Schema.Decoder
import FluentThis.Signature
/-!
Identities of types in JSON documents: a text for one that has no parts, and a table with one key for the others.
-/

namespace FluentThis

namespace ElementId

/-- The number of an element, which has 32 bits. -/
def decode : Node → Except Fault ElementId
  | .integer i =>
    if fitsUnsigned 32 i then .ok ⟨i.toNat⟩ else .error (.mismatch (.invalidValue (.integer i) "u32"))
  | n => .error (Schema.reject n "u32")

end ElementId

namespace TypeIdentity

def forms : List String := ["None", "Void", "Primitive", "Array", "Declared", "External"]

/-- A form that has no parts. A form that has some needs a table. -/
def bare (name : String) : Except Fault TypeIdentity :=
  match name with
  | "None" => .ok .noType
  | "Void" => .ok .void
  | _ =>
    if name ∈ forms then .error (.mismatch (.variantContent "invalid type: unit variant, expected newtype variant"))
    else .error (.mismatch (.unknownVariant name forms))

def decode : Node → Except Fault TypeIdentity
  | .text name => bare name
  | .table ((form, n) :: rest) ending => do
    let t ← match form with
      | "Primitive" => (Schema.text n).map primitive
      | "Array" => (decode n).map array
      | "Declared" => (ElementId.decode n).map declared
      | "External" => (Schema.text n).map external
      | form => (bare form).bind fun t => (Schema.unit .json n).map fun () => t
    if rest.isEmpty then Schema.ended ending else .error .malformed
    return t
  | _ => .error .malformed

end TypeIdentity

end FluentThis
