import FluentThis.Config.Settings
import FluentThis.Schema.Decoder
import FluentThis.Toml.Reading
/-!
Settings and configurations in documents.
-/

namespace FluentThis

namespace Settings

def fields : List String := ["disable_framework_support"]

def setField (_ : String) (n : Node) (_ : Settings) : Except Fault Settings := do
  return ⟨← Schema.optional Schema.text n⟩

def decode (format : DocumentFormat) (n : Node) : Except Fault Settings :=
  Schema.record format "struct CheckerOptions" fields setField (fun _ s => .ok s) {} n

/-- The settings that a host passes on: a table of texts, of which the last one with a key counts. -/
def decodeOptions : Node → Except Fault Settings
  | .table es ending => do
    let options ← es.mapM fun (k, n) => do return (k, ← Schema.text n)
    Schema.ended ending
    return ofOptions options.reverse
  | n => .error (Schema.reject n "a map")

end Settings

namespace Config

def setField (format : DocumentFormat) (_ : String) (n : Node) (_ : Config) : Except Fault Config := do
  return ⟨← Settings.decode format n⟩

def decode (format : DocumentFormat) (n : Node) : Except Fault Config :=
  Schema.record format "struct ReturnsReceiverConfig" ["checker"] (setField format) (fun _ c => .ok c) {} n

def ofToml (s : String) : Except Fault Config :=
  match Toml.read s with
  | some n => decode .toml n
  | none => .error .malformed

end Config

end FluentThis
