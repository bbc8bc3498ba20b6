/-
Reading a YAML text as a single document: a stream without documents reads as the lone empty
event, and a stream that cannot be scanned or parsed, or that holds more than one document, is
refused.
-/
import Stencil.Yaml.Parse
namespace Stencil.Yaml

/-- The single document of a YAML text. -/
def load (text : String) : Except String Document := do
  match ← documents text with
  | [] => pure Document.empty
  | [d] => pure d
  | _ => throw "deserializing from YAML containing more than one document is not supported"

end Stencil.Yaml
