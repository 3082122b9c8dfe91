import ClientGen.Failure
import ClientGen.Json.Reader
import ClientGen.Yaml.Reader

/-!
# Decoding documents

The text of a document is read as JSON, and if it is not JSON, as YAML.

## Main definitions

* `ClientGen.decode` : the value that the text of a document writes.
-/

namespace ClientGen

/-- The value that the text of a document writes. -/
def decode (text : String) : Except Problem Value :=
  match Json.read text with
  | .ok v => .ok v
  | .error .tooDeep => .error (.failure .tooDeepToDecode)
  | .error (.fault f) => .error (.fault f)
  | .error .malformed =>
    match Yaml.read text with
    | .ok v => .ok v
    | .error .tooDeep => .error (.failure .tooDeepToDecode)
    | .error (.fault f) => .error (.fault f)
    | .error .malformed => .error (.failure .undecodable)

end ClientGen
