import ClientGen.ReadError

/-!
# YAML tokens

The text of a YAML document is cut into tokens. Block structure, which the text shows by
indentation, becomes tokens that open and close collections. A text with an error in it has the
tokens before the error and then a token that holds it.

## Main definitions

* `ClientGen.Yaml.Directive` : what stands on a line with a percent sign.
* `ClientGen.Yaml.Token` : the tokens.
-/

namespace ClientGen.Yaml

/-- What stands on a line with a percent sign. -/
inductive Directive where
  /-- The version of the notation. -/
  | version (major minor : Nat)
  /-- What a tag handle is short for. -/
  | tag (handle meaning : String)
  /-- Any other line; it says nothing. -/
  | other
  deriving DecidableEq

/-- The tokens. -/
inductive Token where
  /-- The end of the text. -/
  | streamEnd
  /-- A directive. -/
  | directive (d : Directive)
  /-- Three hyphens. -/
  | documentStart
  /-- Three points. -/
  | documentEnd
  /-- The first item of a block sequence follows. -/
  | blockSequenceStart
  /-- The first key of a block mapping follows. -/
  | blockMappingStart
  /-- The innermost block collection ends. -/
  | blockEnd
  /-- An opening bracket. -/
  | flowSequenceStart
  /-- A closing bracket. -/
  | flowSequenceEnd
  /-- An opening brace. -/
  | flowMappingStart
  /-- A closing brace. -/
  | flowMappingEnd
  /-- The hyphen before an item. -/
  | blockEntry
  /-- A comma. -/
  | flowEntry
  /-- A key follows. -/
  | key
  /-- A value follows. -/
  | value
  /-- The node of that name once more. -/
  | alias (name : String)
  /-- The name of the node that follows. -/
  | anchor (name : String)
  /-- The tag of the node that follows: a handle, if it has one, and the rest. -/
  | tag (handle : Option String) (suffix : String)
  /-- A scalar; a plain one stands without quotes and is no block. -/
  | scalar (text : String) (plain : Bool)
  /-- The text goes wrong here. -/
  | bad (e : ReadError)
  deriving DecidableEq

end ClientGen.Yaml
