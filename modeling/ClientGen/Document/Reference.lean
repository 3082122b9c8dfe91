import ClientGen.Api.Parameter

/-!
# References

A reference is a path into the document. Its last segment is the name of what it refers to, and a
segment on the way tells the kind.

## Main definitions

* `ClientGen.Reference.segments`, `ClientGen.Reference.name`, `ClientGen.Reference.kind` : the
  parts of a reference.
* `ClientGen.Node`, `ClientGen.Node.classify` : what the resolver does with a value.
-/

namespace ClientGen

namespace Reference

/-- The segments between slashes. -/
def segments (ref : String) : List (List Char) := ref.toList.splitOn '/'

/-- The last segment. -/
def name (ref : String) : String := String.ofList ((segments ref).getLastD [])

/-- The kind: `parameters` in the path counts before `schemas`. -/
def kind (ref : String) : ReferenceKind :=
  if (segments ref).contains "parameters".toList then .parameter
  else if (segments ref).contains "schemas".toList then .schema
  else .other

end Reference

/-- The kinds of values in a document. -/
inductive Node where
  /-- A mapping that refers to another place. -/
  | reference (ref : String)
  /-- A mapping that defines a parameter. -/
  | parameter
  /-- Any other mapping. -/
  | mapping
  /-- A sequence. -/
  | sequence
  /-- Anything else. -/
  | scalar
  deriving DecidableEq

namespace Node

/-- The kind of a value. A reference is one even if it looks like a parameter. -/
def classify (v : Value) : Node :=
  if v.isSequence then sequence
  else if v.isMapping then
    match (v.field "$ref").text? with
    | some r => reference r
    | none => if PrimitiveParameter.isDefinition v then parameter else mapping
  else scalar

end Node

end ClientGen
