import ClientGen.Value.Display
import ClientGen.Value.Fields

/-!
# Parameters of operations

A parameter whose schema is a string or an integer is described by a record of its own. In a
resolved document the record stands as a mapping in the place of the parameter, and is read back
from there when operations are collected.

## Main definitions

* `ClientGen.ReferenceKind`, `ClientGen.ParameterLocation` : closed sets of words.
* `ClientGen.PrimitiveParameter` : the record.
* `ClientGen.PrimitiveParameter.describe?` : the record of a parameter's definition.
* `ClientGen.PrimitiveParameter.node`, `ClientGen.PrimitiveParameter.ofNode?` : the record as a
  mapping.
-/

namespace ClientGen

/-- What a reference names. -/
inductive ReferenceKind where
  /-- A parameter. -/
  | parameter
  /-- A schema. -/
  | schema
  /-- Anything else. -/
  | other
  deriving DecidableEq, Repr

namespace ReferenceKind

/-- The word for a kind. -/
def word : ReferenceKind → String
  | parameter => "parameter"
  | schema => "schema"
  | other => "other"

/-- The kind of a word. -/
def ofWord? : String → Option ReferenceKind
  | "parameter" => some parameter
  | "schema" => some schema
  | "other" => some other
  | _ => none

theorem ofWord?_word (k : ReferenceKind) : ofWord? k.word = some k := by cases k <;> rfl

end ReferenceKind

/-- The parts of a request that a generated function fills from its arguments. -/
inductive ParameterLocation where
  /-- The query of the address. -/
  | query
  /-- A header. -/
  | header
  /-- The path of the address. -/
  | path
  deriving DecidableEq, Repr

namespace ParameterLocation

/-- The word for a location. -/
def word : ParameterLocation → String
  | query => "query"
  | header => "header"
  | path => "path"

/-- The location of a word. -/
def ofWord? : String → Option ParameterLocation
  | "query" => some query
  | "header" => some header
  | "path" => some path
  | _ => none

theorem ofWord?_word (l : ParameterLocation) : ofWord? l.word = some l := by cases l <;> rfl

end ParameterLocation

/-- A parameter whose schema is a string or an integer. -/
structure PrimitiveParameter where
  /-- The name under which the document has the definition, if it is used by reference. -/
  modelName : Option String
  /-- What the reference names. -/
  refType : ReferenceKind := .parameter
  /-- The definition is used by reference. -/
  isReference : Bool
  /-- The name of the parameter in requests. -/
  name : String
  /-- The part of the request. -/
  location : ParameterLocation
  /-- The parameter has to be given. -/
  required : Bool := false
  /-- The type of the schema. -/
  primitiveType : String
  /-- The format of the schema. -/
  format : Option String := none
  deriving DecidableEq

namespace PrimitiveParameter

/-- The types of schemas that such a parameter can have. -/
def types : List String := ["string", "integer"]

/-- A mapping with a filled location, name and schema defines a parameter. -/
def isDefinition (v : Value) : Bool :=
  (v.field "in").isFilled && (v.field "name").isFilled && (v.field "schema").isFilled

/-- The record of a parameter's definition; none for other values, other types and other
locations. The type has to be a value that can be looked up in a set. -/
def describe? (definition : Value) (modelName : Option String) :
    Except Fault (Option PrimitiveParameter) :=
  let schema := definition.field "schema"
  if !isDefinition definition || !schema.isMapping then .ok none
  else if !(schema.field "type").isMember then .error .containerAsMember
  else
    let location? := (definition.field "in").text?.bind ParameterLocation.ofWord?
    match (schema.field "type").text?, location? with
    | some t, some location =>
      if types.contains t then do
        let name ← (definition.field "name").shown
        return some {
          modelName, isReference := modelName.isSome, name, location,
          required := (definition.field "required").isFilled, primitiveType := t,
          format := (schema.field "format").text? }
      else .ok none
    | _, _ => .ok none

/-- A text, or null. -/
def optionalText : Option String → Value
  | some s => .text s
  | none => .null

/-- The record as a mapping. -/
def node (p : PrimitiveParameter) : Value :=
  .ofFields
    [("modelName", optionalText p.modelName), ("refType", .text p.refType.word),
      ("isReference", .bool p.isReference), ("name", .text p.name),
      ("location", .text p.location.word), ("required", .bool p.required),
      ("primitiveType", .text p.primitiveType), ("format", optionalText p.format)]

/-- Reads a field that may be left out, and then has a default. -/
def fieldOr {α : Type} (v : Option Value) (default : α) (read : Value → Option α) : Option α :=
  match v with
  | some v => read v
  | none => some default

/-- Reads a text or null. -/
def textOrNull? : Value → Option (Option String)
  | .scalar .null => some none
  | v => v.asText?.map some

/-- The record that a mapping shows. The fields may also have the names of the record's parts. -/
def ofNode? (v : Value) : Option PrimitiveParameter := do
  let modelName ← textOrNull? (← v.field? "modelName" "model_name")
  let refType ← fieldOr (v.field? "refType" "ref_type") .parameter
    fun w => w.asText?.bind ReferenceKind.ofWord?
  let isReference ← (← v.field? "isReference" "is_reference").asBool?
  let name ← (← v.get? "name").asText?
  let location ← (← v.get? "location").asText?.bind ParameterLocation.ofWord?
  let required ← fieldOr (v.get? "required") false Value.asBool?
  let primitiveType ← (← v.field? "primitiveType" "primitive_type").asText?
  let format ← fieldOr (v.get? "format") none textOrNull?
  return { modelName, refType, isReference, name, location, required, primitiveType, format }

end PrimitiveParameter

end ClientGen
