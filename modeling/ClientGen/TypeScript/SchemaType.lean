import ClientGen.Api.Schema
import ClientGen.Text.Alphabetical
import ClientGen.TypeScript.TypeExpr
import ClientGen.Value.Elements

/-!
# Types of schemas

A handle becomes the name of its declaration, an array a list, an enumeration a choice of
literals, a schema with properties an object, and a schema with additional properties an object
with any keys. A schema that says nothing of the kind may be anything.

## Main definitions

* `ClientGen.TypeScript.schemaType` : the type of a schema.
* `ClientGen.TypeScript.referencedModels` : the declarations that a part of a document refers to.
* `ClientGen.TypeScript.jsonSchema` : the schema of a body or a response.
* `ClientGen.TypeScript.resultType` : the type of what an operation answers.
-/

namespace ClientGen.TypeScript

/-- The type that a handle stands for. Only handles of schemas have declarations. -/
def handleType : SchemaHandle → TypeExpr
  | .arrayOf items => .array (handleType items)
  | .named (some name) .schema _ => if name.isEmpty then .any else .model (typeName name)
  | .named .. => .any

/-- The type that a schema declares. Of several, the first other than null counts. -/
def declaredType (schema : Value) : Value :=
  match (schema.field "type").items? with
  | some ts => ((ts.filter (· ≠ .text "null")).head?).getD .null
  | none => schema.field "type"

/-- The names that a schema requires. -/
def requiredNames (schema : Value) : Except Fault (List Scalar) :=
  (schema.field "required").scalarSet

/-- The name is among the required ones. -/
def isRequired (required : List Scalar) (name : Scalar) : Bool :=
  required.any (Scalar.sameKey · name)

/-- A property's name as a key of an object. -/
def keyOf : Scalar → Except Fault String
  | .text s => .ok s
  | _ => .error .textExpected

mutual

/-- The type of a schema, with at most `depth` calls inside each other. -/
def typeWithin (depth : Nat) (schema : Value) : Except Fault TypeExpr :=
  match depth with
  | 0 => .error .depthExceeded
  | depth + 1 => do
    if !schema.isMapping then return .any
    if let some handle ← SchemaHandle.ofNodeWithin (depth + 1) schema then return handleType handle
    if let some (x :: xs) := (schema.field "enum").items? then
      return .literals (← (x :: xs).mapM Literal.ofValue)
    let declared := declaredType schema
    if declared = .text "array" then return .array (← typeWithin depth (schema.field "items"))
    if !declared.isMember then throw .containerAsMember
    if let some t := declared.text?.bind TypeExpr.ofPrimitive? then return t
    if let some (e :: es) := (schema.field "properties").entries? then
      let required ← requiredNames schema
      let members ← (e :: es).mapM fun e => do
        let name ← keyOf e.1
        return (name, isRequired required e.1, ← memberWithin depth e.2)
      return .object members
    let additional := schema.field "additionalProperties"
    if additional.isMapping then return .record (← typeWithin depth additional)
    if declared = .text "object" ∨ additional = .bool true then return .record .any
    return .any

/-- The type of a property, which takes a call for the properties and another one for its type. -/
def memberWithin (depth : Nat) (schema : Value) : Except Fault TypeExpr :=
  match depth with
  | 0 => .error .depthExceeded
  | depth + 1 => typeWithin depth schema

end

/-- The type of a schema. -/
def schemaType (schema : Value) : Except Fault TypeExpr := typeWithin callLimit schema

/-- The declaration that a handle in a document refers to. -/
def ownModel (v : Value) : List String :=
  if v.field "refType" = .text "schema" then
    ((v.field "modelName").text?.map typeName).toList
  else []

/-- The declarations that the parts of a value refer to, looking at most `depth` values
deep, with one call for each. -/
def modelsWithin (depth : Nat) (v : Value) : Except Fault (List String) :=
  match depth with
  | 0 => .error .depthExceeded
  | depth + 1 =>
    match v.opened with
    | .mapping es => do
      let inner ← es.mapM fun e => modelsWithin depth e.2
      return ownModel v ++ inner.flatten
    | .sequence xs => do
      let inner ← xs.mapM (modelsWithin depth)
      return inner.flatten
    | _ => .ok []

/-- The declarations that a part of a document refers to, in alphabetical order. -/
def referencedModels (v : Value) : Except Fault (List String) := do
  return Text.alphabetical (← modelsWithin callLimit v)

/-- The schema of a body or a response in JSON; null if there is none. -/
def jsonSchema (container : Value) : Value :=
  ((container.field "content").field "application/json").field "schema"

/-- The statuses of success, the strongest first. -/
def successStatuses : List String := ["default", "200", "201"]

/-- The response of success, if there is one that counts as present. -/
def successResponse (responses : Value) : Option Value :=
  successStatuses.findSome? fun s => (responses.get? s).filter Value.isFilled

/-- The type of what an operation answers. -/
def resultType (responses : Value) : Except Fault TypeExpr :=
  if responses.isFilled && !responses.isMapping then .error .mappingExpected
  else match successResponse responses with
    | none => .ok .unknown
    | some response =>
      let schema := jsonSchema response
      if schema = .null then .ok .void else schemaType schema

end ClientGen.TypeScript
