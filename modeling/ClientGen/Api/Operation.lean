import ClientGen.Api.Parameter

/-!
# Operations

An operation is a method on a path. Its parameters are records where the document has resolved
them, and mappings otherwise; body and responses are kept as the document has them.

## Main definitions

* `ClientGen.Method` : the methods.
* `ClientGen.Parameter` : a parameter of an operation.
* `ClientGen.Operation` : operations.
* `ClientGen.Operation.ofValue?` : the operation that a mapping shows.
-/

namespace ClientGen

/-- The methods of requests. -/
inductive Method where
  /-- Read. -/
  | get
  /-- Replace. -/
  | put
  /-- Submit. -/
  | post
  /-- Remove. -/
  | delete
  /-- Ask what is possible. -/
  | options
  /-- Read without the body. -/
  | head
  /-- Change. -/
  | patch
  /-- Send back. -/
  | trace
  deriving DecidableEq, Repr

namespace Method

/-- The word for a method. -/
def word : Method → String
  | get => "get"
  | put => "put"
  | post => "post"
  | delete => "delete"
  | options => "options"
  | head => "head"
  | patch => "patch"
  | trace => "trace"

/-- The method of a word. -/
def ofWord? : String → Option Method
  | "get" => some get
  | "put" => some put
  | "post" => some post
  | "delete" => some delete
  | "options" => some options
  | "head" => some head
  | "patch" => some patch
  | "trace" => some trace
  | _ => none

theorem ofWord?_word (m : Method) : ofWord? m.word = some m := by cases m <;> rfl

end Method

/-- A parameter of an operation. -/
inductive Parameter where
  /-- A resolved parameter of a primitive type. -/
  | primitive (p : PrimitiveParameter)
  /-- Any other parameter, as the document has it. -/
  | raw (fields : Fields)
  deriving DecidableEq

namespace Parameter

/-- The record of a resolved parameter. -/
def primitive? : Parameter → Option PrimitiveParameter
  | primitive p => some p
  | raw _ => none

/-- The parameter that a mapping shows: a record if it has all the fields of one. -/
def ofValue? (v : Value) : Option Parameter :=
  if v.isMapping then
    match PrimitiveParameter.ofNode? v with
    | some p => some (primitive p)
    | none => v.asFields?.map raw
  else none

end Parameter

/-- An operation. -/
structure Operation where
  /-- The method. -/
  method : Method
  /-- The path, with parameters in braces. -/
  path : String
  /-- The name of the operation. -/
  operationId : String
  /-- A sentence on what it does. -/
  summary : Option String := none
  /-- Its parameters. -/
  parameters : Option (List Parameter) := none
  /-- The body of its requests. -/
  requestBody : Option Fields := none
  /-- Its responses, by their status. -/
  responses : Option Fields := none
  deriving DecidableEq

namespace Operation

/-- Reads a value that may also be null. -/
def orNull {α : Type} (read : Value → Option α) : Value → Option (Option α)
  | .scalar .null => some none
  | v => (read v).map some

/-- Reads a field that may be left out or be null. -/
def optional {α : Type} (v : Option Value) (read : Value → Option α) : Option (Option α) :=
  PrimitiveParameter.fieldOr v none (orNull read)

/-- The parameters that a list shows. -/
def parametersOf? (v : Value) : Option (List Parameter) :=
  v.asList?.bind fun vs => vs.mapM Parameter.ofValue?

/-- The operation that a mapping shows. -/
def ofValue? (v : Value) : Option Operation := do
  if !v.isMapping then failure
  let method ← (← v.get? "method").asText?.bind Method.ofWord?
  let path ← (← v.get? "path").asText?
  let operationId ← (← v.field? "operationId" "operation_id").asText?
  let summary ← optional (v.get? "summary") Value.asText?
  let parameters ← optional (v.get? "parameters") parametersOf?
  let requestBody ← optional (v.field? "requestBody" "request_body") Value.asFields?
  let responses ← optional (v.get? "responses") Value.asFields?
  return { method, path, operationId, summary, parameters, requestBody, responses }

/-- The records of the resolved parameters. -/
def primitives (o : Operation) : List PrimitiveParameter :=
  (o.parameters.getD []).filterMap Parameter.primitive?

end Operation

end ClientGen
