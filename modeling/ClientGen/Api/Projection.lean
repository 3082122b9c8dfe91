import ClientGen.Api.Client
import ClientGen.Document.Basic
import ClientGen.Failure
import ClientGen.Text.Replace

/-!
# Collecting operations into controllers

Every operation of a document belongs to the controller that its first tag names, or to a default
one. An operation without a name, or with a name that has the mark of internal operations in it,
is left out; its controller is there all the same. Controllers and their operations keep the order
of the document.

## Main definitions

* `ClientGen.Projection` : the default controller and the mark.
* `ClientGen.Projection.client` : the client of a document.
-/

namespace ClientGen

/-- How operations are collected. -/
structure Projection where
  /-- The controller of operations without a tag. -/
  defaultController : String := "DefaultController"
  /-- The mark of internal operations. -/
  internalMarker : String := "Controller_"

/-- A method of a path in a document, with the mapping that describes it. -/
structure Endpoint where
  /-- The path. -/
  path : String
  /-- The method. -/
  method : Method
  /-- The mapping. -/
  operation : Value

namespace Endpoint

/-- The endpoints below a path: the entries under methods that are mappings. -/
def ofPathItem (path : String) (item : Value) : List Endpoint :=
  (item.entries?.getD []).filterMap fun e =>
    match e.1 with
    | .text m =>
      (Method.ofWord? m).bind fun method =>
        if e.2.isMapping then some { path, method, operation := e.2 } else none
    | _ => none

/-- The endpoints of a document, in its order. -/
def ofDocument (d : Document) : List Endpoint :=
  d.paths.flatMap fun e => ofPathItem e.1 e.2

/-- The text of the first tag; empty if there is none. -/
def firstTag (e : Endpoint) : Except Fault String :=
  match (e.operation.field "tags").items? with
  | some (t :: _) => if t.isFilled then t.shown else .ok ""
  | _ => .ok ""

/-- The name of the operation, if it has one. -/
def operationId? (e : Endpoint) : Option String :=
  match (e.operation.field "operationId").text? with
  | some s => if s.isEmpty then none else some s
  | none => none

/-- The field, if it counts as present. -/
def filled? (e : Endpoint) (key : String) : Option Value :=
  let v := e.operation.field key
  if v.isFilled then some v else none

/-- The summary as text. -/
def summary (e : Endpoint) : Except Fault (Option String) :=
  match e.filled? "summary" with
  | none => .ok none
  | some v => v.shown.map some

/-- The responses with their status as text. -/
def responses (e : Endpoint) : Except Fault (Option Fields) :=
  match (e.filled? "responses").bind Value.entries? with
  | none => .ok none
  | some es => do
    return some (Table.ofEntries (← es.mapM fun e => return (← (Value.scalar e.1).shown, e.2)))

/-- The parameters: of a list, the items that are mappings. -/
def parameters (e : Endpoint) : Except Fault (Option (List Parameter)) :=
  match (e.filled? "parameters").bind Value.items? with
  | none => .ok none
  | some vs => need ((vs.filter Value.isMapping).mapM Parameter.ofValue?) |>.map some

/-- The body: a mapping, whose keys have to be texts. -/
def requestBody (e : Endpoint) : Except Fault (Option Fields) :=
  match (e.filled? "requestBody").filter Value.isMapping with
  | none => .ok none
  | some v => (need v.asFields?).map some

/-- The operation of that name. -/
def toOperation (e : Endpoint) (operationId : String) : Except Fault Operation := do
  let summary ← e.summary
  let responses ← e.responses
  let parameters ← e.parameters
  let requestBody ← e.requestBody
  return {
    method := e.method, path := e.path, operationId, summary, parameters, requestBody, responses }

end Endpoint

namespace Projection

/-- The controller of an endpoint. -/
def controllerOf (p : Projection) (e : Endpoint) : Except Fault String := do
  let tag ← e.firstTag
  return if tag.isEmpty then p.defaultController else tag

/-- The name is that of an internal operation. -/
def isInternal (p : Projection) (operationId : String) : Bool :=
  !p.internalMarker.isEmpty && Text.holds p.internalMarker.toList operationId.toList

/-- The operations that an endpoint adds to its controller: one or none. -/
def operationsOf (p : Projection) (e : Endpoint) : Except Fault (List Operation) :=
  match e.operationId? with
  | none => .ok []
  | some id => if p.isInternal id then .ok [] else (e.toOperation id).map ([·])

/-- Adds operations to a controller, which is there afterwards. -/
def add (controller : String) (ops : List Operation) :
    Table String (List Operation) → Table String (List Operation)
  | [] => [(controller, ops)]
  | e :: t => if e.1 = controller then (e.1, e.2 ++ ops) :: t else e :: add controller ops t

/-- The controllers of endpoints. -/
def controllers (p : Projection) (es : List Endpoint) :
    Except Fault (Table String (List Operation)) :=
  es.foldlM (fun t e => do return add (← p.controllerOf e) (← p.operationsOf e) t) []

/-- The text of a value; empty for null. -/
def textOf : Value → Except Fault String
  | .scalar .null => .ok ""
  | v => v.shown

/-- The address of the first server. -/
def baseUrl (d : Document) : Except Fault String :=
  match d.servers with
  | [] => .ok ""
  | s :: _ => (((s.get? "url").getD .null).orElse (.text "")).shown

/-- What the document says of itself under a key. -/
def info (d : Document) (key : String) : Except Fault String :=
  textOf ((d.info.get? key).getD .null)

/-- The client of a document. -/
def client (p : Projection) (d : Document) : Except Fault Client := do
  let controllers ← p.controllers (Endpoint.ofDocument d)
  let baseUrl ← baseUrl d
  let name ← info d "title"
  let description ← info d "description"
  let version ← info d "version"
  return { controllers, components := d.components, baseUrl, name, description, version }

end Projection

end ClientGen
