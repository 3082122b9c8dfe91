import ClientGen.Api.Operation

/-!
# Clients

A client is what is generated from a document: controllers with their operations, and the named
schemas.

## Main definitions

* `ClientGen.Client` : clients.
* `ClientGen.Client.emittable` : the controllers that have operations.
* `ClientGen.Client.ofValue?` : the client that a mapping shows.
-/

namespace ClientGen

/-- A client. -/
structure Client where
  /-- The operations of every controller. -/
  controllers : Table String (List Operation) := []
  /-- The named schemas, parameters and responses. -/
  components : Fields := []
  /-- The address that paths are appended to. -/
  baseUrl : String := ""
  /-- The title of the interface. -/
  name : String := ""
  /-- The description of the interface. -/
  description : String := ""
  /-- The version of the interface. -/
  version : String := ""
  deriving DecidableEq

namespace Client

/-- The controllers that have operations. -/
def emittable (c : Client) : Table String (List Operation) :=
  c.controllers.filter fun e => !e.2.isEmpty

/-- The controllers that a mapping of lists shows. -/
def controllersOf? (v : Value) : Option (Table String (List Operation)) := do
  let es ← v.entries?
  let es ← es.mapM fun e => do
    let name ← e.1.asText?
    let ops ← (← e.2.asList?).mapM Operation.ofValue?
    return (name, ops)
  return Table.ofEntries es

/-- The client that a mapping shows. -/
def ofValue? (v : Value) : Option Client := do
  if !v.isMapping then failure
  let controllers ← PrimitiveParameter.fieldOr (v.get? "controllers") [] controllersOf?
  let components ← PrimitiveParameter.fieldOr (v.get? "components") [] Value.asFields?
  let baseUrl ← PrimitiveParameter.fieldOr (v.field? "baseUrl" "base_url") "" Value.asText?
  let name ← PrimitiveParameter.fieldOr (v.get? "name") "" Value.asText?
  let description ← PrimitiveParameter.fieldOr (v.get? "description") "" Value.asText?
  let version ← PrimitiveParameter.fieldOr (v.get? "version") "" Value.asText?
  return { controllers, components, baseUrl, name, description, version }

end Client

end ClientGen
