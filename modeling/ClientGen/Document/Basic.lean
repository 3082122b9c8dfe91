import ClientGen.Value.Fields

/-!
# Canonical documents

A description of an interface in its canonical form has the field names of OpenAPI 3, whatever
version it was written for.

## Main definitions

* `ClientGen.Document` : a document in its canonical form.
* `ClientGen.Document.tree`, `ClientGen.Document.ofTree?` : the document as a value.
-/

namespace ClientGen

/-- A document in its canonical form. -/
structure Document where
  /-- The version of the notation. -/
  openapi : String
  /-- Title, version and description of the interface. -/
  info : Fields := []
  /-- Where the interface is served. -/
  servers : List Fields := []
  /-- The paths, with an operation for every method. -/
  paths : Fields := []
  /-- The named schemas, parameters and responses. -/
  components : Fields := []
  /-- The tags with their descriptions. -/
  tags : List Value := []
  deriving DecidableEq

namespace Document

/-- The document as a value. -/
def tree (d : Document) : Value :=
  .ofFields
    [("openapi", .text d.openapi), ("info", .ofFields d.info),
      ("servers", .sequence (d.servers.map Value.ofFields)), ("paths", .ofFields d.paths),
      ("components", .ofFields d.components), ("tags", .sequence d.tags)]

/-- The document that a value with all its fields shows. -/
def ofTree? (v : Value) : Option Document := do
  let openapi ← (← v.get? "openapi").asText?
  let info ← (← v.get? "info").asFields?
  let servers ← (← (← v.get? "servers").asList?).mapM Value.asFields?
  let paths ← (← v.get? "paths").asFields?
  let components ← (← v.get? "components").asFields?
  let tags ← (← v.get? "tags").asList?
  return { openapi, info, servers, paths, components, tags }

end Document

end ClientGen
