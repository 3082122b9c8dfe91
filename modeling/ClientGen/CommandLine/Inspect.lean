import ClientGen.CommandLine.Command
import ClientGen.Console.Basic
import ClientGen.Package.Models
import ClientGen.Settings.Layers
import ClientGen.Source.Client

/-!
# Showing documents

## Main definitions

* `ClientGen.Inspection` : a document with its client.
* `ClientGen.Inspection.operationRows`, `ClientGen.Inspection.summary`,
  `ClientGen.Inspection.modelRows` : what is shown of it.
* `ClientGen.Inspection.present` : showing a view.
-/

namespace ClientGen

/-- A document with its client. -/
structure Inspection where
  /-- The document in its canonical form. -/
  document : Document
  /-- Its client. -/
  client : Client

namespace Inspection

/-- The document that a locator leads to, with its client. -/
def load (source : String) (format : Option OutputFormat) : Action Inspection := do
  let settings ← resolveSettings { format := format.map OutputFormat.word }
  let document ← loadDocument source settings.fetch
  let client ← Action.ofExcept (clientOf settings.projection document)
  return { document, client }

/-- The row for an operation. -/
def operationRow (controller : String) (o : Operation) : List String :=
  [controller, String.ofList (o.method.word.toList.map Char.toUpper), o.path, o.operationId]

/-- The rows for all operations. -/
def operationRows (i : Inspection) : List (List String) :=
  i.client.emittable.flatMap fun e => e.2.map (operationRow e.1)

/-- The schemas, as the components have them. -/
def schemas (i : Inspection) : Value :=
  (((i.client.components.get? "schemas").getD .null)).orElse (.mapping [])

/-- The text, or a hyphen in place of an empty one. -/
def orHyphen (s : String) : Value := .text (if s.isEmpty then "-" else s)

/-- A number of things. -/
def count (n : Nat) : Value := .int n

/-- The title and some numbers. -/
def summary (i : Inspection) : Except Fault Value := do
  let models ← i.schemas.elements
  let controllers := i.client.emittable
  return .ofFields
    [("title", .text i.client.name), ("version", .text i.client.version),
      ("openapi_version", .text i.document.openapi),
      ("description", orHyphen i.client.description), ("base_url", orHyphen i.client.baseUrl),
      ("controllers", count controllers.length),
      ("operations", count (controllers.flatMap (·.2)).length), ("models", count models.length)]

/-- The number of properties that are listed. -/
def listedProperties : Nat := 5

/-- The first properties of an interface; dots stand for the rest. -/
def listProperties (ps : List TypeScript.Property) : Except Fault String := do
  let names ← (ps.take listedProperties).mapM fun p => TypeScript.keyOf p.name
  return ", ".intercalate names ++ (if listedProperties < ps.length then "..." else "")

/-- The row for a declaration. -/
def declarationRow (d : TypeScript.Declaration) : Except Fault (List String) :=
  match d.body with
  | .alias t => .ok [d.name, "alias", t.text]
  | .interface ps => do return [d.name, "interface", ← listProperties ps]

/-- The row for a named schema. -/
def modelRow (entry : Scalar × Value) : Except Problem (List String) := do
  match Package.ModelsModule.declaration entry with
  | .ok d => Fault.lift (declarationRow d)
  | .error .depthExceeded => throw (.failure (.schemaTooDeep entry.1.display))
  | .error f => throw (.fault f)

/-- The rows for all named schemas. -/
def modelRows (i : Inspection) : Except Problem (List (List String)) :=
  match i.schemas.entries? with
  | some es => es.mapM modelRow
  | none => .error (.fault .mappingExpected)

/-- Shows the controllers with their operations. -/
def showControllers (i : Inspection) (c : Console) : Action Unit :=
  if i.operationRows.isEmpty then c.info "No operations to generate."
  else c.showTable ["Controller", "Method", "Path", "OperationId"] i.operationRows

/-- Shows the title and some numbers. -/
def showSummary (i : Inspection) (c : Console) : Action Unit := do
  c.showValue (← Action.ofFault i.summary)

/-- Shows the declarations. -/
def showModels (i : Inspection) (c : Console) : Action Unit := do
  if i.schemas.isFilled then
    c.showTable ["Model", "Kind", "Definition"] (← Action.ofExcept i.modelRows)
  else c.info "No schemas defined in this document."

/-- Shows a view. -/
def present (i : Inspection) (c : Console) : View → Action Unit
  | .controllers => i.showControllers c
  | .info => i.showSummary c
  | .models => i.showModels c

end Inspection

end ClientGen
