import ClientGen.TypeScript.Declaration
import ClientGen.TypeScript.FreshName

/-!
# The module of declarations

The module `models` declares every named schema, and an alias for responses whose name no schema
has.

## Main definitions

* `ClientGen.Package.modelNames` : the names that the module declares for schemas.
* `ClientGen.Package.ModelsModule` : the module.
* `ClientGen.Package.ModelsModule.lines`, `ClientGen.Package.ModelsModule.text` : its text.
-/

namespace ClientGen.Package

/-- The first line of every module. -/
def banner : String := "// Generated by sdkmaker. Do not edit."

/-- The named schemas of a document's components. -/
def schemasOf (components : Value) : Except Fault Value :=
  if components.isMapping then .ok ((components.field "schemas").orElse (.mapping []))
  else .error .mappingExpected

/-- The name of the declaration for a schema's name. -/
def declaredName : Value → Except Fault String
  | .scalar (.text s) => .ok (TypeScript.typeName s)
  | _ => .error .textExpected

/-- The names that are declared for the schemas of components. -/
def modelNames (components : Value) : Except Fault (List String) := do
  (← (← schemasOf components).elements).mapM declaredName

/-- The module of declarations. -/
structure ModelsModule where
  /-- The alias for responses. -/
  wrapper : String
  /-- The declarations. -/
  declarations : List TypeScript.Declaration

namespace ModelsModule

/-- The declaration for a named schema. -/
def declaration (entry : Scalar × Value) : Except Fault TypeScript.Declaration := do
  TypeScript.Declaration.ofSchema (← TypeScript.keyOf entry.1) entry.2

/-- The module for components. Without a name for the alias, it is the first one that is free. -/
def ofComponents (components : Value) (wrapper : Option String) : Except Fault ModelsModule := do
  match (← schemasOf components).entries? with
  | none => throw .mappingExpected
  | some es =>
    let declarations ← es.mapM declaration
    let wrapper := wrapper.getD (TypeScript.wrapperName (declarations.map (·.name)))
    return { wrapper, declarations }

/-- The lines of the module. -/
def lines (m : ModelsModule) : Except Fault (List String) := do
  let declarations ← m.declarations.mapM fun d => return "" :: (← d.lines)
  return [banner, "", "export type " ++ m.wrapper ++ "<T> = T;"] ++ declarations.flatten

/-- The text of the module. -/
def text (m : ModelsModule) : Except Fault String := do
  return Text.unlines (← m.lines)

end ModelsModule

end ClientGen.Package
