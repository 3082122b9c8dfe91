import ClientGen.Package.Models
import ClientGen.TypeScript.RequestFunction

/-!
# Modules of controllers

Every controller has a module with one function for each of its operations.

## Main definitions

* `ClientGen.Package.ControllerModule` : the module of a controller.
* `ClientGen.Package.ControllerModule.imports` : the declarations that it imports.
* `ClientGen.Package.ControllerModule.lines`, `ClientGen.Package.ControllerModule.text` : its text.
-/

namespace ClientGen.Package

open TypeScript

/-- The declarations that functions refer to, in alphabetical order. -/
def modelsOf (functions : List RequestFunction) : List String :=
  Text.alphabetical (functions.flatMap (·.models))

/-- The lines that import the alias for responses and declarations. -/
def importLines (wrapper : String) (models : List String) : List String :=
  ["import \x7b"] ++ (wrapper :: models).map (fun m => "  " ++ m ++ ",") ++
    ["\x7d from './models';"]

/-- The line of a comment for an argument. -/
def argumentLine (a : Argument) : String :=
  let name := if a.required then a.variableName else "[" ++ a.variableName ++ "]"
  " * @param \x7b" ++ a.type ++ "\x7d " ++ name ++ " - " ++ a.description

/-- The comment for a function. -/
def functionComment (f : RequestFunction) : List String :=
  ["/**"] ++ (if f.summary.isEmpty then [] else docLines f.summary ++ [" *"]) ++
    [" * @param \x7bApiContext\x7d ctx - Client context"] ++ f.arguments.map argumentLine ++
    [" */"]

/-- The line that sends a parameter under its name. -/
def bindingLine (b : ParameterBinding) : String :=
  "      " ++ propertyKey b.parameter.name ++ ": " ++ b.variableName ++ ","

/-- The lines that send the parameters of the query; none if there are none. -/
def queryLines (f : RequestFunction) : List String :=
  match f.parametersIn .query with
  | [] => []
  | bs => ["    params: \x7b"] ++ bs.map bindingLine ++ ["    \x7d,"]

/-- The declaration of a function. -/
def functionLines (wrapper : String) (f : RequestFunction) : List String :=
  ["export async function " ++ f.name ++ "(" ++ f.signature ++ "): Promise<" ++ wrapper ++ "<" ++
      f.result.text ++ ">> \x7b",
    "  const config: RequestConfig = \x7b",
    "    method: '" ++ f.method.word ++ "',",
    "    url: \x60" ++ f.url ++ "\x60,",
    "    headers: \x7b"] ++
  (f.parametersIn .header).map bindingLine ++ ["    \x7d,"] ++ queryLines f ++
  (f.body.toList.map fun b => "    data: " ++ b.variableName ++ ",") ++
  ["  \x7d;", "  return request<" ++ f.result.text ++ ">(ctx, config);", "\x7d"]

/-- The module of a controller. -/
structure ControllerModule where
  /-- The alias for responses. -/
  wrapper : String
  /-- The functions. -/
  functions : List RequestFunction

namespace ControllerModule

/-- The declarations that the module imports. -/
def imports (m : ControllerModule) : List String := modelsOf m.functions

/-- The lines of the module. -/
def lines (m : ControllerModule) : List String :=
  [banner, "import \x7b ApiContext, RequestConfig, request \x7d from './apiContext';"] ++
    importLines m.wrapper m.imports ++
    m.functions.flatMap fun f => "" :: functionComment f ++ functionLines m.wrapper f

/-- The text of the module. -/
def text (m : ControllerModule) : String := Text.unlines m.lines

end ControllerModule

end ClientGen.Package
