import ClientGen.Api.Client
import ClientGen.Failure
import ClientGen.Package.Factory
import ClientGen.Package.Fixed

/-!
# Generated packages

The package of a client has a module of declarations, a module for each controller that has
operations, a module that gathers the controllers, one that sends requests, one that makes clients,
and an entry. It is generated only if no two things that meet in a module have one name.

## Main definitions

* `ClientGen.Package.ControllerFile` : a controller with its module and its functions.
* `ClientGen.Package.controllerFiles` : the modules of all controllers.
* `ClientGen.Package.ofClient` : the files of the package of a client.
-/

namespace ClientGen.Package

open TypeScript

/-- The modules that every package has. -/
def reservedModules : List String := ["models", "API", "apiContext", "createClient", "index"]

/-- What the module that sends requests exports. -/
def contextExports : List String := ["ApiContext", "RequestConfig", "request", "createContext"]

/-- A controller with its module and its functions. -/
structure ControllerFile where
  /-- The controller. -/
  controller : String
  /-- The module. -/
  moduleName : String
  /-- The functions. -/
  functions : List RequestFunction

/-- A schema too deep to be rendered is a failure; any other fault stays one. -/
def rendered {α : Type} : Except Fault α → Except Problem α
  | .ok x => .ok x
  | .error .depthExceeded => .error (.failure .tooDeepToRender)
  | .error f => .error (.fault f)

/-- The controller that has a function of that name. -/
def ownerOf (files : List ControllerFile) (name : String) : Option String :=
  (files.find? fun file => file.functions.any fun f => f.name = name).map (·.controller)

/-- The function for an operation of the last of `files`. `taken` has the names that a function may
not have because its module imports them. -/
def functionFor (taken : List String) (files : List ControllerFile) (controller : String)
    (o : Operation) : Except Problem RequestFunction := do
  let f ← rendered (RequestFunction.ofOperation o)
  match ownerOf files f.name with
  | some owner => throw (.failure (.duplicateOperation f.name owner controller o.operationId))
  | none =>
    if taken.contains f.name then throw (.failure (.functionNameTaken f.name o.operationId))
    else return f

/-- The functions for the operations of a controller; `done` has the controllers in front of it. -/
def functionsFor (taken : List String) (done : List ControllerFile)
    (controller moduleName : String) :
    List RequestFunction → List Operation → Except Problem (List RequestFunction)
  | functions, [] => .ok functions
  | functions, o :: os => do
    let f ← functionFor taken (done ++ [{ controller, moduleName, functions }]) controller o
    functionsFor taken done controller moduleName (functions ++ [f]) os

/-- The module of a controller; `done` has the controllers in front of it. -/
def controllerFile (taken : List String) (done : List ControllerFile) (controller : String)
    (operations : List Operation) : Except Problem ControllerFile := do
  let moduleName := typeName controller
  if reservedModules.contains moduleName then
    throw (.failure (.reservedModule controller moduleName))
  if let some other := done.find? (·.moduleName = moduleName) then
    throw (.failure (.moduleTaken other.controller controller moduleName))
  let functions ← functionsFor taken done controller moduleName [] operations
  return { controller, moduleName, functions }

/-- The modules of controllers; `done` has those in front of them. -/
def controllerFiles (taken : List String) (done : List ControllerFile) :
    Table String (List Operation) → Except Problem (List ControllerFile)
  | [] => .ok done
  | (controller, operations) :: rest => do
    let file ← controllerFile taken done controller operations
    controllerFiles taken (done ++ [file]) rest

/-- The names that no schema may have, because modules import or declare them. -/
def reservedSchemaNames (title : String) : List String :=
  contextExports ++ ["API", "createClient", configName title]

/-- The files of a package with its modules. -/
def files (c : Client) (packageName wrapper models : String) (controllers : List ControllerFile) :
    List (String × String) :=
  let functions := controllers.flatMap (·.functions)
  [("src/models.ts", models)] ++
    (controllers.map fun file =>
      ("src/" ++ file.moduleName ++ ".ts", ControllerModule.text ⟨wrapper, file.functions⟩)) ++
    [("src/API.ts", aggregatorText (controllers.map (·.moduleName))),
      ("src/apiContext.ts", contextText wrapper),
      ("src/createClient.ts", Factory.text ⟨configName c.name, c.baseUrl, wrapper, functions⟩),
      ("src/index.ts", indexText packageName c.version)]

/-- The files of the package of a client, with their texts. -/
def ofClient (c : Client) (packageName : String) : Except Problem (List (String × String)) := do
  let components := Value.ofFields c.components
  let declared ← rendered (modelNames components)
  let wrapper := wrapperName declared
  let reserved := reservedSchemaNames c.name
  if let clash :: _ := Text.alphabetical (declared.filter reserved.contains) then
    throw (.failure (.schemaNameTaken clash))
  let controllers ← controllerFiles (contextExports ++ declared ++ [wrapper]) [] c.emittable
  let models ← rendered (ModelsModule.ofComponents components (some wrapper))
  return files c packageName wrapper (← rendered models.text) controllers

end ClientGen.Package
