import ClientGen.Api.Operation
import ClientGen.Text.Replace
import ClientGen.TypeScript.FreshName
import ClientGen.TypeScript.SchemaType

/-!
# Functions for operations

An operation becomes a function that sends a request. Its arguments are the body and the
parameters that are primitive. No two arguments have one name, and none has the name of something
that the function binds itself or a name that no argument may have. An argument that may be left
out stands behind all that may not, and of those alike the body stands first.

## Main definitions

* `ClientGen.TypeScript.ParameterBinding`, `ClientGen.TypeScript.BodyBinding`,
  `ClientGen.TypeScript.Argument` : the arguments.
* `ClientGen.TypeScript.RequestFunction` : functions for operations.
* `ClientGen.TypeScript.RequestFunction.ofOperation` : the function for an operation.
* `ClientGen.TypeScript.RequestFunction.arguments`, `ClientGen.TypeScript.RequestFunction.url` :
  its arguments in order and its address.
-/

namespace ClientGen.TypeScript

/-- The names that an argument may not have: those that the function binds itself, and the
reserved words. -/
def reservedArguments : List String := [
  "ctx", "config", "request",
  "arguments", "await", "break", "case", "catch", "class", "const", "continue", "debugger",
  "default", "delete", "do", "else", "enum", "eval", "export", "extends", "false", "finally",
  "for", "function", "if", "implements", "import", "in", "instanceof", "interface", "let", "new",
  "null", "package", "private", "protected", "public", "return", "static", "super", "switch",
  "this", "throw", "true", "try", "typeof", "var", "void", "while", "with", "yield"]

/-- The type of an argument for a parameter. -/
def parameterType (primitiveType : String) (format : Option String) : String :=
  if format = some "date" then "Date"
  else if primitiveType = "integer" then "number"
  else "string"

/-- An argument for a parameter. -/
structure ParameterBinding where
  /-- The parameter. -/
  parameter : PrimitiveParameter
  /-- The variable. -/
  variableName : String

/-- An argument for the body. -/
structure BodyBinding where
  /-- The variable. -/
  variableName : String
  /-- The type. -/
  type : TypeExpr
  /-- The body has to be there. -/
  required : Bool
  /-- The declarations that the body's schema refers to. -/
  models : List String

/-- An argument of a function. -/
inductive Argument where
  /-- A parameter. -/
  | parameter (b : ParameterBinding)
  /-- The body. -/
  | body (b : BodyBinding)

namespace Argument

/-- The variable. -/
def variableName : Argument → String
  | parameter b => b.variableName
  | body b => b.variableName

/-- The type. -/
def type : Argument → String
  | parameter b => parameterType b.parameter.primitiveType b.parameter.format
  | body b => b.type.text

/-- The argument has to be there. -/
def required : Argument → Bool
  | parameter b => b.parameter.required
  | body b => b.required

/-- The format of a parameter, in brackets. -/
def formatNote (format : Option String) : String :=
  match format with
  | some f => if f.isEmpty then "" else " (" ++ f ++ ")"
  | none => ""

/-- What the argument is. -/
def description : Argument → String
  | parameter b => b.parameter.location.word ++ " parameter" ++ formatNote b.parameter.format
  | body _ => "Request body"

/-- How the argument is declared. -/
def declared (a : Argument) : String :=
  a.variableName ++ (if a.required then "" else "?") ++ ": " ++ a.type

end Argument

/-- The arguments for parameters; `taken` has the names that are no longer free. -/
def bindParameters (taken : List String) : List PrimitiveParameter → List ParameterBinding
  | [] => []
  | p :: ps =>
    let v := freshVariable (variableName p.name) taken
    ⟨p, v⟩ :: bindParameters (v :: taken) ps

/-- The variable that suits a body: it is named for the declaration of its schema, if it has
one. -/
def bodyVariable : Option SchemaHandle → String
  | some (.named (some name) ..) =>
    if name.isEmpty then "body" else variableName (lowerFirst (typeName name))
  | _ => "body"

/-- The argument for a body; none if the body has no schema in JSON. -/
def bindBody (taken : List String) (requestBody : Value) : Except Fault (Option BodyBinding) := do
  let schema := jsonSchema requestBody
  if schema = .null then return none
  let suited := bodyVariable (← SchemaHandle.ofNode? schema)
  return some {
    variableName := if taken.contains suited then freshVariable "body" taken else suited
    type := ← schemaType schema
    required := (requestBody.field "required").isFilled
    models := ← referencedModels schema }

/-- Functions for operations. -/
structure RequestFunction where
  /-- The name. -/
  name : String
  /-- The method of the request. -/
  method : Method
  /-- A sentence on what the operation does; may be empty. -/
  summary : String
  /-- The path, with parameters in braces. -/
  path : String
  /-- The arguments for parameters. -/
  parameters : List ParameterBinding
  /-- The argument for the body. -/
  body : Option BodyBinding
  /-- The type of the answer. -/
  result : TypeExpr
  /-- The declarations that body and responses refer to, in alphabetical order. -/
  models : List String

namespace RequestFunction

/-- The function for an operation. -/
def ofOperation (o : Operation) : Except Fault RequestFunction := do
  let parameters := bindParameters reservedArguments o.primitives
  let taken := reservedArguments ++ parameters.map (·.variableName)
  let body ← bindBody taken (.ofFields (o.requestBody.getD []))
  let responses := o.responses.getD []
  let result ← resultType (.ofFields responses)
  let answered ← responses.mapM fun r => referencedModels (jsonSchema r.2)
  return {
    name := functionName o.operationId, method := o.method, summary := o.summary.getD "",
    path := o.path, parameters, body, result,
    models := Text.alphabetical ((body.elim [] (·.models)) ++ answered.flatten) }

/-- The parameters in a part of the request. -/
def parametersIn (f : RequestFunction) (location : ParameterLocation) : List ParameterBinding :=
  f.parameters.filter fun b => b.parameter.location = location

/-- The arguments in order. -/
def arguments (f : RequestFunction) : List Argument :=
  let all := f.body.toList.map Argument.body ++ f.parameters.map Argument.parameter
  all.filter Argument.required ++ all.filter (!·.required)

/-- The path with its parameters replaced by variables, in turn. -/
def address (f : RequestFunction) : List Char :=
  (f.parametersIn .path).foldl (fun path b =>
    Text.replaceAll ("\x7b" ++ b.parameter.name ++ "\x7d").toList
      ("$\x7b" ++ b.variableName ++ "\x7d").toList path) f.path.toList

/-- The address as it stands between back quotes. -/
def url (f : RequestFunction) : String :=
  String.ofList (Text.replaceAll ['\x60'] ['\\', '\x60'] f.address)

/-- The declarations of the arguments. -/
def parameterList (f : RequestFunction) : String :=
  ", ".intercalate (f.arguments.map Argument.declared)

/-- The declarations of all arguments, with the context in front. -/
def signature (f : RequestFunction) : String :=
  if f.parameterList.isEmpty then "ctx: ApiContext" else "ctx: ApiContext, " ++ f.parameterList

/-- The variables of all arguments, with the context in front. -/
def argumentList (f : RequestFunction) : String :=
  ", ".intercalate ("ctx" :: f.arguments.map Argument.variableName)

end RequestFunction

end ClientGen.TypeScript
