import ClientGen.Package.Controller

/-!
# The factory of clients

The module `createClient` has one function, which makes an object with an entry for every
operation.

## Main definitions

* `ClientGen.Package.Factory` : the module.
* `ClientGen.Package.Factory.lines`, `ClientGen.Package.Factory.text` : its text.
-/

namespace ClientGen.Package

open TypeScript

/-- The name of the interface for the options of a client. -/
def configName (title : String) : String := pascalCase title ++ "Config"

/-- The module of the factory. -/
structure Factory where
  /-- The interface for the options. -/
  configName : String
  /-- The address that is used unless the options have another one. -/
  baseUrl : String
  /-- The alias for responses. -/
  wrapper : String
  /-- The functions of all controllers. -/
  functions : List RequestFunction

namespace Factory

/-- The entry for a function. -/
def entryLines (wrapper : String) (f : RequestFunction) : List String :=
  ["    " ++ f.name ++ ": (" ++ f.parameterList ++ "): Promise<" ++ wrapper ++ "<" ++
      f.result.text ++ ">> =>",
    "      API." ++ f.name ++ "(" ++ f.argumentList ++ "),"]

/-- The interface for the options. -/
def optionLines (name : String) : List String :=
  ["export interface " ++ name ++ " \x7b",
    "  apiKey?: string;",
    "  authToken?: string;",
    "  baseURL?: string;",
    "\x7d"]

/-- The start of the function, up to the entries. -/
def openingLines (m : Factory) : List String :=
  ["export function createClient(\x7b apiKey, authToken, baseURL = " ++ quoted m.baseUrl ++
      " \x7d: " ++ m.configName ++ " = \x7b\x7d) \x7b",
    "  let headers: Record<string, string> = \x7b\x7d;",
    "  if (authToken) \x7b",
    "    headers['Authorization'] = \x60Bearer $\x7bauthToken\x7d\x60;",
    "  \x7d",
    "  if (apiKey) \x7b",
    "    headers['x-api-key'] = apiKey;",
    "  \x7d",
    "  let ctx: ApiContext = createContext(baseURL, headers);",
    "",
    "  return \x7b"]

/-- The end of the function, with the entry that adds headers. -/
def closingLines : List String :=
  ["    addHeaders(newHeaders: Record<string, string>) \x7b",
    "      headers = \x7b ...headers, ...newHeaders \x7d;",
    "      ctx = createContext(baseURL, headers);",
    "    \x7d,",
    "  \x7d;",
    "\x7d"]

/-- The declarations that the module imports. -/
def imports (m : Factory) : List String := modelsOf m.functions

/-- The lines of the module. -/
def lines (m : Factory) : List String :=
  [banner, "import * as API from './API';",
      "import \x7b ApiContext, createContext \x7d from './apiContext';"] ++
    importLines m.wrapper m.imports ++ [""] ++ optionLines m.configName ++ [""] ++
    m.openingLines ++ m.functions.flatMap (entryLines m.wrapper) ++ closingLines

/-- The text of the module. -/
def text (m : Factory) : String := Text.unlines m.lines

end Factory

end ClientGen.Package
