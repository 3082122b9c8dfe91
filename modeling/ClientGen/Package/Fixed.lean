import ClientGen.Package.Models

/-!
# Modules of one form

Three modules hardly depend on the document: the one that sends requests, the one that gathers the
controllers, and the entry of the package.

## Main definitions

* `ClientGen.Package.contextLines`, `ClientGen.Package.contextText` : the module that sends
  requests.
* `ClientGen.Package.aggregatorLines`, `ClientGen.Package.aggregatorText` : the module that exports
  what the controllers export.
* `ClientGen.Package.indexText` : the entry of the package.
-/

namespace ClientGen.Package

/-- The function that makes a context. -/
def createContextLines : List String :=
  ["export function createContext(baseURL: string, headers: Record<string, string>)" ++
      ": ApiContext \x7b",
    "  const cleanHeaders = Object.fromEntries(",
    "    Object.entries(headers).filter(",
    "      ([, value]) => value !== null && value !== 'null' && value !== 'Bearer null'",
    "    )",
    "  );",
    "  return \x7b instance: axios.create(\x7b baseURL, headers: cleanHeaders \x7d) \x7d;",
    "\x7d"]

/-- The function that sends a request. -/
def requestLines (wrapper : String) : List String :=
  ["export async function request<T>(ctx: ApiContext, config: RequestConfig): Promise<" ++ wrapper
      ++ "<T>> \x7b",
    "  const headers = Object.fromEntries(",
    "    Object.entries(config.headers).filter(",
    "      ([, value]) => value !== undefined && value !== null && value !== ''" ++
      " && value !== 'null'",
    "    )",
    "  );",
    "  try \x7b",
    "    const response = await ctx.instance.request<T>(\x7b ...config, headers \x7d);",
    "    return response.data;",
    "  \x7d catch (error: any) \x7b",
    "    return error?.response?.data ?? error;",
    "  \x7d",
    "\x7d"]

/-- The interfaces of contexts and requests. -/
def contextInterfaceLines : List String :=
  ["/** Transport state owned by one client instance. */",
    "export interface ApiContext \x7b",
    "  readonly instance: AxiosInstance;",
    "\x7d",
    "",
    "export interface RequestConfig \x7b",
    "  method: string;",
    "  url: string;",
    "  headers: Record<string, unknown>;",
    "  params?: Record<string, unknown>;",
    "  data?: unknown;",
    "\x7d"]

/-- The lines of the module that sends requests. -/
def contextLines (wrapper : String) : List String :=
  [banner, "import axios, \x7b AxiosInstance \x7d from 'axios';",
    "import \x7b " ++ wrapper ++ " \x7d from './models';", ""] ++
    contextInterfaceLines ++ [""] ++ createContextLines ++ [""] ++ requestLines wrapper

/-- The module that sends requests. -/
def contextText (wrapper : String) : String := Text.unlines (contextLines wrapper)

/-- The lines of the module that exports what the modules of the controllers export. -/
def aggregatorLines (modules : List String) : List String :=
  banner :: modules.map fun m => "export * from './" ++ m ++ "';"

/-- The module that exports what the modules of the controllers export. -/
def aggregatorText (modules : List String) : String := Text.unlines (aggregatorLines modules)

/-- The first line of the entry of the package. -/
def indexBanner (packageName version : String) : String :=
  "// " ++ packageName ++ (if version.isEmpty then "" else " " ++ version) ++
    " -- generated by sdkmaker. Do not edit."

/-- The entry of the package. -/
def indexText (packageName version : String) : String :=
  Text.unlines
    [indexBanner packageName version, "export * from './models';", "export * from './apiContext';",
      "export * from './createClient';"]

end ClientGen.Package
