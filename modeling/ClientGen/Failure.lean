import ClientGen.Fault
import ClientGen.Value.Display

/-!
# Failures

A failure is a condition that the tool foresees and words a message for. Every failure belongs to
a category, which fixes the exit code, and names the step of the pipeline in which it arises.

## Main definitions

* `ClientGen.Category` : the categories and their exit codes.
* `ClientGen.Failure` : the conditions.
* `ClientGen.Report` : what is told about a failure.
* `ClientGen.Failure.report` : the report of a condition.
* `ClientGen.Problem` : a failure or a fault.
-/

namespace ClientGen

/-- The categories of failures. -/
inductive Category where
  /-- Anything else. -/
  | general
  /-- The command line is wrong. -/
  | usage
  /-- The locator or the document is of no use. -/
  | validation
  /-- The text of the document is in neither notation. -/
  | content
  /-- A web address cannot be fetched. -/
  | network
  /-- The document is cyclic or too deep. -/
  | depth
  /-- The client cannot be rendered or written. -/
  | emission
  /-- The settings are wrong. -/
  | settings
  deriving DecidableEq, Repr

/-- The exit code of a category. -/
def Category.exitCode : Category → Int
  | general | settings => 1
  | usage => 2
  | validation => 3
  | content => 4
  | network => 5
  | depth => 6
  | emission => 7

/-- The words of a file system for an operation that it refuses. -/
def FileFault.words : FileFault → String
  | missing => "[Errno 2] No such file or directory"
  | occupied => "[Errno 17] File exists"
  | notDirectory => "[Errno 20] Not a directory"
  | isDirectory => "[Errno 21] Is a directory"
  | nameTooLong => "[Errno 36] File name too long"
  | tooManyLinks => "[Errno 40] Too many levels of symbolic links"
  | noRoom => "[Errno 28] No space left on device"

/-- Why a file is not read or written, in words. -/
def Fault.reason : Fault → String
  | file f path => f.words ++ ": " ++ Text.quote path
  | replacing f path target => f.words ++ ": " ++ Text.quote path ++ " -> " ++ Text.quote target
  | writing f => f.words
  | undecodableText => "the bytes are not text in UTF-8"
  | _ => "the operation failed"

/-- The files that hold settings. -/
inductive SettingsFile where
  /-- The file of the user. -/
  | user
  /-- The file of the project. -/
  | project
  deriving DecidableEq, Repr

/-- How a settings file is named in messages. -/
def SettingsFile.label : SettingsFile → String
  | user => "user config"
  | project => "project config"

/-- Why a settings file is of no use. -/
inductive SettingsFault where
  /-- It is not in the notation of JSON. -/
  | notJson
  /-- It cannot be read. -/
  | unreadable (fault : Fault)
  /-- It is no object. -/
  | notAnObject
  /-- So many settings have unfit values. -/
  | invalid (count : Nat)
  deriving DecidableEq, Repr

/-- The number of unfit settings in words. -/
def countInvalid (n : Nat) : String :=
  toString n ++ " validation error" ++ (if n = 1 then "" else "s") ++ " for GeneratorConfig"

/-- Why a settings file is of no use, in words. -/
def SettingsFault.message : SettingsFault → String
  | notJson => "the text is not JSON"
  | unreadable fault => fault.reason
  | notAnObject => "expected a JSON object"
  | invalid n => countInvalid n

/-- The conditions that the tool foresees. -/
inductive Failure where
  /-- The locator is not a text or is empty. -/
  | notALocator
  /-- Standard input cannot be read. -/
  | stdinUnreadable (reason : String)
  /-- Standard input holds nothing but blanks. -/
  | stdinEmpty
  /-- A file cannot be read. -/
  | fileUnreadable (path : String) (fault : Fault)
  /-- A server answers with a status that is no success. -/
  | httpStatus (url : String) (status : Nat)
  /-- A server cannot be reached. -/
  | unreachable (url cause : String)
  /-- The text of the document is in neither notation. -/
  | undecodable
  /-- The text of the document is nested too deeply. -/
  | tooDeepToDecode
  /-- The value has none of the entries that mark a document. -/
  | notADocument
  /-- The document is nested too deeply to be brought into its canonical form. -/
  | tooDeepToNormalize
  /-- A reference leaves the document. -/
  | externalReference (ref : String)
  /-- A reference names nothing in the document. -/
  | danglingReference (ref segment : String)
  /-- The walk over the document comes back to a container it is still inside of. -/
  | cyclic
  /-- The document is nested too deeply to be resolved. -/
  | tooDeepToResolve
  /-- A schema has the name of something that the client declares itself. -/
  | schemaNameTaken (name : String)
  /-- A controller has the name of a module that every client has. -/
  | reservedModule (controller module : String)
  /-- Two controllers have one module. -/
  | moduleTaken (first second module : String)
  /-- Two operations have one function. -/
  | duplicateOperation (function first second operationId : String)
  /-- An operation has the name of something that its module imports. -/
  | functionNameTaken (function operationId : String)
  /-- A schema is nested too deeply to be rendered. -/
  | tooDeepToRender
  /-- The schema of that name is nested too deeply to be listed. -/
  | schemaTooDeep (name : String)
  /-- A file is to be written outside of the output directory. -/
  | escapingPath (relative : String)
  /-- The file system refuses to write a file. -/
  | writeRefused (target : String) (fault : Fault)
  /-- The package name has only blanks. -/
  | emptyPackageName
  /-- The output directory is something else. -/
  | outputNotADirectory (path : String)
  /-- A settings file is of no use. -/
  | badSettingsFile (file : SettingsFile) (path : String) (fault : SettingsFault)
  /-- The time limit in the environment is not a number. -/
  | badTimeLimit (text : String)
  /-- So many settings of all layers together have unfit values. -/
  | invalidSettings (count : Nat)
  deriving DecidableEq

/-- What is told about a failure. -/
structure Report where
  /-- The category. -/
  category : Category
  /-- The step of the pipeline. -/
  operation : String
  /-- The message. -/
  message : String
  /-- Details for programs. -/
  details : Value := .mapping []
  /-- What is added to the message on the terminal: a web address and the cause. -/
  origin : Option (String × String) := none
  /-- The exit code. -/
  exitCode : Int := category.exitCode

/-- The line for the terminal. -/
def Report.line (r : Report) : String :=
  r.operation ++ ": " ++ r.message ++
    (match r.origin with
      | some (locator, cause) => " (" ++ locator ++ "): " ++ cause
      | none => "")

namespace Report

/-- Details as a caller gives them. A value with nothing in it stands for no details. -/
def detailsOf (given : Value) : Value := if given.isFilled then given else .mapping []

/-- The entries of details as a caller gives them. -/
def detailEntries (given : Value) : Except Fault (Table Scalar Value) :=
  match (detailsOf given).entries? with
  | some es => .ok es
  | none => .error .collectionExpected

/-- A report on a text in neither of the notations that were tried. Details of the caller win. -/
def content (operation message : String) (formats : List String) (details : Table Scalar Value) :
    Report :=
  let tried := (Scalar.text "attemptedFormats", Value.sequence (formats.map Value.text))
  { category := .content, operation, message,
    details := .mapping (Table.ofEntriesWith Scalar.sameKey (tried :: details)) }

/-- A report on a web address that cannot be fetched. -/
def network (operation message locator cause : String) : Report :=
  { category := .network, operation, message, origin := some (locator, cause),
    details := .ofFields [("locator", .text locator), ("cause", .text cause)] }

end Report

namespace Failure

private def parse (message : String) (details : Table String Value) : Report :=
  { category := .validation, operation := "parse", message, details := .ofFields details }

private def depth (operation message : String) : Report :=
  { category := .depth, operation, message }

private def reference (message ref : String) : Report :=
  { category := .validation, operation := "resolveRefs", message,
    details := .ofFields [("ref", .text ref)] }

private def emit (message : String) (details : Table String Value) : Report :=
  { category := .emission, operation := "emit", message, details := .ofFields details }

private def clash (message operationId : String) : Report :=
  emit message [("operationId", .text operationId)]

private def settings (message : String) : Report :=
  { category := .settings, operation := "config", message }

/-- What is told about a failure. -/
def report : Failure → Report
  | notALocator => parse "Input is not a valid string" []
  | stdinUnreadable reason => parse ("Failed to read from stdin: " ++ reason) []
  | stdinEmpty => parse "No input received from stdin" []
  | fileUnreadable path fault =>
    parse ("Failed to read OpenAPI file: " ++ path ++ ": " ++ fault.reason) [("path", .text path)]
  | httpStatus url status =>
    .network "fetchFromUrl"
      ("Failed to fetch Swagger documentation (HTTP " ++ toString status ++ ")") url
      ("the server answered with status " ++ toString status)
  | unreachable url cause =>
    .network "fetchFromUrl" "Failed to fetch Swagger documentation" url cause
  | undecodable =>
    .content "processContent" "Failed to parse content as JSON or YAML" ["JSON", "YAML"] []
  | tooDeepToDecode => depth "processContent" "Document is nested too deeply to decode"
  | notADocument => parse "Invalid Swagger/OpenAPI document structure" []
  | tooDeepToNormalize => depth "normalize" "Document is nested too deeply to normalize"
  | externalReference ref => reference ("External $ref not supported: " ++ ref) ref
  | danglingReference ref segment =>
    reference ("Cannot resolve $ref '" ++ ref ++ "': '" ++ segment ++ "' not found") ref
  | cyclic => depth "resolveRefs" "Cyclic structure detected while resolving references"
  | tooDeepToResolve =>
    depth "resolveRefs" "Document is nested too deeply to resolve references"
  | schemaNameTaken name =>
    emit ("Schema '" ++ name ++ "' clashes with a generated client name") []
  | reservedModule controller module =>
    emit ("Controller '" ++ controller ++ "' clashes with the generated module '" ++ module ++ "'")
      []
  | moduleTaken first second module =>
    emit ("Controllers '" ++ first ++ "' and '" ++ second ++ "' both map to module '" ++ module
      ++ "'") []
  | duplicateOperation function first second operationId =>
    clash ("Duplicate operation '" ++ function ++ "' in controllers '" ++ first ++ "' and '"
      ++ second ++ "'") operationId
  | functionNameTaken function operationId =>
    clash ("Operation '" ++ function ++ "' clashes with a name imported by its module") operationId
  | tooDeepToRender => depth "emit" "Schema is nested too deeply to render"
  | schemaTooDeep name => depth "emit" ("Schema '" ++ name ++ "' is nested too deeply to render")
  | escapingPath relative =>
    { category := .emission, operation := "write",
      message := "Refusing to write outside the output directory: " ++ relative }
  | writeRefused target fault =>
    { category := .emission, operation := "write",
      message := "Failed to write " ++ target ++ ": " ++ fault.reason }
  | emptyPackageName =>
    { category := .usage, operation := "generate", message := "--package-name must not be empty" }
  | outputNotADirectory path =>
    { category := .usage, operation := "generate",
      message := "--output is not a directory: " ++ path }
  | badSettingsFile file path fault =>
    settings ("Invalid " ++ file.label ++ " at " ++ path ++ ": " ++ fault.message)
  | badTimeLimit text => settings ("SDKMAKER_FETCH_TIMEOUT must be a number, got: " ++ text)
  | invalidSettings n => settings ("Invalid configuration: " ++ countInvalid n)

end Failure

/-- What stops the tool: a failure that it foresees, or a fault that it does not. -/
inductive Problem where
  /-- A condition that the tool foresees. -/
  | failure (f : Failure)
  /-- A condition that the tool does not foresee. -/
  | fault (f : Fault)
  deriving DecidableEq

/-- Lets a fault stop the tool. -/
def Fault.lift {α : Type} : Except Fault α → Except Problem α
  | .ok x => .ok x
  | .error f => .error (.fault f)

end ClientGen
