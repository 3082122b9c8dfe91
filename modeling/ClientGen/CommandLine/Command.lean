import ClientGen.CommandLine.Options
import ClientGen.Fault
import ClientGen.Settings.Basic

/-!
# Commands

The tool generates clients, inspects documents and shows its settings. Options for all commands
stand in front of the name of the command.

## Main definitions

* `ClientGen.Command` : the commands.
* `ClientGen.CommonOptions` : the options for all commands.
* `ClientGen.Parsed` : what a command line asks for.
* `ClientGen.CommonOptions.parse`, `ClientGen.Command.parse` : reading a command line.
-/

namespace ClientGen

/-- What is shown of a document. -/
inductive View where
  /-- The controllers with their operations. -/
  | controllers
  /-- The title and some numbers. -/
  | info
  /-- The declarations. -/
  | models
  deriving DecidableEq, Repr

/-- How a client is generated. -/
structure GenerateOptions where
  /-- The locator of the document. -/
  source : String
  /-- The directory for the files. -/
  output : Option String := none
  /-- The name of the package. -/
  packageName : Option String := none
  /-- The controller of operations without a tag. -/
  defaultController : Option String := none
  /-- The mark of internal operations. -/
  internalMarker : Option String := none
  /-- The files are shown and not written. -/
  dryRun : Bool := false
  deriving DecidableEq, Repr

/-- The commands. -/
inductive Command where
  /-- Generates a client. -/
  | generate (options : GenerateOptions)
  /-- Shows a document. -/
  | inspect (view : View) (source : String)
  /-- Shows the settings. -/
  | showSettings
  /-- Shows where the settings of the user are. -/
  | settingsPath
  deriving DecidableEq, Repr

/-- The options for all commands. -/
structure CommonOptions where
  /-- Results are shown as JSON. -/
  json : Bool := false
  /-- Results are shown as lines of text. -/
  plain : Bool := false
  /-- Nothing is coloured. -/
  noColour : Bool := false
  /-- Messages that only inform are left out. -/
  quiet : Bool := false
  /-- Messages on the way to a result are shown. -/
  verbose : Bool := false
  deriving DecidableEq, Repr

/-- The format that the options ask for. -/
def CommonOptions.format? (o : CommonOptions) : Option OutputFormat :=
  if o.json then some .json else if o.plain then some .plain else none

/-- What a command line asks for. -/
inductive Parsed (α : Type) where
  /-- To run a command. -/
  | run (x : α)
  /-- To show how the tool is used. -/
  | help
  /-- To show the version. -/
  | version
  /-- Nothing of use. -/
  | misuse
  /-- Something that cannot be so much as looked at. -/
  | fault (f : Fault)

/-- The option that asks for help. -/
def helpOption : OptionSpec := { key := "help", names := ["--help"] }

/-- What the options ask for that come before all else, the first of them. -/
def eager? {α : Type} (s : Scanned) : Option (Parsed α) :=
  (s.options.find? fun o => o.1 = "help" ∨ o.1 = "version").map fun o =>
    if o.1 = "help" then .help else .version

/-- What arguments ask for of which the first is no command: it may be an option all the same, if
the end of the options was marked in front of it. -/
def askedBy {α : Type} (specs : List OptionSpec) (arguments : List String) : Parsed α :=
  match OptionSpec.scan specs false arguments with
  | none => .misuse
  | some s => (eager? s).getD .misuse

/-- The commands and groups of commands. -/
def commandNames : List String := ["generate", "inspect", "config"]

namespace CommonOptions

/-- The options for all commands. -/
def specs : List OptionSpec := [
  helpOption,
  { key := "version", names := ["--version"] },
  { key := "json", names := ["--json"] },
  { key := "plain", names := ["--plain"] },
  { key := "no-color", names := ["--no-color"] },
  { key := "quiet", names := ["--quiet", "-q"] },
  { key := "verbose", names := ["--verbose", "-v"] }]

/-- The options that are given. -/
def ofScanned (s : Scanned) : CommonOptions :=
  { json := s.has "json", plain := s.has "plain", noColour := s.has "no-color",
    quiet := s.has "quiet", verbose := s.has "verbose" }

/-- Reads the options for all commands, the name of a command, and the arguments behind it. -/
def parse (arguments : List String) : Parsed (CommonOptions × String × List String) :=
  match OptionSpec.scan specs false arguments with
  | none => .misuse
  | some s =>
    match eager? s, s.arguments with
    | some asked, _ => asked
    | none, name :: rest =>
      if commandNames.contains name then .run (ofScanned s, name, rest)
      else askedBy specs s.arguments
    | none, [] => .misuse

end CommonOptions

namespace Command

/-- The options of the command that generates a client. -/
def generateSpecs : List OptionSpec := [
  helpOption,
  { key := "output", names := ["--output", "-o"], takesValue := true },
  { key := "package-name", names := ["--package-name"], takesValue := true },
  { key := "default-controller", names := ["--default-controller"], takesValue := true },
  { key := "internal-marker", names := ["--internal-marker"], takesValue := true },
  { key := "dry-run", names := ["--dry-run", "-n"] }]

/-- The output directory has a name with the zero character. -/
def hasZeroOutput (s : Scanned) : Bool :=
  ((s.value? "output").getD "").toList.contains (Char.ofNat 0)

/-- Reads the arguments of the command that generates a client. -/
def parseGenerate (arguments : List String) : Parsed Command :=
  match OptionSpec.scan generateSpecs true arguments with
  | none => .misuse
  | some s =>
    match eager? s with
    | some asked => asked
    | none =>
      if hasZeroOutput s then .fault .zeroInName
      else match s.arguments with
        | [source] => .run <| .generate {
            source, output := s.value? "output", packageName := s.value? "package-name",
            defaultController := s.value? "default-controller",
            internalMarker := s.value? "internal-marker", dryRun := s.has "dry-run" }
        | _ => .misuse

/-- Reads the arguments of a command without options of its own. -/
def parseSimple (command : List String → Option Command) (arguments : List String) :
    Parsed Command :=
  match OptionSpec.scan [helpOption] true arguments with
  | none => .misuse
  | some s =>
    match eager? s with
    | some asked => asked
    | none =>
      match command s.arguments with
      | some c => .run c
      | none => .misuse

/-- Reads the name of a command in a group, and its arguments. -/
def parseGroup (members : List (String × (List String → Option Command)))
    (arguments : List String) : Parsed Command :=
  match OptionSpec.scan [helpOption] false arguments with
  | none => .misuse
  | some s =>
    match eager? s, s.arguments with
    | some asked, _ => asked
    | none, name :: rest =>
      match members.lookup name with
      | some command => parseSimple command rest
      | none => askedBy [helpOption] s.arguments
    | none, [] => .misuse

/-- The command that shows a view of a document. -/
def inspectWith (view : View) : List String → Option Command
  | [source] => some (inspect view source)
  | _ => none

/-- A command without arguments. -/
def alone (command : Command) : List String → Option Command
  | [] => some command
  | _ => none

/-- The commands that show documents. -/
def inspectMembers : List (String × (List String → Option Command)) :=
  [("controllers", inspectWith .controllers), ("info", inspectWith .info),
    ("models", inspectWith .models)]

/-- The commands that show settings. -/
def settingsMembers : List (String × (List String → Option Command)) :=
  [("show", alone showSettings), ("path", alone settingsPath)]

/-- Reads the arguments of the command of that name. -/
def parse (name : String) (arguments : List String) : Parsed Command :=
  if name = "generate" then parseGenerate arguments
  else if name = "inspect" then parseGroup inspectMembers arguments
  else if name = "config" then parseGroup settingsMembers arguments
  else .misuse

end Command

end ClientGen
