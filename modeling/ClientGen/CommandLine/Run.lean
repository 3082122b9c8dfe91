import ClientGen.CommandLine.Generate
import ClientGen.CommandLine.Inspect

/-!
# Running the tool

A run ends with an exit code. A failure is shown and has the exit code of its category. A fault is
logged, and the message points to the log.

## Main definitions

* `ClientGen.Command.perform` : running a command.
* `ClientGen.crash` : what is done about a fault.
* `ClientGen.run` : running the tool on its arguments.
-/

namespace ClientGen

/-- The version of the tool. -/
def toolVersion : String := "0.3.0"

/-- How the tool is used. -/
def usage : String :=
  "Usage: sdkmaker [OPTIONS] COMMAND [ARGS]...\n\n" ++
  "Commands: generate SOURCE; inspect controllers|info|models SOURCE; config show|path\n"

/-- Shows the settings. -/
def showSettings (c : Console) : Action Unit := do
  let settings ← resolveSettings {}
  c.info ("Config directory: " ++ (← settingsDirectory).display)
  c.showValue settings.tree

/-- Shows where the settings of the user are. -/
def showSettingsPath (c : Console) : Action Unit := do
  c.showLine ((← settingsDirectory).child "config.json").display

/-- Runs a command. -/
def Command.perform (command : Command) (format : Option OutputFormat) (c : Console) :
    Action Unit :=
  match command with
  | .generate o => ClientGen.generate o format c
  | .inspect view source => do (← Inspection.load source format).present c view
  | .showSettings => ClientGen.showSettings c
  | .settingsPath => showSettingsPath c

/-- The format in the settings; left open if the settings are of no use. -/
def settledFormat : Action OutputFormat :=
  tryCatch (do return (← resolveSettings {}).format) fun p =>
    match p with
    | .failure _ => return .auto
    | .fault f => throw (.fault f)

/-- Shows how the tool is used, and says whether that was asked for. -/
def Parsed.answer {α : Type} (p : Parsed α) (go : α → Action Int) : Action Int :=
  match p with
  | .run x => go x
  | .help => do Action.print usage; return 0
  | .version => do Action.print (toolName ++ " " ++ toolVersion ++ "\n"); return 0
  | .misuse => do Action.warn usage; return 2
  | .fault f => throw (.fault f)

/-- Runs the command of a command line. -/
def session (o : CommonOptions) (name : String) (arguments : List String) : Action Int := do
  let wanted ← match o.format? with
    | some f => pure f
    | none => settledFormat
  let console ← Console.start wanted o.noColour o.quiet o.verbose
  (Command.parse name arguments).answer fun command => do
    command.perform o.format? console
    return 0

/-- Logs a fault, and points to the log. -/
def crash (f : Fault) : Action Int := do
  let logs ← madeDirectory ((← dataDirectory).child "logs")
  let log := logs.child ("crash-" ++ (← Action.see (·.now)) ++ ".log")
  let here ← Action.see (·.here)
  Action.onFiles (FileAction.overwrite here log (f.reason ++ "\n"))
  ({} : Console).error ("Unexpected error. Debug log: " ++ log.display)
  return 1

/-- Ends a run that a problem has stopped. -/
def conclude : Problem → Action Int
  | .failure f => do
    ({} : Console).error f.report.line
    return f.report.exitCode
  | .fault f => crash f

/-- Runs the tool on its arguments, and gives the exit code. -/
def run (arguments : List String) : Action Int :=
  tryCatch
    ((CommonOptions.parse arguments).answer fun (o, name, rest) => session o name rest)
    conclude

end ClientGen
