import ClientGen.CommandLine.Command
import ClientGen.Console.Basic
import ClientGen.Package.Basic
import ClientGen.Package.Name
import ClientGen.Package.Writing
import ClientGen.Settings.Layers
import ClientGen.Source.Client

/-!
# Generating clients

All files of a package are rendered before the first one is written.

## Main definitions

* `ClientGen.Generation` : a rendered package.
* `ClientGen.Generation.prepare` : rendering the package that the options ask for.
* `ClientGen.generate` : rendering it, and writing or showing it.
-/

namespace ClientGen

/-- A rendered package. -/
structure Generation where
  /-- The name. -/
  name : String
  /-- The client. -/
  client : Client
  /-- The files with their texts. -/
  files : List (String × String)

namespace Generation

/-- The options are of use: the name of the package has more than blanks, and the output is not
something other than a directory. -/
def checkOptions (o : GenerateOptions) : Action Unit := do
  if let some name := o.packageName then
    if (Text.trim name).isEmpty then Action.fail .emptyPackageName
  if let some output := o.output then
    let p := Path.parse output
    match ← Action.ofFault (← Action.look fun fs here => fs.status here p) with
    | some (.file _) => Action.fail (.outputNotADirectory p.display)
    | _ => return ()

/-- The settings of the command line. -/
def flags (o : GenerateOptions) (format : Option OutputFormat) : SettingFlags :=
  { defaultController := o.defaultController, internalMarker := o.internalMarker,
    format := format.map OutputFormat.word }

/-- Renders the package that the options ask for. -/
def prepare (o : GenerateOptions) (format : Option OutputFormat) : Action Generation := do
  checkOptions o
  let settings ← resolveSettings (flags o format)
  let client ← loadClient o.source settings
  let name := o.packageName.getD (Package.packageName client.name)
  let files ← Action.ofExcept (Package.ofClient client name)
  return { name, client, files }

/-- The directory for the files: the one that is asked for, or one with the name of the package. -/
def target (g : Generation) (o : GenerateOptions) : Path := Path.parse (o.output.getD g.name)

/-- Writes the files. -/
def write (g : Generation) (o : GenerateOptions) (c : Console) : Action Unit := do
  let shown := (g.target o).display
  c.info ("Writing " ++ toString g.files.length ++ " file(s) to " ++ shown)
  let _ ← Package.writeFiles (g.target o) g.files
  c.success ("Generated \"" ++ g.name ++ "\" (" ++ toString g.client.emittable.length
    ++ " controller(s)) in " ++ shown)

end Generation

/-- Renders a package, and writes or shows it. -/
def generate (o : GenerateOptions) (format : Option OutputFormat) (c : Console) : Action Unit := do
  let g ← Generation.prepare o format
  c.debug ("Package name: " ++ g.name)
  if o.dryRun then c.showFiles g.files else g.write o c

end ClientGen
