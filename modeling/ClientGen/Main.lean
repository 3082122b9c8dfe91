import ClientGen.CommandLine.Run

/-!
# The program

The program takes a picture of the world as far as a run looks at it, runs the tool on the picture,
and carries out what has changed. It has no connection to web servers of its own.
-/

namespace ClientGen.Program

/-- How a place is written. -/
def pathOf (place : Place) : String := (Path.ofPlace place).display

/-- What stands at a place. -/
def entryAt (place : Place) : IO (Option Entry) := do
  try
    let p := (← IO.currentDir) / pathOf place
    if (← p.symlinkMetadata).type == .symlink then
      return some (.link (Path.parse (← IO.FS.realPath p).toString))
    else if ← p.isDir then return some .directory
    else if ← p.pathExists then return some (.file (← IO.FS.readBinFile p))
    else return none
  catch _ => return none

/-- The places in a directory. -/
def placesIn (place : Place) : IO (List Place) := do
  try
    let p := (← IO.currentDir) / pathOf place
    return (← p.readDir).toList.map fun e => place ++ [e.fileName]
  catch _ => return []

/-- The places on the way to a place, and the place itself. -/
def wayTo (place : Place) : List Place :=
  (List.range place.length).map fun n => place.take (n + 1)

/-- The picture with a place. -/
def withEntry (fs : FileSystem) (place : Place) : IO FileSystem := do
  if (fs.find? place).isSome then return fs
  match ← entryAt place with
  | some e => return fs.put place e
  | none => return fs

/-- The picture with the places on the way to a place, and those that links on the way lead to. -/
def withPlace (fs : FileSystem) (place : Place) : IO FileSystem :=
  (wayTo place).foldlM (fun fs p => do
    let fs ← withEntry fs p
    match fs.link? p with
    | some target => (wayTo (target.names ++ place.drop p.length)).foldlM withEntry fs
    | none => return fs) fs

/-- The picture with the places where a package at a place is written. -/
def withPackage (fs : FileSystem) (place : Place) : IO FileSystem := do
  let sources ← placesIn (place ++ ["src"])
  ((place ++ ["src"]) :: sources).foldlM withPlace (← withPlace fs place)

/-- The places that an argument may name, by itself or behind an equals sign. -/
def argumentPlaces (here : Place) (argument : String) : List Place :=
  [argument, "=".intercalate ((argument.splitOn "=").drop 1)].filterMap fun s =>
    let p := Path.parse s
    if s.isEmpty || p.hasZero || FileSystem.pathLimit ≤ s.utf8ByteSize then none
    else some (p.placeFrom here)

/-- The names of the variables that a run looks at. -/
def variableNames : List String := [
  "HOME", "XDG_CONFIG_HOME", "XDG_DATA_HOME", "NO_COLOR", "TERM", "SDKMAKER_DEFAULT_CONTROLLER",
  "SDKMAKER_INTERNAL_MARKER", "SDKMAKER_FETCH_TIMEOUT"]

/-- The environment of the program. -/
def environment : IO (Table String String) :=
  variableNames.filterMapM fun name => do return (← IO.getEnv name).map fun value => (name, value)

/-- What standard input holds. -/
def readInput : IO (Option String) := do
  try
    let bytes ← (← IO.getStdin).readBinToEnd
    return (FileSystem.textOf bytes).toOption
  catch _ => return none

/-- The places of the settings and the logs. -/
def toolPlaces (w : World) : List Place :=
  [settingsDirectory, dataDirectory].filterMap fun directory =>
    match directory.run w with
    | .ok p _ => some (p.placeFrom w.here)
    | .error .. => none

/-- The picture of the world for a run on arguments. -/
def picture (arguments : List String) : IO World := do
  let here := (Path.parse (← IO.currentDir).toString).placeFrom []
  let stamp := toString (← IO.monoNanosNow)
  let input ← if arguments.contains "-" then readInput else pure (some "")
  let w : World := {
    here, input, environment := ← environment, terminal := ← (← IO.getStdout).isTty, token := stamp,
    now := stamp }
  let tool := (toolPlaces w).flatMap fun p => [p ++ ["config.json"], p ++ ["logs"]]
  let named := arguments.flatMap (argumentPlaces here)
  let files ← ((here ++ [toolName ++ ".json"]) :: tool).foldlM withPlace ({} : FileSystem)
  let files ← (named ++ (← placesIn here)).foldlM withPackage files
  return { w with files }

/-- Puts an entry where it has changed. -/
def carryOut (before : FileSystem) (token : String) (change : Place × Entry) : IO Unit := do
  if before.find? change.1 ≠ some change.2 then
    match change.2 with
    | .directory => IO.FS.createDirAll (pathOf change.1)
    | .link _ => return ()
    | .file bytes =>
      let temporary := pathOf (FileAction.temporaryFor token change.1)
      IO.FS.writeBinFile temporary bytes
      IO.FS.rename temporary (pathOf change.1)

end ClientGen.Program

open ClientGen in
/-- Runs the tool. -/
def main (arguments : List String) : IO UInt32 := do
  let before ← Program.picture arguments
  let (code, after) := match (run arguments).run before with
    | .ok code w => (code, w)
    | .error (.failure f) w => (f.report.exitCode, { w with diagnosis := f.report.line ++ "\n" })
    | .error (.fault f) w => (1, { w with diagnosis := f.reason ++ "\n" })
  after.files.entries.forM (Program.carryOut before.files before.token)
  (← IO.getStdout).putStr after.output
  (← IO.getStderr).putStr after.diagnosis
  return UInt32.ofNat code.toNat
