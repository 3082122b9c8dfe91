import ClientGen.Json.Reader
import ClientGen.Settings.Basic
import ClientGen.Settings.Directories
import ClientGen.Settings.Merge

/-!
# Layers of settings

The settings of a run come from five layers: the defaults, the file of the user, the file of the
project, the environment, and the command line. A later layer wins over those before it, setting by
setting. Every file has to be an object in JSON, and the file of the user has to be valid by itself.

## Main definitions

* `ClientGen.SettingFlags` : settings on the command line.
* `ClientGen.userSettings`, `ClientGen.projectSettings`, `ClientGen.environmentLayer` : the layers
  below it.
* `ClientGen.withFlags` : the settings of the command line laid over others.
* `ClientGen.resolveSettings` : the settings of a run.
-/

namespace ClientGen

/-- Settings on the command line. -/
structure SettingFlags where
  /-- The controller of operations without a tag. -/
  defaultController : Option String := none
  /-- The mark of internal operations. -/
  internalMarker : Option String := none
  /-- How results are shown. -/
  format : Option String := none

/-- A file is there. -/
def isFile (p : Path) : Action Bool := do
  match ← Action.ofFault (← Action.look fun fs here => fs.status here p) with
  | some (.file _) => return true
  | _ => return false

/-- The object that a text in JSON writes. -/
def objectOf (file : SettingsFile) (p : Path) (text : String) : Except Problem Value :=
  let bad := fun f => Except.error (.failure (.badSettingsFile file p.display f))
  match Json.read text with
  | .ok v => if v.isMapping then .ok v else bad .notAnObject
  | .error .malformed => bad .notJson
  | .error .tooDeep => .error (.fault .depthExceeded)
  | .error (.fault f) => .error (.fault f)

/-- The object in a file; nothing if there is no file. -/
def readObject (file : SettingsFile) (p : Path) : Action (Option Value) := do
  if ← isFile p then
    match ← Action.look fun fs here => fs.readText here p with
    | .ok text => return some (← Action.ofExcept (objectOf file p text))
    | .error f =>
      if FileAction.isRefusal f then
        Action.fail (.badSettingsFile file p.display (.unreadable f))
      else throw (.fault f)
  else return none

/-- The settings in the file of the user; the defaults if there is none. -/
def userSettings : Action Settings := do
  let p := (← settingsDirectory).child "config.json"
  match ← readObject .user p with
  | none => return {}
  | some v =>
    match Settings.ofValue v with
    | .ok s => return s
    | .error n => Action.fail (.badSettingsFile .user p.display (.invalid n))

/-- The object in the file of the project. -/
def projectSettings : Action (Option Value) := do
  let here ← Action.see (·.here)
  readObject .project ((Path.ofPlace here).child (toolName ++ ".json"))

/-- A setting in the environment; an empty text sets nothing. -/
def environmentText? (name : String) : Action (Option String) := do
  return (← Action.setting? name).filter (!·.isEmpty)

/-- The settings in the environment, as a layer. -/
def environmentFields (controller marker timeout : Option String) : Except Failure Fields := do
  let time ← match timeout with
    | none => pure []
    | some s =>
      match Decimal.looseFloat? s.toList with
      | some x => pure [("fetch", Value.ofFields [("timeout", .scalar (.float x))])]
      | none => throw (.badTimeLimit s)
  return (controller.map fun s => ("default_controller", Value.text s)).toList ++
    (marker.map fun s => ("internal_marker", Value.text s)).toList ++ time

/-- The layer of the environment. -/
def environmentLayer : Action Value := do
  let controller ← environmentText? "SDKMAKER_DEFAULT_CONTROLLER"
  let marker ← environmentText? "SDKMAKER_INTERNAL_MARKER"
  let timeout ← environmentText? "SDKMAKER_FETCH_TIMEOUT"
  match environmentFields controller marker timeout with
  | .ok fs => return .ofFields fs
  | .error f => Action.fail f

/-- The value with a text under a key, if there is one. -/
def withText (key : String) (s : Option String) (es : Table Scalar Value) : Table Scalar Value :=
  match s with
  | some s => es.insert (.text key) (.text s)
  | none => es

/-- The entries with the format of the command line, which goes into the mapping of its group. -/
def withFormat (s : Option String) (es : Table Scalar Value) :
    Except Fault (Table Scalar Value) :=
  match s with
  | none => .ok es
  | some s =>
    match (Value.mapping es).field "output" |>.entries? with
    | some os => .ok (es.insert (.text "output") (.mapping (withText "format" (some s) os)))
    | none => .error .missingEntry

/-- Settings with those of the command line laid over them. -/
def withFlags (flags : SettingFlags) (v : Value) : Except Fault Value := do
  let es := withText "default_controller" flags.defaultController (v.entries?.getD [])
  let es := withText "internal_marker" flags.internalMarker es
  return .mapping (← withFormat flags.format es)

/-- The settings of a run. -/
def resolveSettings (flags : SettingFlags) : Action Settings := do
  let user ← userSettings
  let project ← projectSettings
  let data ← Action.ofFault (user.tree.merge (project.getD (.mapping [])))
  let environment ← environmentLayer
  let data ← Action.ofFault (data.merge environment)
  let data ← Action.ofFault (withFlags flags data)
  match Settings.ofValue data with
  | .ok s => return s
  | .error n => Action.fail (.invalidSettings n)

end ClientGen
