import ClientGen.Text.Blank
import ClientGen.World.Basic

/-!
# Directories of the tool

Settings and logs have directories of their own. On systems that follow the convention of base
directories, each stands below the base directory that the environment names, or below a fixed one
in the home directory. On other systems both are in one directory in the home directory.

## Main definitions

* `ClientGen.settingsDirectory`, `ClientGen.dataDirectory` : the two directories, made if they are
  missing.
-/

namespace ClientGen

/-- The name of the tool. -/
def toolName : String := "sdkmaker"

/-- The system follows the convention of base directories. -/
def followsBaseDirectories (platform : String) : Bool :=
  platform == "Linux" || "BSD".toList.isSuffixOf platform.toList

/-- The path of a home directory. A path that starts with a tilde is itself said in terms of a home
directory, and so is none. -/
def homePath (home : String) : Except Fault Path :=
  let s := String.ofList (Text.dropTail (· == '/') home.toList)
  if s.toList.head? = some '~' then .error .noHome
  else .ok (Path.parse (if s.isEmpty then "/" else s))

/-- A directory in the home directory. -/
def inHome (names : List String) : Action Path := do
  let named ← Action.setting? "HOME"
  let home ← Action.ofFault (homePath (named.getD (← Action.see (·.accountHome))))
  return names.foldl Path.child home

/-- The base directory of a kind: the one that is named, or a fixed one in the home directory. -/
def baseDirectory (named : Option String) (fixed : List String) : Action Path :=
  match named with
  | some s => if s.isEmpty then inHome fixed else return Path.parse s
  | none => inHome fixed

/-- Makes a directory, and gives its path. -/
def madeDirectory (p : Path) : Action Path := do
  let here ← Action.see (·.here)
  Action.onFiles (FileAction.makeDirectories here p)
  return p

/-- The directory of the tool: below a base directory, or with further names in the home
directory. -/
def toolDirectory (named : String) (fixed further : List String) : Action Path := do
  if followsBaseDirectories (← Action.see (·.platform)) then
    let base ← baseDirectory (← Action.setting? named) fixed
    madeDirectory (base.child toolName)
  else
    madeDirectory (← inHome (("." ++ toolName) :: further))

/-- The directory of the settings of the user. -/
def settingsDirectory : Action Path := toolDirectory "XDG_CONFIG_HOME" [".config"] []

/-- The directory of logs. -/
def dataDirectory : Action Path := toolDirectory "XDG_DATA_HOME" [".local", "share"] ["logs"]

end ClientGen
