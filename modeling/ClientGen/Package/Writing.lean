import ClientGen.World.Basic

/-!
# Writing files

Files are written below a directory, one after the other. A file that would land elsewhere is
refused, and so are all after it.

## Main definitions

* `ClientGen.Package.isBelow` : a place is below another one, or the same.
* `ClientGen.Package.writeFiles` : writing files.
-/

namespace ClientGen.Package

/-- The place is below another one, or the same. -/
def isBelow (root place : Place) : Bool := root.isPrefixOf place

/-- The place of a file below a directory. -/
def targetOf (fs : FileSystem) (root : Place) (relative : String) : Except Fault Place :=
  fs.resolve [] ((Path.ofPlace root).join (Path.parse relative))

/-- Writes a file below a directory, and gives its place. -/
def writeBelow (token : String) (root : Place) (relative text : String) :
    EStateM Problem FileSystem Place := fun fs =>
  match targetOf fs root relative with
  | .error f => .error (.fault f) fs
  | .ok target =>
    if isBelow root target then
      match FileAction.writeFile token target text fs with
      | .ok () fs => .ok target fs
      | .error f fs =>
        if f = .zeroInName then .error (.fault f) fs
        else .error (.failure (.writeRefused (Path.ofPlace target).display f)) fs
    else .error (.failure (.escapingPath relative)) fs

/-- Writes files below a directory, and gives their places. -/
def writeAll (token : String) (root : Place) :
    List (String × String) → EStateM Problem FileSystem (List Place)
  | [] => return []
  | (relative, text) :: rest => do
    let place ← writeBelow token root relative text
    return place :: (← writeAll token root rest)

/-- Writes files below the directory at a path, and gives their places. -/
def writeFiles (dir : Path) (files : List (String × String)) : Action (List Place) := fun w =>
  match w.files.resolve w.here dir with
  | .error f => .error (.fault f) w
  | .ok root =>
    match writeAll w.token root files w.files with
    | .ok places fs => .ok places { w with files := fs }
    | .error p fs => .error p { w with files := fs }

end ClientGen.Package
