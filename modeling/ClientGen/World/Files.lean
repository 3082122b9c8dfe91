import ClientGen.Failure
import ClientGen.World.Path

/-!
# File systems

A file system is a table of places with a directory, a file or a link at each; every directory on
the way to a place is in the table too. An operation on a path walks from directory to directory and
follows links. It fails where a name is missing, is no directory, or is too long, and where there
are too many links; then it changes nothing. Writing a text fails where there is no room for all of
it, and then leaves the first part.

A path can also be resolved: links are followed wherever they are, and what is missing may be
missing. What a path resolves to is a place with no link on the way.

## Main definitions

* `ClientGen.FileSystem` : file systems.
* `ClientGen.FileSystem.find?`, `ClientGen.FileSystem.locate`, `ClientGen.FileSystem.status` : what
  stands at a place and at a path.
* `ClientGen.FileSystem.resolve` : the place that a path resolves to.
* `ClientGen.FileSystem.readText` : the text of a file.
* `ClientGen.FileAction` : operations that may change a file system.
* `ClientGen.FileAction.makeDirectories`, `ClientGen.FileAction.fill`, `ClientGen.FileAction.move`,
  `ClientGen.FileAction.replaceFile` : such operations.
-/

namespace ClientGen

/-- What stands at a place. -/
inductive Entry where
  /-- A directory. -/
  | directory
  /-- A file with the given bytes. -/
  | file (bytes : ByteArray)
  /-- A link to a path, which is seen from the directory that the link stands in. -/
  | link (target : Path)

instance : DecidableEq Entry
  | .directory, .directory => isTrue rfl
  | .file a, .file b => match ByteArray.instDecidableEq a b with
    | isTrue h => isTrue (congrArg Entry.file h)
    | isFalse h => isFalse fun e => h (Entry.file.inj e)
  | .link p, .link q => if h : p = q then isTrue (congrArg Entry.link h)
    else isFalse fun e => h (Entry.link.inj e)
  | .directory, .file _ | .directory, .link _ => isFalse nofun
  | .file _, .directory | .file _, .link _ => isFalse nofun
  | .link _, .directory | .link _, .file _ => isFalse nofun

/-- File systems. -/
structure FileSystem where
  /-- What stands at the places other than the root directory. -/
  entries : Table Place Entry := []
  /-- The number of bytes that a file at a place has room for; none if there is no bound. -/
  room : Place → Option Nat := fun _ => none

namespace FileSystem

/-- What stands at a place. -/
def find? (fs : FileSystem) (place : Place) : Option Entry :=
  if place = [] then some .directory else fs.entries.get? place

/-- Puts an entry at a place. -/
def put (fs : FileSystem) (place : Place) (entry : Entry) : FileSystem :=
  { fs with entries := fs.entries.insert place entry }

/-- Leaves a place empty. -/
def remove (fs : FileSystem) (place : Place) : FileSystem :=
  { fs with entries := fs.entries.erase place }

theorem find?_put_self {place : Place} (h : place ≠ []) (fs : FileSystem) (entry : Entry) :
    (fs.put place entry).find? place = some entry := by
  simp [find?, put, h, Table.get?_insert_self]

theorem find?_put_of_ne {place other : Place} (h : other ≠ place) (fs : FileSystem)
    (entry : Entry) : (fs.put place entry).find? other = fs.find? other := by
  simp [find?, put, Table.get?_insert_of_ne h]

theorem find?_remove_self {place : Place} (h : place ≠ []) (fs : FileSystem) :
    (fs.remove place).find? place = none := by
  simp [find?, remove, h, Table.get?_erase_self]

theorem find?_remove_of_ne {place other : Place} (h : other ≠ place) (fs : FileSystem) :
    (fs.remove place).find? other = fs.find? other := by
  simp [find?, remove, Table.get?_erase_of_ne h]

/-- The greatest number of bytes of a name. -/
def nameLimit : Nat := 255

/-- The number of bytes that a whole path has to stay below. -/
def pathLimit : Nat := 4096

/-- The greatest number of links that are followed on the way along a path. -/
def linkLimit : Nat := 40

/-- Walks from a directory along names to a place, and tells what stands there. At a link the walk
is left to `follow`; a link at the end is where the walk ends unless it leads `through`. -/
def walkWith (fs : FileSystem) (through : Bool)
    (follow : Place → List String → Except FileFault (Place × Option Entry)) (place : Place) :
    List String → Except FileFault (Place × Option Entry)
  | [] => .ok (place, some .directory)
  | n :: ns =>
    if n = ".." then fs.walkWith through follow place.dropLast ns
    else if nameLimit < n.utf8ByteSize then .error .nameTooLong
    else
      let next := place ++ [n]
      match fs.find? next with
      | some .directory => fs.walkWith through follow next ns
      | some (.link target) =>
        if ns.isEmpty && !through then .ok (next, some (.link target))
        else follow (target.start place) (target.names ++ ns)
      | entry =>
        if ns.isEmpty then .ok (next, entry)
        else .error (if entry.isSome then .notDirectory else .missing)

/-- Walks from a directory along names to a place, follows up to so many links on the way, and tells
what stands there. -/
def walk (fs : FileSystem) (through : Bool) :
    Nat → Place → List String → Except FileFault (Place × Option Entry)
  | 0 => fs.walkWith through fun _ _ => .error .tooManyLinks
  | links + 1 => fs.walkWith through (fs.walk through links)

/-- The place that a path leads to, and what stands there. A link at the end is followed if the way
leads `through` it. -/
def locate (fs : FileSystem) (here : Place) (p : Path) (through : Bool := true) :
    Except Fault (Place × Option Entry) :=
  if p.hasZero then .error .zeroInName
  else if pathLimit ≤ p.display.utf8ByteSize then .error (.file .nameTooLong p.display)
  else
    match fs.walk through linkLimit (p.start here) p.names with
    | .ok found => .ok found
    | .error f => .error (.file f p.display)

/-- The path that a link at a place leads to; none if no link stands there. -/
def link? (fs : FileSystem) (place : Place) : Option Path :=
  match fs.find? place with
  | some (.link target) => some target
  | _ => none

/-- The place that names lead to from a place. What a link leads to is left to `follow`. -/
def resolveWith (fs : FileSystem) (follow : Place → Place → Path → Except Fault Place)
    (place : Place) : List String → Except Fault Place
  | [] => .ok place
  | n :: ns =>
    if n = ".." then fs.resolveWith follow place.dropLast ns
    else if n.toList.contains (Char.ofNat 0) then .error .zeroInName
    else
      match fs.link? (place ++ [n]) with
      | none => fs.resolveWith follow (place ++ [n]) ns
      | some target =>
        match follow place (place ++ [n]) target with
        | .ok next => fs.resolveWith follow next ns
        | .error f => .error f

/-- The place that names lead to from a place. The links in `inside` are being followed, and as many
more may be inside each other as the number says. -/
def resolveWithin (fs : FileSystem) : Nat → List Place → Place → List String → Except Fault Place
  | 0, _ => fun _ _ => .error .depthExceeded
  | depth + 1, inside => fs.resolveWith fun place link target =>
    if inside.contains link then .error .endlessLinks
    else fs.resolveWithin depth (link :: inside) (target.start place) target.names

/-- The place that a path resolves to, seen from a directory. Nothing needs to stand there, nor on
the way. -/
def resolve (fs : FileSystem) (here : Place) (p : Path) : Except Fault Place :=
  fs.resolveWithin callLimit [] (p.start here) p.names

/-- What stands at a path; nothing also where the way to it breaks off. -/
def status (fs : FileSystem) (here : Place) (p : Path) : Except Fault (Option Entry) :=
  match fs.locate here p with
  | .ok found => .ok found.2
  | .error (.file .nameTooLong s) => .error (.file .nameTooLong s)
  | .error _ => .ok none

/-- Turns every line end of a carriage return, with or without a line feed, into a line feed. -/
def unifyBreaks : List Char → List Char
  | [] => []
  | '\r' :: '\n' :: cs => '\n' :: unifyBreaks cs
  | '\r' :: cs => '\n' :: unifyBreaks cs
  | c :: cs => c :: unifyBreaks cs

/-- The text that bytes write. -/
def textOf (bytes : ByteArray) : Except Fault String :=
  match String.fromUTF8? bytes with
  | some s => .ok (String.ofList (unifyBreaks s.toList))
  | none => .error .undecodableText

/-- The text of the file at a path. -/
def readText (fs : FileSystem) (here : Place) (p : Path) : Except Fault String :=
  match fs.locate here p with
  | .error f => .error f
  | .ok (_, none) => .error (.file .missing p.display)
  | .ok (_, some .directory) => .error (.file .isDirectory p.display)
  | .ok (_, some (.link _)) => .error (.file .tooManyLinks p.display)
  | .ok (_, some (.file bytes)) => textOf bytes

end FileSystem

/-- Operations that may change a file system. What is changed before a fault stays changed. -/
abbrev FileAction := EStateM Fault FileSystem

namespace FileAction

/-- An operation that only looks. -/
def look {α : Type} (f : FileSystem → Except Fault α) : FileAction α := fun fs =>
  match f fs with
  | .ok x => .ok x fs
  | .error e => .error e fs

/-- Makes a directory in a directory. A link at the end of the path is not followed. -/
def makeDirectory (here : Place) (p : Path) : FileAction Unit := fun fs =>
  match fs.locate here p false with
  | .error f => .error f fs
  | .ok (_, some _) => .error (.file .occupied p.display) fs
  | .ok (place, none) => .ok () (fs.put place .directory)

/-- Lets a fault of the file system pass if a directory stands at the path all the same. -/
def unlessDirectory (here : Place) (p : Path) (fault : Fault) : FileAction Unit := do
  match ← look fun fs => fs.status here p with
  | some .directory => return ()
  | _ => throw fault

/-- The fault comes from the file system. -/
def isRefusal : Fault → Bool
  | .file .. => true
  | _ => false

/-- Makes a directory unless there is one. -/
def ensureDirectory (here : Place) (p : Path) : FileAction Unit :=
  tryCatch (makeDirectory here p) fun f =>
    if isRefusal f then unlessDirectory here p f else throw f

/-- Makes the directory of the first `n` names of a path, and those on the way that are missing. -/
def makeFirst (here : Place) (p : Path) : Nat → FileAction Unit
  | 0 => ensureDirectory here { p with names := [] }
  | n + 1 =>
    let q : Path := { p with names := p.names.take (n + 1) }
    tryCatch (makeDirectory here q) fun f =>
      match f with
      | .file .missing _ => do
        makeFirst here p n
        ensureDirectory here q
      | f => if isRefusal f then unlessDirectory here q f else throw f

/-- Makes a directory, and those on the way that are missing. -/
def makeDirectories (here : Place) (p : Path) : FileAction Unit := makeFirst here p p.names.length

/-- Opens a file for a text: an empty file is at its place then. -/
def openFile (here : Place) (p : Path) : FileAction Place := fun fs =>
  match fs.locate here p with
  | .error f => .error f fs
  | .ok (_, some .directory) => .error (.file .isDirectory p.display) fs
  | .ok (place, _) => .ok place (fs.put place (.file .empty))

/-- Writes a text into a file that is open. Where there is no room for it, a first part of it is
written. -/
def fill (place : Place) (text : String) : FileAction Unit := fun fs =>
  match fs.room place with
  | none => .ok () (fs.put place (.file text.toUTF8))
  | some n =>
    if text.toUTF8.size ≤ n then .ok () (fs.put place (.file text.toUTF8))
    else .error (.writing .noRoom) (fs.put place (.file (text.toUTF8.extract 0 n)))

/-- Writes a file in place. -/
def overwrite (here : Place) (p : Path) (text : String) : FileAction Unit := do
  fill (← openFile here p) text

/-- The place of the file that is written first and then put in the place of another. -/
def temporaryFor (token : String) (target : Place) : Place :=
  target.dropLast ++ ["." ++ target.getLastD "" ++ "." ++ token ++ ".tmp"]

/-- Moves a file to the place of another one; a directory is not replaced. -/
def move (source target : Place) : FileAction Unit := fun fs =>
  match fs.find? source, fs.find? target with
  | none, _ => .error (.file .missing (Path.ofPlace source).display) fs
  | some _, some .directory =>
    .error (.replacing .isDirectory (Path.ofPlace source).display (Path.ofPlace target).display) fs
  | some entry, _ => .ok () ((fs.remove source).put target entry)

/-- Writes a file in a directory that is there. The text is written to a file of another name
first, which then takes the place of the target, so no file with a part of the text is ever seen
there. If the text cannot be written, or the file cannot take the place, it is removed. -/
def replaceFile (token : String) (target : Place) (text : String) : FileAction Unit := do
  let temporary ← openFile [] (Path.ofPlace (temporaryFor token target))
  tryCatch (do fill temporary text; move temporary target) fun f => do
    modify fun fs => fs.remove temporary
    throw f

/-- Writes a file, and makes the directories on the way to it. -/
def writeFile (token : String) (target : Place) (text : String) : FileAction Unit := do
  makeDirectories [] (Path.ofPlace target.dropLast)
  replaceFile token target text

end FileAction

end ClientGen
