import ClientGen.Text.LowerCase

/-!
# Paths

A path is a list of names, in front of which one or two slashes may stand. Doubled slashes, slashes
at the end and single dots do not count. Two dots lead to the directory above. Where a path leads
depends on the links on the way: what is said of it here is said of a way without links.

## Main definitions

* `ClientGen.Path` : paths.
* `ClientGen.Path.parse`, `ClientGen.Path.display` : reading and writing a path.
* `ClientGen.Path.join`, `ClientGen.Path.child`, `ClientGen.Path.suffix` : parts of paths.
* `ClientGen.Path.start`, `ClientGen.Path.placeFrom` : where the way along a path starts, and where
  it leads if there are no links on it.
-/

namespace ClientGen

/-- Where a path starts. -/
inductive Anchor where
  /-- In the working directory. -/
  | here
  /-- In the root directory. -/
  | root
  /-- In the root directory, written with two slashes. -/
  | doubleRoot
  deriving DecidableEq, Repr

/-- How the start of a path is written. -/
def Anchor.display : Anchor → String
  | here => ""
  | root => "/"
  | doubleRoot => "//"

/-- Paths. -/
structure Path where
  /-- Where the path starts. -/
  anchor : Anchor
  /-- The names on the way. -/
  names : List String
  deriving DecidableEq, Repr

/-- A place in a file system: the names on the way from the root directory. -/
abbrev Place := List String

namespace Path

/-- Where a path with that many slashes in front starts. -/
def anchorOf (slashes : Nat) : Anchor :=
  if slashes = 0 then .here else if slashes = 2 then .doubleRoot else .root

/-- The path that a text writes. -/
def parse (s : String) : Path :=
  { anchor := anchorOf (s.toList.takeWhile (· == '/')).length
    names := ((s.toList.splitOn '/').map String.ofList).filter fun n => n ≠ "" ∧ n ≠ "." }

/-- How a path is written. -/
def display (p : Path) : String :=
  if p.anchor = .here ∧ p.names = [] then "." else p.anchor.display ++ "/".intercalate p.names

/-- The path that leads on from another one. -/
def join (p q : Path) : Path :=
  if q.anchor = .here then { p with names := p.names ++ q.names } else q

/-- The path with one more name. -/
def child (p : Path) (name : String) : Path := { p with names := p.names ++ [name] }

/-- The last name; empty if there is none. -/
def name (p : Path) : String := p.names.getLastD ""

/-- What follows the last dot of a name, with the dot; empty if the dot is at the start or at the
end. -/
def suffixOf (name : List Char) : List Char :=
  let ending := (name.reverse.takeWhile (· != '.')).reverse
  if ending.isEmpty || name.length ≤ ending.length + 1 then [] else '.' :: ending

/-- The suffix of the last name, in small letters. -/
def suffix (p : Path) : String :=
  String.ofList ((suffixOf p.name.toList).flatMap Text.lowerChar)

/-- A step on the way from a place: two dots lead up. -/
def step (place : Place) (name : String) : Place :=
  if name = ".." then place.dropLast else place ++ [name]

/-- The place where the way along a path starts, seen from a directory. -/
def start (here : Place) (p : Path) : Place := if p.anchor = .here then here else []

/-- The place that a path names, seen from a directory, if no link stands on the way. -/
def placeFrom (here : Place) (p : Path) : Place := p.names.foldl step (p.start here)

/-- The path from the root directory to a place. -/
def ofPlace (place : Place) : Path := { anchor := .root, names := place }

/-- The zero character stands in the path. -/
def hasZero (p : Path) : Bool := p.names.any fun n => n.toList.contains (Char.ofNat 0)

end Path

end ClientGen
