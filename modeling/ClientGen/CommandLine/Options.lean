/-!
# Options of a command line

Arguments that start with a hyphen are options; a single hyphen is none, and two hyphens alone end
the options. A long option has its value after an equals sign or in the next argument. Short options
may stand together behind one hyphen; the value of the last one may follow at once.

## Main definitions

* `ClientGen.OptionSpec` : an option.
* `ClientGen.Scanned` : the options that are given, and the other arguments.
* `ClientGen.OptionSpec.scan` : reading arguments.
-/

namespace ClientGen

/-- An option. -/
structure OptionSpec where
  /-- What the option is called in the result. -/
  key : String
  /-- The ways to write it, with their hyphens. -/
  names : List String
  /-- The option has a value. -/
  takesValue : Bool := false

/-- The options that are given, with their values, and the other arguments. -/
structure Scanned where
  /-- The options in order. A flag has an empty value. -/
  options : List (String × String) := []
  /-- The other arguments. -/
  arguments : List String := []

namespace Scanned

/-- The option is given. -/
def has (s : Scanned) (key : String) : Bool := s.options.any fun o => o.1 = key

/-- The value of an option; the last one counts. -/
def value? (s : Scanned) (key : String) : Option String := List.lookup key s.options.reverse

end Scanned

namespace OptionSpec

/-- Options in an argument, and the one among them that has its value in the next argument. -/
abbrev Given := List (String × String) × Option String

/-- The option that is written in a way. -/
def find? (specs : List OptionSpec) (name : String) : Option OptionSpec :=
  specs.find? fun s => s.names.contains name

/-- The argument is an option. -/
def isOption (argument : String) : Bool :=
  match argument.toList with
  | '-' :: _ :: _ => true
  | _ => false

/-- Options behind one hyphen. -/
def readShort (specs : List OptionSpec) : List Char → Option Given
  | [] => some ([], none)
  | c :: cs =>
    match find? specs (String.ofList ['-', c]) with
    | none => none
    | some s =>
      if s.takesValue then
        if cs.isEmpty then some ([], some s.key) else some ([(s.key, String.ofList cs)], none)
      else (readShort specs cs).map fun given => ((s.key, "") :: given.1, given.2)

/-- A long option, with the value after its equals sign. -/
def readLong (s : OptionSpec) (value : Option String) : Option Given :=
  match s.takesValue, value with
  | true, some v => some ([(s.key, v)], none)
  | true, none => some ([], some s.key)
  | false, some _ => none
  | false, none => some ([(s.key, "")], none)

/-- The name in front of an equals sign, and the value behind it. -/
def splitValue (argument : List Char) : List Char × Option String :=
  let name := argument.takeWhile (· != '=')
  match argument.drop name.length with
  | _ :: value => (name, some (String.ofList value))
  | [] => (name, none)

/-- The way to write an option is a long one. -/
def isLong (name : List Char) : Bool :=
  match name with
  | '-' :: '-' :: _ :: _ => true
  | _ => false

/-- The options in an argument. -/
def read (specs : List OptionSpec) (argument : String) : Option Given :=
  let (name, value) := splitValue argument.toList
  match if isLong name then find? specs (String.ofList name) else none with
  | some s => readLong s value
  | none =>
    match argument.toList with
    | '-' :: '-' :: _ => none
    | _ :: cs => readShort specs cs
    | [] => none

/-- Adds options in front. -/
def withGiven (options : List (String × String)) (s : Scanned) : Scanned :=
  { s with options := options ++ s.options }

/-- Reads arguments. Unless options may stand behind other arguments, the first of these ends the
options. -/
def scan (specs : List OptionSpec) (interspersed : Bool) : List String → Option Scanned
  | [] => some {}
  | a :: rest =>
    if a = "--" then some { arguments := rest }
    else if isOption a then
      match read specs a with
      | none => none
      | some (options, none) => (scan specs interspersed rest).map (withGiven options)
      | some (options, some key) =>
        match rest with
        | [] => none
        | v :: rest => (scan specs interspersed rest).map (withGiven (options ++ [(key, v)]))
    else if interspersed then
      (scan specs interspersed rest).map fun s => { s with arguments := a :: s.arguments }
    else some { arguments := a :: rest }

end OptionSpec

end ClientGen
