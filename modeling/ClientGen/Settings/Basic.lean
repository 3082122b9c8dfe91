import ClientGen.Value.Fields

/-!
# Settings

The settings say how operations are collected, how documents are fetched, and how results are
shown. They are read from a mapping in which every setting may be left out. Settings of other names
are ignored; a setting with an unfit value is counted.

## Main definitions

* `ClientGen.OutputFormat`, `ClientGen.FetchSettings`, `ClientGen.Settings` : settings.
* `ClientGen.Settings.tree` : the settings as a value.
* `ClientGen.Settings.ofValue` : the settings that a value shows, or the number of unfit ones.
-/

namespace ClientGen

/-- How results are shown. -/
inductive OutputFormat where
  /-- As the place where they are shown allows. -/
  | auto
  /-- As JSON. -/
  | json
  /-- As lines of text. -/
  | plain
  /-- With colours. -/
  | rich
  deriving DecidableEq, Repr

namespace OutputFormat

/-- The word for a format. -/
def word : OutputFormat → String
  | auto => "auto"
  | json => "json"
  | plain => "plain"
  | rich => "rich"

/-- The format of a word. -/
def ofWord? : String → Option OutputFormat
  | "auto" => some auto
  | "json" => some json
  | "plain" => some plain
  | "rich" => some rich
  | _ => none

theorem ofWord?_word (f : OutputFormat) : ofWord? f.word = some f := by cases f <;> rfl

end OutputFormat

/-- How documents are fetched. -/
structure FetchSettings where
  /-- The time limit in seconds. -/
  timeout : Option Float := none
  /-- The kinds of content that are accepted. -/
  accept : String := "application/json, application/yaml, text/yaml"
  /-- The answer may send the request on to another address. -/
  followRedirects : Bool := true
  deriving DecidableEq

/-- The settings. -/
structure Settings where
  /-- The controller of operations without a tag. -/
  defaultController : String := "DefaultController"
  /-- The mark of internal operations. -/
  internalMarker : String := "Controller_"
  /-- How documents are fetched. -/
  fetch : FetchSettings := {}
  /-- How results are shown. -/
  format : OutputFormat := .auto
  deriving DecidableEq

/-- A time limit as a value. -/
def FetchSettings.timeoutValue : Option Float → Value
  | some x => .scalar (.float x)
  | none => .null

/-- The settings for fetching as a value. -/
def FetchSettings.tree (s : FetchSettings) : Value :=
  .ofFields
    [("timeout", timeoutValue s.timeout), ("accept", .text s.accept),
      ("follow_redirects", .bool s.followRedirects)]

/-- The settings as a value. -/
def Settings.tree (s : Settings) : Value :=
  .ofFields
    [("default_controller", .text s.defaultController), ("internal_marker", .text s.internalMarker),
      ("fetch", s.fetch.tree), ("output", .ofFields [("format", .text s.format.word)])]

/-- What is read from a value, or the number of unfit parts. -/
abbrev Reading (α : Type) := Except Nat α

namespace Reading

/-- Reads two things and counts the unfit parts of both. -/
def both {α β : Type} : Reading α → Reading β → Reading (α × β)
  | .ok a, .ok b => .ok (a, b)
  | .error m, .error n => .error (m + n)
  | .error m, .ok _ => .error m
  | .ok _, .error n => .error n

/-- Reads an entry that may be left out. -/
def setting {α : Type} (v : Value) (key : String) (default : α) (read : Value → Reading α) :
    Reading α :=
  match v.get? key with
  | some x => read x
  | none => .ok default

/-- Reads a value of one part. -/
def part {α : Type} (read : Value → Option α) (v : Value) : Reading α :=
  match read v with
  | some x => .ok x
  | none => .error 1

/-- Reads the entries of a mapping; any other value is one unfit part. -/
def entries {α : Type} (read : Value → Reading α) (v : Value) : Reading α :=
  if v.isMapping then read v else .error 1

end Reading

open Reading

/-- A number or null. -/
def readTimeout : Value → Option (Option Float)
  | .scalar .null => some none
  | v => v.asFloat?.map some

/-- The settings for fetching that a mapping shows. -/
def FetchSettings.ofValue : Value → Reading FetchSettings :=
  entries fun v =>
    let d : FetchSettings := {}
    (both (setting v "timeout" d.timeout (part readTimeout))
      (both (setting v "accept" d.accept (part Value.asText?))
        (setting v "follow_redirects" d.followRedirects (part Value.asBool?)))).map
      fun (timeout, accept, followRedirects) => { timeout, accept, followRedirects }

/-- The format that a mapping shows. -/
def OutputFormat.ofValue : Value → Reading OutputFormat :=
  entries fun v =>
    setting v "format" .auto (part fun x => x.text?.bind OutputFormat.ofWord?)

/-- The settings that a mapping shows. -/
def Settings.ofValue : Value → Reading Settings :=
  entries fun v =>
    let d : Settings := {}
    (both (setting v "default_controller" d.defaultController (part Value.asText?))
      (both (setting v "internal_marker" d.internalMarker (part Value.asText?))
        (both (setting v "fetch" d.fetch FetchSettings.ofValue)
          (setting v "output" d.format OutputFormat.ofValue)))).map
      fun (defaultController, internalMarker, fetch, format) =>
        { defaultController, internalMarker, fetch, format }

end ClientGen
