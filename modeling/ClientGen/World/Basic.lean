import ClientGen.World.Files

/-!
# The world of a run

A run of the tool sees files, an environment, standard input and the answers of web servers, and
it leaves files, two streams of text and the requests that it made.

## Main definitions

* `ClientGen.Request`, `ClientGen.Reply` : a request to a web server, and its answer.
* `ClientGen.World` : what a run sees and leaves.
* `ClientGen.Action` : steps of a run.
-/

namespace ClientGen

/-- A request to a web server. -/
structure Request where
  /-- The address. -/
  url : String
  /-- The kinds of content that are accepted. -/
  accept : String
  /-- The time limit in seconds. -/
  timeout : Option Float
  /-- The answer may send the request on to another address. -/
  followRedirects : Bool

/-- The answer to a request. -/
inductive Reply where
  /-- The server answers. -/
  | answered (status : Nat) (text : String) (contentType : Option String)
  /-- The server cannot be reached. -/
  | unreachable (cause : String)
  /-- The address has no well-formed parts. -/
  | malformedAddress

/-- What a run sees and leaves. -/
structure World where
  /-- The files. -/
  files : FileSystem := {}
  /-- The working directory. -/
  here : Place := []
  /-- The environment. -/
  environment : Table String String := []
  /-- The home directory of the account, for an environment that names none. -/
  accountHome : String := "/"
  /-- The name of the operating system. -/
  platform : String := "Linux"
  /-- What standard input holds; nothing if it is closed. -/
  input : Option String := some ""
  /-- How web servers answer. -/
  network : Request → Reply := fun _ => .unreachable "no network"
  /-- Standard output is a terminal. -/
  terminal : Bool := false
  /-- What makes the names of temporary files differ from all others. -/
  token : String
  /-- The present time, as it stands in names of files. -/
  now : String
  /-- The requests made so far. -/
  requests : List Request := []
  /-- What is written to standard output. -/
  output : String := ""
  /-- What is written for diagnosis. -/
  diagnosis : String := ""

/-- Steps of a run. What is changed before a problem stays changed. -/
abbrev Action := EStateM Problem World

namespace Action

/-- A step that cannot fail and only looks. -/
def see {α : Type} (f : World → α) : Action α := fun w => .ok (f w) w

/-- A result, or the problem that stops the run. -/
def ofExcept {α : Type} (x : Except Problem α) : Action α := fun w =>
  match x with
  | .ok a => .ok a w
  | .error p => .error p w

/-- A result, or the fault that stops the run. -/
def ofFault {α : Type} (x : Except Fault α) : Action α := ofExcept (Fault.lift x)

/-- Stops with a failure. -/
def fail {α : Type} (f : Failure) : Action α := throw (.failure f)

/-- An operation on the files, with its fault if it has one. -/
def attempt {α : Type} (x : FileAction α) : Action (Except Fault α) := fun w =>
  match x w.files with
  | .ok a fs => .ok (.ok a) { w with files := fs }
  | .error f fs => .ok (.error f) { w with files := fs }

/-- An operation on the files. -/
def onFiles {α : Type} (x : FileAction α) : Action α := do ofFault (← attempt x)

/-- A look at the files from the working directory. -/
def look {α : Type} (f : FileSystem → Place → Except Fault α) : Action (Except Fault α) :=
  see fun w => f w.files w.here

/-- The value of a variable in the environment. -/
def setting? (name : String) : Action (Option String) := see fun w => w.environment.get? name

/-- Writes text to standard output. -/
def print (s : String) : Action Unit := modify fun w => { w with output := w.output ++ s }

/-- Writes text for diagnosis. -/
def warn (s : String) : Action Unit := modify fun w => { w with diagnosis := w.diagnosis ++ s }

/-- Makes a request. -/
def ask (r : Request) : Action Reply := fun w =>
  .ok (w.network r) { w with requests := w.requests ++ [r] }

end Action

end ClientGen
