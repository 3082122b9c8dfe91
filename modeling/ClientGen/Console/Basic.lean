import ClientGen.Json.Writer
import ClientGen.Settings.Basic
import ClientGen.World.Basic

/-!
# Showing results

Results go to standard output: as JSON, or as lines with tabs between their parts. Messages go to
the diagnosis, and some of them only if they are wanted.

## Main definitions

* `ClientGen.Console` : how results and messages are shown.
* `ClientGen.Console.start` : the console for a wanted format.
* `ClientGen.Console.showValue`, `ClientGen.Console.showTable`, `ClientGen.Console.showFiles` :
  showing results.
* `ClientGen.Console.info`, `ClientGen.Console.error` and others : showing messages.
-/

namespace ClientGen

/-- How results and messages are shown. -/
structure Console where
  /-- The format of results, which is not left open. -/
  format : OutputFormat := .plain
  /-- Messages that only inform are left out. -/
  quiet : Bool := false
  /-- Messages on the way to a result are shown. -/
  verbose : Bool := false

namespace Console

/-- The environment turns colours off. -/
def isColourOff (environment : Table String String) : Bool :=
  (environment.get? "NO_COLOR").isSome || environment.get? "TERM" == some "dumb"

/-- The format for a wanted one: with colours on a terminal that shows them, if it is left open. -/
def settle (wanted : OutputFormat) (terminal colourOff : Bool) : OutputFormat :=
  match wanted with
  | .auto => if terminal && !colourOff then .rich else .plain
  | f => f

/-- The console for a wanted format. -/
def start (wanted : OutputFormat) (noColour quiet verbose : Bool) : Action Console := do
  let w ← Action.see id
  let colourOff := noColour || isColourOff w.environment
  return { format := settle wanted w.terminal colourOff, quiet, verbose }

/-! ### Results -/

/-- Shows a line. -/
def showLine (_ : Console) (s : String) : Action Unit := Action.print (s ++ "\n")

/-- How a value stands in a line: containers as JSON, anything else as it is displayed. -/
def cell (v : Value) : Except Fault String :=
  if v.isMapping || v.isSequence then Json.write .line v else v.shown

/-- Shows the entries of a mapping, one a line. -/
def showEntries (c : Console) : Table Scalar Value → Action Unit
  | [] => return ()
  | (k, v) :: es => do
    let s ← Action.ofFault (cell v)
    c.showLine ((← Action.ofFault (Value.scalar k).shown) ++ "\t" ++ s)
    showEntries c es

/-- Shows a value in lines. -/
def showPlain (c : Console) (v : Value) : Action Unit :=
  match v.entries?, v.items? with
  | some es, _ => c.showEntries es
  | none, some xs => xs.forM fun x => do c.showLine (← Action.ofFault x.shown)
  | none, none => do c.showLine (← Action.ofFault v.shown)

/-- Shows a value in JSON. -/
def showJson (c : Console) (v : Value) : Action Unit := do
  c.showLine (← Action.ofFault (Json.write .indented v))

/-- Shows a value. -/
def showValue (c : Console) (v : Value) : Action Unit :=
  if c.format = .json then c.showJson v else c.showPlain v

/-- The object for a row of a table. -/
def record (headers row : List String) : Value :=
  .ofFields (Table.ofEntries (headers.zip (row.map Value.text)))

/-- Shows a table. -/
def showTable (c : Console) (headers : List String) (rows : List (List String)) : Action Unit :=
  if c.format = .json then c.showJson (.sequence (rows.map (record headers)))
  else (headers :: rows).forM fun row => c.showLine ("\t".intercalate row)

/-- A text without line feeds at its end. -/
def withoutFinalBreaks (s : String) : String :=
  String.ofList (s.toList.reverse.dropWhile (· == '\n')).reverse

/-- Shows files with their texts. -/
def showFiles (c : Console) (files : List (String × String)) : Action Unit :=
  if c.format = .json then
    c.showJson (.ofFields (files.map fun f => (f.1, .text f.2)))
  else files.forM fun f => do
    c.showLine ("// ---- " ++ f.1)
    c.showLine (withoutFinalBreaks f.2)

/-! ### Messages -/

/-- Shows a message. -/
def tell (s : String) : Action Unit := Action.warn (s ++ "\n")

/-- Shows a message that informs. -/
def info (c : Console) (s : String) : Action Unit := if c.quiet then return () else tell s

/-- Shows a message on a success. -/
def success (c : Console) (s : String) : Action Unit := c.info s

/-- Shows a warning. -/
def warning (_ : Console) (s : String) : Action Unit := tell ("Warning: " ++ s)

/-- Shows an error. -/
def error (_ : Console) (s : String) : Action Unit := tell ("Error: " ++ s)

/-- Shows a message on the way to a result. -/
def debug (c : Console) (s : String) : Action Unit :=
  if c.verbose then tell ("[debug] " ++ s) else return ()

end Console

end ClientGen
