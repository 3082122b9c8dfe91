import ClientGen.Decoding
import ClientGen.Document.Normal
import ClientGen.Settings.Basic
import ClientGen.Source.ContentType
import ClientGen.Source.WebAddress
import ClientGen.Text.Replace
import ClientGen.World.Basic

/-!
# Where documents come from

A locator names standard input, a web address or a file, or it is the text of the document itself.
It is the text if it has the field that every document has and is no web address.

## Main definitions

* `ClientGen.Locator`, `ClientGen.Locator.ofText?` : locators.
* `ClientGen.Loaded` : the text of a document, with its origin.
* `ClientGen.load` : the text that a locator leads to.
* `ClientGen.loadDocument` : the document in its canonical form.
-/

namespace ClientGen

/-- Locators. -/
inductive Locator where
  /-- Standard input. -/
  | standardInput
  /-- A web address. -/
  | web (url : String)
  /-- The path of a file. -/
  | file (path : String)
  /-- The text of the document itself. -/
  | literal (text : String)
  deriving DecidableEq, Repr

namespace Locator

/-- The marks by which the text of a document is told from a path. -/
def literalMarks : List String := ["openapi:", "\"openapi\":", "swagger:", "\"swagger\":"]

/-- The text has one of the marks of documents. -/
def isLiteral (s : String) : Bool := literalMarks.any fun m => Text.holds m.toList s.toList

/-- The locator that a text is; an empty text is none. -/
def ofText? (s : String) : Option Locator :=
  if s.isEmpty then none
  else if s = "-" then some standardInput
  else if WebAddress.isWebAddress s then some (web s)
  else if isLiteral s then some (literal s)
  else some (file s)

/-- How the kind of a locator is called. -/
def kind : Locator → String
  | standardInput => "stdin"
  | web _ => "url"
  | file _ => "file"
  | literal _ => "literal"

end Locator

/-- The text of a document, with its origin. -/
structure Loaded where
  /-- The text. -/
  content : String
  /-- The kind of content: what the server says, or what the suffix of the file suggests. -/
  contentType : String := ""
  /-- Where the text comes from. -/
  locator : Locator

/-- The kind of content that the suffix of a file suggests. -/
def contentTypeOf (suffix : String) : String :=
  if suffix = ".json" then "application/json"
  else if suffix = ".yaml" ∨ suffix = ".yml" then "application/yaml"
  else ""

/-- The text of standard input, which has to hold more than blanks. -/
def loadInput : Action Loaded := do
  match ← Action.see (·.input) with
  | none => Action.fail (.stdinUnreadable "I/O operation on closed file")
  | some s =>
    if (Text.trim s).isEmpty then Action.fail .stdinEmpty
    else return { content := s, locator := .standardInput }

/-- The status of an answer is a success. -/
def isSuccess (status : Nat) : Bool := 200 ≤ status && status < 300

/-- The text can stand in a field of an answer: it is in ASCII. -/
def isWritable (field : String) : Bool := field.toList.all fun c => c.toNat < 128

/-- The text at a web address, which is asked for once. -/
def loadWeb (url : String) (fetch : FetchSettings) : Action Loaded := do
  let request : Request :=
    { url, accept := fetch.accept, timeout := fetch.timeout,
      followRedirects := fetch.followRedirects }
  match ← Action.ask request with
  | .answered status text contentType =>
    if !isWritable (contentType.getD "") then throw (.fault .unwritableField)
    else if isSuccess status then
      let content ← Action.ofFault (ContentType.textOf contentType text)
      return { content, contentType := contentType.getD "", locator := .web url }
    else Action.fail (.httpStatus url status)
  | .unreachable cause => Action.fail (.unreachable url cause)
  | .malformedAddress => throw (.fault .malformedAddress)

/-- The fault is one that a file has, not one of its name. -/
def isFileFault : Fault → Bool
  | .undecodableText => true
  | f => FileAction.isRefusal f

/-- The text of a file. -/
def loadFile (path : String) : Action Loaded := do
  let here ← Action.see (·.here)
  let p := (Path.ofPlace here).join (Path.parse path)
  match ← Action.look fun fs here => fs.readText here p with
  | .ok content => return { content, contentType := contentTypeOf p.suffix, locator := .file path }
  | .error f =>
    if isFileFault f then Action.fail (.fileUnreadable p.display f) else throw (.fault f)

/-- The text that a locator leads to. -/
def load (locator : String) (fetch : FetchSettings) : Action Loaded :=
  match Locator.ofText? locator with
  | none => Action.fail .notALocator
  | some .standardInput => loadInput
  | some (.web url) => loadWeb url fetch
  | some (.file path) => loadFile path
  | some (.literal text) => return { content := text, locator := .literal text }

/-- The document that a locator leads to, in its canonical form. -/
def loadDocument (locator : String) (fetch : FetchSettings) : Action Document := do
  let loaded ← load locator fetch
  Action.ofExcept do Document.normalize (← decode loaded.content)

end ClientGen
