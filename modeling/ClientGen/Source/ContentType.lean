import ClientGen.Charset.Label
import ClientGen.Decimal.Reader
import ClientGen.Table
import ClientGen.Text.Blank
import ClientGen.Text.Replace

/-!
# Content types

A content type is a type and parameters, with semicolons between them. The value of a parameter may
stand in quotes, in which semicolons do not count. A value may also be cut into numbered parts, and
a part whose name ends with a star may have its characters written as numbers behind percent signs;
then a character set and a language stand in front of the whole value.

A server may say in a content type in which character set it wrote its answer. An answer without a
known character set counts as UTF-8.

## Main definitions

* `ClientGen.ContentType.parameters` : the parameters of a content type.
* `ClientGen.ContentType.charsetLabel?` : the label of the character set that a content type names.
* `ClientGen.ContentType.textOf` : the text that a body in UTF-8 shows under a content type.
-/

namespace ClientGen.ContentType

/-- Without blanks at both ends. -/
def trimmed (cs : List Char) : List Char := Text.trimWith Text.isBlank cs

/-! ### Cutting at semicolons -/

/-- The quotes that count: those without a backslash in front. -/
def quoteCount (cs : List Char) : Int :=
  cs.count '"' - (cs.zip (cs.drop 1)).count ('\\', '"')

/-- The characters up to a semicolon outside quotes, and those behind it. `before` has the
characters in front, last one first. At the very start a semicolon always counts. -/
def cutFrom (before : List Char) : List Char → List Char × Option (List Char)
  | [] => (before.reverse, none)
  | c :: cs =>
    if c = ';' ∧ (before.isEmpty ∨ quoteCount before.reverse % 2 = 0) then
      (before.reverse, some cs)
    else cutFrom (c :: before) cs

/-- The pieces between semicolons; `fuel` bounds their number. -/
def piecesWithin : Nat → List Char → List (List Char)
  | 0, _ => []
  | fuel + 1, cs =>
    match cutFrom [] cs with
    | (piece, none) => [piece]
    | (piece, some rest) => piece :: piecesWithin fuel rest

/-- The pieces between semicolons. -/
def pieces (cs : List Char) : List (List Char) := piecesWithin (cs.length + 1) cs

/-- The name and the value of a piece: the name in small letters, and an empty value if there is no
equals sign. A piece without a name keeps its case. -/
def namedValue (piece : List Char) : List Char × List Char :=
  let name := piece.takeWhile (· ≠ '=')
  match piece.drop name.length with
  | _ :: value => ((trimmed name).map Char.toLower, trimmed value)
  | [] => (trimmed name, [])

/-- Each backslash in front of another one stands for it, and then each in front of a quote. -/
def withoutBackslashes (cs : List Char) : List Char :=
  Text.replaceAll ['\\', '"'] ['"'] (Text.replaceAll ['\\', '\\'] ['\\'] cs)

/-- Backslashes and quotes with a backslash in front. -/
def withBackslashes (cs : List Char) : List Char :=
  cs.flatMap fun c => if c = '"' ∨ c = '\\' then ['\\', c] else [c]

/-- A value without the quotes or angle brackets around it. -/
def unquoted (cs : List Char) : List Char :=
  let inner := (cs.drop 1).dropLast
  if cs.length < 2 then cs
  else if cs.head? = some '"' ∧ cs.getLast? = some '"' then withoutBackslashes inner
  else if cs.head? = some '<' ∧ cs.getLast? = some '>' then inner
  else cs

/-! ### Values in parts -/

/-- A part of a value. -/
structure Part where
  /-- Its number, if it has one. -/
  number : Option Nat
  /-- Its text. -/
  text : String
  /-- It may have numbers behind percent signs. -/
  isEncoded : Bool
  deriving DecidableEq, Repr

/-- The character may stand in the name of a value in parts. -/
def isNameChar (c : Char) : Bool := c.isAlphanum || c == '_'

/-- The name of the value that a part belongs to, and the number of the part. -/
def partOf? (name : List Char) : Option (List Char × Option Nat) :=
  let whole := name.takeWhile isNameChar
  match whole, name.drop whole.length with
  | [], _ => none
  | _, '*' :: rest =>
    let digits := rest.takeWhile Decimal.isAsciiDigit
    let behind := rest.drop digits.length
    if digits.isEmpty then if behind.isEmpty then some (whole, none) else none
    else if behind = [] ∨ behind = ['*'] then some (whole, some (Decimal.natOf digits))
    else none
  | _, _ => none

/-- Numbers behind percent signs read as the characters of these numbers. -/
def percentDecoded : List Char → List Char
  | '%' :: a :: b :: cs =>
    match Decimal.digitValue? 16 a, Decimal.digitValue? 16 b with
    | some m, some n => Char.ofNat (16 * m + n) :: percentDecoded cs
    | _, _ => '%' :: percentDecoded (a :: b :: cs)
  | c :: cs => c :: percentDecoded cs
  | [] => []

/-- The order of parts without different numbers: that of their texts. -/
def Part.textBefore (a b : Part) : Bool :=
  decide (a.text < b.text) || (a.text == b.text && (!a.isEncoded || b.isEncoded))

/-- The order of the parts of a value: that of their numbers. -/
def Part.before (a b : Part) : Bool :=
  match a.number, b.number with
  | some m, some n => m < n || (m == n && a.textBefore b)
  | _, _ => a.textBefore b

/-- Parts in their order, which they have only if all or none of them have numbers. -/
def ordered (parts : List Part) : Except Fault (List Part) :=
  let numbered := parts.countP fun p => p.number.isSome
  if numbered = 0 ∨ numbered = parts.length then .ok (parts.mergeSort Part.before)
  else .error .unorderedParts

/-- The value of a parameter. -/
inductive Value where
  /-- A text. -/
  | text (cs : List Char)
  /-- A text whose characters stand for the bytes of a character set, if that is told. -/
  | encoded (charset : Option (List Char)) (cs : List Char)
  deriving DecidableEq, Repr

/-- Cuts at the first apostrophe. -/
def cutAtTick (cs : List Char) : Option (List Char × List Char) :=
  let before := cs.takeWhile (· ≠ '\'')
  match cs.drop before.length with
  | _ :: behind => some (before, behind)
  | [] => none

/-- The value that parts make up. Its character set and language are in front of apostrophes. -/
def joined (parts : List Part) : Value :=
  let cs := withBackslashes <| parts.flatMap fun p =>
    if p.isEncoded then percentDecoded p.text.toList else p.text.toList
  if parts.any (·.isEncoded) then
    match (cutAtTick cs).bind fun (charset, rest) => (cutAtTick rest).map (charset, ·.2) with
    | some (charset, cs) => .encoded (some charset) (withoutBackslashes cs)
    | none => .encoded none (withoutBackslashes cs)
  else .text (withoutBackslashes cs)

/-- The part that a name and a value give, with the name of the whole value. -/
def namedPart? (named : List Char × List Char) : Option (List Char × Part) :=
  (partOf? named.1).map fun (whole, number) =>
    (whole, ⟨number, String.ofList (unquoted named.2), named.1.getLast? = some '*'⟩)

/-- Adds a part to those of its value. -/
def addPart (whole : List Char) (p : Part) (t : Table (List Char) (List Part)) :
    Table (List Char) (List Part) :=
  t.insert whole ((t.get? whole).getD [] ++ [p])

/-- A name numbers a part with more digits than are read. -/
def isOvernumbered (name : List Char) : Bool :=
  (partOf? name).any fun (whole, _) =>
    Decimal.digitLimit < ((name.drop (whole.length + 1)).takeWhile Decimal.isAsciiDigit).length

/-- The parameters: the type itself, the values in one piece, and then those in parts. -/
def parameters (contentType : String) : Except Fault (List (List Char × Value)) := do
  let all := (pieces contentType.toList).map namedValue
  let (front, others) := (all.take 1, all.drop 1)
  if others.any fun e => isOvernumbered e.1 then throw .tooManyDigits
  let parts := (others.filterMap namedPart?).foldl (fun t e => addPart e.1 e.2 t) []
  let joint ← parts.mapM fun (name, ps) => return (name, joined (← ordered ps))
  let wholes := front ++ others.filter fun e => (partOf? e.1).isNone
  return wholes.map (fun e => (e.1, .text (unquoted e.2))) ++ joint

/-! ### Character sets -/

/-- The bytes whose numbers are those of the characters, if all of them are numbers of bytes. -/
def bytesOf? (cs : List Char) : Option (List UInt8) :=
  cs.mapM fun c => if c.toNat < 256 then some (UInt8.ofNat c.toNat) else none

/-- The text of a value: its bytes in its character set, if that is known and they all write
characters. -/
def textOfValue : Value → Except Fault (List Char)
  | .text cs => .ok cs
  | .encoded charset cs => do
    let label := match charset with
      | none | some [] => "us-ascii"
      | some l => String.ofList l
    let exact := (← Charset.ofLabel label).bind fun c => (bytesOf? cs).bind c.exactText?
    return (exact.map String.toList).getD cs

/-- The label of the character set that a content type names: that of the first parameter for it,
which has to be in ASCII. -/
def charsetLabel? (contentType : String) : Except Fault (Option String) := do
  let ps ← parameters contentType
  match ps.find? fun p => p.1.map Char.toLower == "charset".toList with
  | none => return none
  | some p =>
    let cs ← textOfValue p.2
    let isAscii := cs.all fun c => c.toNat < 128
    return if isAscii then some (String.ofList (cs.map Char.toLower)) else none

/-- The character set that a content type names, if it is known; otherwise UTF-8. -/
def charset (contentType : Option String) : Except Fault Charset := do
  let named ← match contentType with
    | none => pure none
    | some t => charsetLabel? t
  let known ← match named with
    | none => pure none
    | some label => Charset.ofLabel label
  return known.getD (.utf8 false)

/-- The text that a body in UTF-8 shows under a content type. -/
def textOf (contentType : Option String) (body : String) : Except Fault String := do
  if body.isEmpty then return ""
  (← charset contentType).text body.toUTF8.toList

end ClientGen.ContentType
