import ClientGen.Decimal.Reader
import ClientGen.Yaml.Cursor
import ClientGen.Yaml.Token

/-!
# Anchors, tags and directives

The tokens of this file are words of a limited alphabet behind an indicator. In tags a percent
sign and two hexadecimal digits stand for a byte.

## Main definitions

* `ClientGen.Yaml.Name.anchor` : the name of an anchor or alias.
* `ClientGen.Yaml.Name.tag` : a tag.
* `ClientGen.Yaml.Name.directive` : a directive.
-/

namespace ClientGen.Yaml.Name

/-- The character may stand in the name of an anchor, a handle or a directive. -/
def isWordChar (c : Char) : Bool :=
  ('0' ≤ c && c ≤ '9') || ('A' ≤ c && c ≤ 'Z') || ('a' ≤ c && c ≤ 'z') || c == '-' || c == '_'

/-- The character may stand in the rest of a tag. -/
def isTagChar (c : Char) : Bool :=
  isWordChar c ||
    [';', '/', '?', ':', '@', '&', '=', '+', '$', ',', '.', '!', '~', '*', '\'', '(', ')', '[', ']',
      '%'].contains c

/-- The name behind the indicator of an anchor or an alias. -/
def anchor (c : Cursor) : Except ReadError (String × Cursor) :=
  let (name, c) := c.next.span isWordChar
  if name.isEmpty then .error .malformed
  else if isBlankOrEnd c.head || ['?', ':', ',', ']', '}', '%', '@', '`'].contains c.head then
    .ok (String.ofList name, c)
  else .error .malformed

/-- The bytes that percent signs and pairs of hexadecimal digits write, one after the other, and
the characters after them. -/
def escapedBytes (done : List UInt8) : List Char → Option (List UInt8 × List Char)
  | '%' :: a :: b :: rest =>
    match Decimal.digitValue? 16 a, Decimal.digitValue? 16 b with
    | some m, some n => escapedBytes ((16 * m + n).toUInt8 :: done) rest
    | _, _ => none
  | '%' :: _ => none
  | rest => some (done.reverse, rest)

/-- The text that a word of a tag writes. -/
def unescape (fuel : Nat) (cs : List Char) : Option (List Char) :=
  match fuel, cs with
  | 0, _ => none
  | _, [] => some []
  | fuel + 1, '%' :: rest => do
    let (bytes, rest) ← escapedBytes [] ('%' :: rest)
    let text ← String.fromUTF8? ⟨bytes.toArray⟩
    return text.toList ++ (← unescape fuel rest)
  | fuel + 1, c :: rest => (unescape fuel rest).map (c :: ·)

/-- A word of a tag, with its escapes read. -/
def tagWord (c : Cursor) : Except ReadError (String × Cursor) :=
  let (word, c) := c.span isTagChar
  if word.isEmpty then .error .malformed
  else match unescape (word.length + 1) word with
    | some cs => .ok (String.ofList cs, c)
    | none => .error .malformed

/-- The handle of a tag: an exclamation mark, or a name between two. -/
def handle (c : Cursor) : Except ReadError (String × Cursor) :=
  if c.head != '!' then .error .malformed
  else if c.peek 1 == ' ' then .ok ("!", c.next)
  else
    let (name, c) := c.next.span isWordChar
    if c.head == '!' then .ok (String.ofList ('!' :: name ++ ['!']), c.next) else .error .malformed

/-- Another exclamation mark stands in the word. -/
def hasHandle (c : Cursor) : Bool :=
  (c.next.rest.takeWhile fun x => !isSpaceOrEnd x).contains '!'

/-- A tag: in angle brackets, a single exclamation mark, or a handle and a word. -/
def tag (c : Cursor) : Except ReadError (Token × Cursor) := do
  let (t, c) ←
    if c.peek 1 == '<' then do
      let (word, c) ← tagWord (c.forward 2)
      if c.head == '>' then pure (Token.tag none word, c.next) else throw .malformed
    else if isBlankOrEnd (c.peek 1) then pure (Token.tag none "!", c.next)
    else do
      let (h, c) ← if hasHandle c then handle c else pure ("!", c.next)
      let (word, c) ← tagWord c
      pure (Token.tag (some h) word, c)
  if isSpaceOrEnd c.head then return (t, c) else throw .malformed

/-- A row of decimal digits. -/
def digits (c : Cursor) : Except ReadError (Nat × Cursor) :=
  let (ds, c) := c.span Decimal.isAsciiDigit
  if ds.isEmpty then .error .malformed else .ok (Decimal.natOf ds, c)

/-- The version of the notation. -/
def version (c : Cursor) : Except ReadError (Directive × Cursor) := do
  let (major, c) ← digits (c.skip (· == ' '))
  if c.head != '.' then throw .malformed
  let (minor, c) ← digits c.next
  if isSpaceOrEnd c.head then return (.version major minor, c) else throw .malformed

/-- What a tag handle is short for. -/
def meaning (c : Cursor) : Except ReadError (Directive × Cursor) := do
  let (h, c) ← handle (c.skip (· == ' '))
  if c.head != ' ' then throw .malformed
  let (word, c) ← tagWord (c.skip (· == ' '))
  if isSpaceOrEnd c.head then return (.tag h word, c) else throw .malformed

/-- A directive, to the end of its line. -/
def directive (c : Cursor) : Except ReadError (Token × Cursor) := do
  let (name, c) := c.next.span isWordChar
  if name.isEmpty || !isSpaceOrEnd c.head then throw .malformed
  let (d, c) ←
    if name = ['Y', 'A', 'M', 'L'] then version c
    else if name = ['T', 'A', 'G'] then meaning c
    else pure (.other, c.skip fun x => !isBreakOrEnd x)
  let c := (c.skip (· == ' ')).skipComment
  if isBreakOrEnd c.head then return (.directive d, c.lineBreak.2) else throw .malformed

end ClientGen.Yaml.Name
