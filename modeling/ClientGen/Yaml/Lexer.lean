import ClientGen.Yaml.Block
import ClientGen.Yaml.Name
import ClientGen.Yaml.Plain
import ClientGen.Yaml.Quoted

/-!
# Cutting a text into YAML tokens

The lexer reads one token at a time. Outside of brackets it keeps the indentations of the open
block collections, and closes those that are indented further than the next token. A node that is
followed by a colon turns out to be a key only then; so the lexer remembers, for every level of
brackets, the place where a key may have started, and inserts the token for the key there. A key
stays on one line and within `Lexer.keyLength` characters.

## Main definitions

* `ClientGen.Yaml.Lexer` : the state between two tokens.
* `ClientGen.Yaml.Lexer.step` : reading the next token.
* `ClientGen.Yaml.tokens` : the tokens of a text.
-/

namespace ClientGen.Yaml

/-- A place where a key may have started. -/
structure KeyStart where
  /-- The number of the key's first token. -/
  token : Nat
  /-- Nothing but a key can stand there. -/
  required : Bool
  /-- How many characters stand before it. -/
  index : Nat
  /-- Its line. -/
  line : Nat
  /-- Its column. -/
  column : Nat

/-- The state between two tokens. -/
structure Lexer where
  /-- The text that is still to be read. -/
  cursor : Cursor
  /-- More than the number of characters of the whole text. -/
  fuel : Nat
  /-- The tokens so far. -/
  tokens : Array Token
  /-- How many brackets and braces are open. -/
  flowLevel : Nat
  /-- The indentation of the innermost open block collection; -1 if there is none. -/
  indent : Int
  /-- The indentations of the block collections around it. -/
  indents : List Int
  /-- A key may start at the next token. -/
  keyAllowed : Bool
  /-- The places where keys may have started, by the level of brackets. -/
  keyStarts : List (Nat × KeyStart)
  /-- The text is read. -/
  done : Bool

namespace Lexer

/-- The greatest distance between the start of a key and its colon. -/
def keyLength : Nat := 1024

/-- The lexer at the start of a text. -/
def start (cs : List Char) : Lexer :=
  { cursor := ⟨cs, 0, 0, 0⟩, fuel := cs.length + 2, tokens := #[], flowLevel := 0, indent := -1,
    indents := [], keyAllowed := true, keyStarts := [], done := false }

/-- The next token stands inside brackets or braces. -/
def inFlow (l : Lexer) : Bool := l.flowLevel != 0

/-- Appends a token. -/
def push (l : Lexer) (t : Token) : Lexer := { l with tokens := l.tokens.push t }

/-- Moves on over spaces, comments and line ends. -/
def skipBlanks (fuel : Nat) (l : Lexer) : Lexer :=
  match fuel with
  | 0 => l
  | fuel + 1 =>
    let c := (l.cursor.skip (· == ' ')).skipComment
    if isBreak c.head then
      skipBlanks fuel { l with cursor := c.lineBreak.2, keyAllowed := l.keyAllowed || !l.inFlow }
    else { l with cursor := c }

/-- Forgets the keys that cannot have started any more: those on an earlier line or too far back. -/
def dropStale (l : Lexer) : Except ReadError Lexer :=
  let (stale, live) := l.keyStarts.partition fun k =>
    k.2.line != l.cursor.line || k.2.index + keyLength < l.cursor.index
  if stale.any (·.2.required) then .error .malformed else .ok { l with keyStarts := live }

/-- Closes the block collections that are indented further than the column. -/
def unwind (l : Lexer) (column : Int) : Lexer :=
  if l.inFlow then l
  else
    let rec go (tokens : Array Token) (indent : Int) : List Int → Array Token × Int × List Int
      | [] => (tokens, indent, [])
      | i :: is =>
        if column < indent then go (tokens.push .blockEnd) i is else (tokens, indent, i :: is)
    let (tokens, indent, indents) := go l.tokens l.indent l.indents
    { l with tokens, indent, indents }

/-- Forgets the key that may have started at this level of brackets. -/
def dropKey (l : Lexer) : Except ReadError Lexer :=
  match l.keyStarts.lookup l.flowLevel with
  | none => .ok l
  | some k =>
    if k.required then .error .malformed
    else .ok { l with keyStarts := l.keyStarts.filter (·.1 != l.flowLevel) }

/-- Remembers that a key may start at the next token. -/
def saveKey (l : Lexer) : Except ReadError Lexer :=
  if l.keyAllowed then do
    let l ← l.dropKey
    let k : KeyStart :=
      { token := l.tokens.size, required := !l.inFlow && l.indent == l.cursor.column,
        index := l.cursor.index, line := l.cursor.line, column := l.cursor.column }
    return { l with keyStarts := (l.flowLevel, k) :: l.keyStarts }
  else .ok l

/-- Opens a block collection at the column, if it is indented further than the innermost one. -/
def openBlock (l : Lexer) (column : Nat) (place : Nat) (t : Token) : Lexer :=
  if l.indent < column then
    { l with
      tokens := l.tokens.insertIdxIfInBounds place t
      indent := column
      indents := l.indent :: l.indents }
  else l

/-- Reads an indicator of the given length. -/
def indicator (l : Lexer) (n : Nat) (t : Token) : Lexer :=
  { l.push t with cursor := l.cursor.forward n }

/-- Reads the end of the text. -/
def streamEnd (l : Lexer) : Except ReadError Lexer := do
  let l ← (l.unwind (-1)).dropKey
  return { l.push .streamEnd with keyAllowed := false, keyStarts := [], done := true }

/-- Reads a directive. -/
def directive (l : Lexer) : Except ReadError Lexer := do
  let l ← (l.unwind (-1)).dropKey
  let (t, c) ← Name.directive l.cursor
  return { l.push t with cursor := c, keyAllowed := false }

/-- Reads the line that starts or ends a document. -/
def documentMark (l : Lexer) (t : Token) : Except ReadError Lexer := do
  let l ← (l.unwind (-1)).dropKey
  return { l.indicator 3 t with keyAllowed := false }

/-- Reads an opening bracket or brace. -/
def openFlow (l : Lexer) (t : Token) : Except ReadError Lexer := do
  let l ← l.saveKey
  return { l.indicator 1 t with flowLevel := l.flowLevel + 1, keyAllowed := true }

/-- Reads a closing bracket or brace. -/
def closeFlow (l : Lexer) (t : Token) : Except ReadError Lexer := do
  let l ← l.dropKey
  return { l.indicator 1 t with flowLevel := l.flowLevel - 1, keyAllowed := false }

/-- Reads a comma. -/
def flowEntry (l : Lexer) : Except ReadError Lexer := do
  let l ← l.dropKey
  return { l.indicator 1 .flowEntry with keyAllowed := true }

/-- Reads the hyphen before an item. -/
def blockEntry (l : Lexer) : Except ReadError Lexer := do
  if !l.inFlow && !l.keyAllowed then throw .malformed
  let l := if l.inFlow then l
    else l.openBlock l.cursor.column l.tokens.size .blockSequenceStart
  let l ← l.dropKey
  return { l.indicator 1 .blockEntry with keyAllowed := true }

/-- Reads the question mark before a key. -/
def key (l : Lexer) : Except ReadError Lexer := do
  if !l.inFlow && !l.keyAllowed then throw .malformed
  let l := if l.inFlow then l
    else l.openBlock l.cursor.column l.tokens.size .blockMappingStart
  let l ← l.dropKey
  return { l.indicator 1 .key with keyAllowed := !l.inFlow }

/-- Reads the colon before a value. If a key may have started on this level, it did. -/
def value (l : Lexer) : Except ReadError Lexer := do
  match l.keyStarts.lookup l.flowLevel with
  | some k =>
    let l := { l with
      keyStarts := l.keyStarts.filter (·.1 != l.flowLevel)
      tokens := l.tokens.insertIdxIfInBounds k.token .key
      keyAllowed := false }
    let l := if l.inFlow then l else l.openBlock k.column k.token .blockMappingStart
    return l.indicator 1 .value
  | none =>
    if !l.inFlow && !l.keyAllowed then throw .malformed
    let l := if l.inFlow then l
      else l.openBlock l.cursor.column l.tokens.size .blockMappingStart
    let l ← { l with keyAllowed := !l.inFlow }.dropKey
    return l.indicator 1 .value

/-- Reads a token that may be the start of a key and is not followed by another one. -/
def keyLike (l : Lexer) (read : Cursor → Except ReadError (Token × Cursor)) :
    Except ReadError Lexer := do
  let l ← l.saveKey
  let (t, c) ← read l.cursor
  return { l.push t with cursor := c, keyAllowed := false }

/-- Reads a block scalar. -/
def blockScalar (l : Lexer) (folded : Bool) : Except ReadError Lexer := do
  let l ← l.dropKey
  let (s, c) ← Block.read l.fuel folded l.indent l.cursor
  return { l.push (.scalar s false) with cursor := c, keyAllowed := true }

/-- Reads a quoted scalar. -/
def quotedScalar (l : Lexer) (double : Bool) : Except ReadError Lexer :=
  l.keyLike fun c => do
    let (s, c) ← Quoted.read l.fuel double c
    return (.scalar s false, c)

/-- Reads a plain scalar. -/
def plainScalar (l : Lexer) : Except ReadError Lexer := do
  let l ← l.saveKey
  let (s, crossed, c) := Plain.read l.fuel l.inFlow (l.indent + 1) l.cursor
  return { l.push (.scalar s true) with cursor := c, keyAllowed := crossed }

/-- A plain scalar may start here. -/
def startsPlain (l : Lexer) : Bool :=
  let c := l.cursor.head
  !(isBlankOrEnd c || ['-', '?', ':', ',', '[', ']', '{', '}', '#', '&', '*', '!', '|', '>', '\'',
      '"', '%', '@', '`'].contains c)
    || (!isBlankOrEnd (l.cursor.peek 1) && (c == '-' || (!l.inFlow && (c == '?' || c == ':'))))

/-- Reads the token at the next character. -/
def dispatch (l : Lexer) : Except ReadError Lexer :=
  let c := l.cursor
  let x := c.head
  let blankNext := isBlankOrEnd (c.peek 1)
  if x == '\x00' then l.streamEnd
  else if x == '%' && c.column == 0 then l.directive
  else if x == '-' && c.column == 0 && c.atSeparator then l.documentMark .documentStart
  else if x == '.' && c.column == 0 && c.atSeparator then l.documentMark .documentEnd
  else if x == '[' then l.openFlow .flowSequenceStart
  else if x == '{' then l.openFlow .flowMappingStart
  else if x == ']' then l.closeFlow .flowSequenceEnd
  else if x == '}' then l.closeFlow .flowMappingEnd
  else if x == ',' then l.flowEntry
  else if x == '-' && blankNext then l.blockEntry
  else if x == '?' && (l.inFlow || blankNext) then l.key
  else if x == ':' && (l.inFlow || blankNext) then l.value
  else if x == '*' then l.keyLike fun c => do
    let (n, c) ← Name.anchor c
    return (.alias n, c)
  else if x == '&' then l.keyLike fun c => do
    let (n, c) ← Name.anchor c
    return (.anchor n, c)
  else if x == '!' then l.keyLike Name.tag
  else if x == '|' && !l.inFlow then l.blockScalar false
  else if x == '>' && !l.inFlow then l.blockScalar true
  else if x == '\'' then l.quotedScalar false
  else if x == '"' then l.quotedScalar true
  else if l.startsPlain then l.plainScalar
  else .error .malformed

/-- Reads the next token. -/
def step (l : Lexer) : Except ReadError Lexer := do
  let l ← (l.skipBlanks l.fuel).dropStale
  (l.unwind l.cursor.column).dispatch

/-- The number of tokens that stand for certain: before the first place where a key may still turn
out to have started. -/
def settled (l : Lexer) : Nat :=
  match l.dropStale with
  | .ok l => l.keyStarts.foldl (fun n k => min n k.2.token) l.tokens.size
  | .error _ => l.tokens.size

/-- The tokens that stand for certain, and an error behind them. -/
def failed (l : Lexer) (e : ReadError) : Array Token := (l.tokens.take l.settled).push (.bad e)

/-- Reads all tokens; an error becomes the last one. Every step but the last uses up a character,
so a fuel beyond the length of the text suffices. -/
def run (fuel : Nat) (l : Lexer) : Array Token :=
  match fuel with
  | 0 => l.failed .malformed
  | fuel + 1 =>
    match l.step with
    | .error e => l.failed e
    | .ok l => if l.done then l.tokens else run fuel l

end Lexer

/-- The tokens of a text. A mark of the byte order at the start is not part of it. -/
def tokens (s : String) : List Token :=
  if !s.toList.all isAllowed then [.bad .malformed]
  else
    let cs := match s.toList with
      | '\ufeff' :: cs => cs
      | cs => cs
    let l := Lexer.start cs
    (l.run l.fuel).toList

end ClientGen.Yaml
