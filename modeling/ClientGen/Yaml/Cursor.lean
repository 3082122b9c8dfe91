/-!
# A place in a YAML text

A cursor holds the text that is still to be read, with the place of its first character. Lines
end at a carriage return, a line feed, both together, the next-line character, and the line and
paragraph separators. The zero character, which no YAML text holds, stands for the end.

## Main definitions

* `ClientGen.Yaml.Cursor` : the text from a place on.
* `ClientGen.Yaml.Cursor.peek`, `ClientGen.Yaml.Cursor.forward` : looking ahead and moving on.
* `ClientGen.Yaml.Cursor.lineBreak` : reading the end of a line.
-/

namespace ClientGen.Yaml

/-- The character ends a line. -/
def isBreak (c : Char) : Bool :=
  c == '\n' || c == '\r' || c == '\x85' || c == '\u2028' || c == '\u2029'

/-- The character ends a line or the text. -/
def isBreakOrEnd (c : Char) : Bool := c == '\x00' || isBreak c

/-- The character is a blank, or ends a line or the text. -/
def isBlankOrEnd (c : Char) : Bool := c == ' ' || c == '\t' || isBreakOrEnd c

/-- The character is a space, or ends a line or the text. -/
def isSpaceOrEnd (c : Char) : Bool := c == ' ' || isBreakOrEnd c

/-- The character may stand in a YAML text. -/
def isAllowed (c : Char) : Bool :=
  let n := c.toNat
  n == 0x09 || n == 0x0a || n == 0x0d || (0x20 ≤ n && n ≤ 0x7e) || n == 0x85 ||
    (0xa0 ≤ n && n ≤ 0xd7ff) || (0xe000 ≤ n && n ≤ 0xfffd) || 0x10000 ≤ n

/-- The text from a place on. -/
structure Cursor where
  /-- The characters still to be read. -/
  rest : List Char
  /-- How many characters were read. -/
  index : Nat
  /-- How many lines were ended. -/
  line : Nat
  /-- How many characters of the line were read. -/
  column : Nat

namespace Cursor

/-- The character `n` places on. -/
def peek (c : Cursor) (n : Nat) : Char := (c.rest.drop n).headD '\x00'

/-- The first character. -/
def head (c : Cursor) : Char := c.rest.headD '\x00'

/-- Moves on by one character. A carriage return before a line feed does not end the line. -/
def next (c : Cursor) : Cursor :=
  match c.rest with
  | [] => c
  | x :: rest =>
    if x == '\r' && rest.head? == some '\n' then ⟨rest, c.index + 1, c.line, c.column + 1⟩
    else if isBreak x then ⟨rest, c.index + 1, c.line + 1, 0⟩
    else ⟨rest, c.index + 1, c.line, if x == '\ufeff' then c.column else c.column + 1⟩

/-- Moves on by `n` characters. -/
def forward (c : Cursor) : Nat → Cursor
  | 0 => c
  | n + 1 => c.next.forward n

/-- The characters up to the first one out of the class, and the place behind them. -/
def span (c : Cursor) (p : Char → Bool) : List Char × Cursor :=
  let taken := c.rest.takeWhile p
  (taken, c.forward taken.length)

/-- The place behind the characters of the class. -/
def skip (c : Cursor) (p : Char → Bool) : Cursor := (c.span p).2

/-- The text goes on with these characters. -/
def startsWith (c : Cursor) (cs : List Char) : Bool := cs.isPrefixOf c.rest

/-- Reads the end of a line. Separators of lines and paragraphs stay what they are, every other
end of a line becomes a line feed. Elsewhere nothing is read. -/
def lineBreak (c : Cursor) : List Char × Cursor :=
  let x := c.head
  if x == '\r' || x == '\n' || x == '\x85' then
    (['\n'], c.forward (if c.startsWith ['\r', '\n'] then 2 else 1))
  else if x == '\u2028' || x == '\u2029' then ([x], c.next)
  else ([], c)

/-- A line of three hyphens or three points ends a document here. -/
def atSeparator (c : Cursor) : Bool :=
  (c.startsWith ['-', '-', '-'] || c.startsWith ['.', '.', '.']) && isBlankOrEnd (c.peek 3)

/-- Reads a comment up to the end of its line. -/
def skipComment (c : Cursor) : Cursor :=
  if c.head == '#' then c.skip fun x => !isBreakOrEnd x else c

end Cursor

end ClientGen.Yaml
