import ClientGen.Decimal.Reader
import ClientGen.ReadError
import ClientGen.Yaml.Cursor

/-!
# Quoted scalars

Between single quotes a quote is written twice and nothing else is special. Between double quotes
a backslash starts an escape, and a backslash at the end of a line joins it to the next. In both,
a single line end becomes a space, and of several the first is dropped, with the blanks around
them.

## Main definitions

* `ClientGen.Yaml.Quoted.read` : the quoted scalar at a place.
-/

namespace ClientGen.Yaml.Quoted

/-- The character that a one-character escape writes. -/
def escaped? : Char → Option Char
  | '0' => some '\x00'
  | 'a' => some '\x07'
  | 'b' => some '\x08'
  | 't' => some '\t'
  | '\t' => some '\t'
  | 'n' => some '\n'
  | 'v' => some '\x0b'
  | 'f' => some '\x0c'
  | 'r' => some '\r'
  | 'e' => some '\x1b'
  | ' ' => some ' '
  | '"' => some '"'
  | '\\' => some '\\'
  | '/' => some '/'
  | 'N' => some '\x85'
  | '_' => some '\xa0'
  | 'L' => some '\u2028'
  | 'P' => some '\u2029'
  | _ => none

/-- How many hexadecimal digits follow the letter of an escape. -/
def codeLength? : Char → Option Nat
  | 'x' => some 2
  | 'u' => some 4
  | 'U' => some 8
  | _ => none

/-- The number that hexadecimal digits write. -/
def hex? (cs : List Char) : Option Nat :=
  cs.foldlM (fun n x => (Decimal.digitValue? 16 x).map (16 * n + ·)) 0

/-- The character of a code; half of a pair of code units becomes the replacement character. -/
def charOf (n : Nat) : Except ReadError Char :=
  if 0x80000000 ≤ n then .error (.fault .numberTooGreat)
  else if 0x110000 ≤ n then .error (.fault .noSuchCharacter)
  else if 0xd800 ≤ n ∧ n ≤ 0xdfff then .ok (Char.ofNat 0xfffd)
  else .ok (Char.ofNat n)

/-- The second half of a pair of code units, written as an escape after the first half. -/
def secondHalf? (cs : List Char) : Option Nat :=
  match cs with
  | '\\' :: 'u' :: cs => (hex? (cs.take 4)).filter fun n => 0xdc00 ≤ n && n ≤ 0xdfff
  | _ => none

/-- The character that an escape of a code writes, and the place behind it. Both halves of a pair of
code units write one character together. -/
def coded (code : Nat) (c : Cursor) : Except ReadError (List Char × Cursor) := do
  if 0xd800 ≤ code && code ≤ 0xdbff then
    if let some second := secondHalf? (c.rest.take 6) then
      let whole := 0x10000 + (code - 0xd800) * 0x400 + (second - 0xdc00)
      return ([Char.ofNat whole], c.forward 6)
  return ([← charOf code], c)

/-- Reads blanks and line ends after the end of a line, and gives the line ends. -/
def breaks (fuel : Nat) (done : List Char) (c : Cursor) : Except ReadError (List Char × Cursor) :=
  match fuel with
  | 0 => .error .malformed
  | fuel + 1 =>
    if c.atSeparator then .error .malformed
    else
      let c := c.skip fun x => x == ' ' || x == '\t'
      if isBreak c.head then
        let (b, c) := c.lineBreak
        breaks fuel (done ++ b) c
      else .ok (done, c)

/-- Reads blanks inside a quoted scalar, with the line ends among them, and gives what they
contribute. -/
def blanks (fuel : Nat) (c : Cursor) : Except ReadError (List Char × Cursor) := do
  let (spaces, c) := c.span fun x => x == ' ' || x == '\t'
  if c.head == '\x00' then throw .malformed
  else if isBreak c.head then
    let (first, c) := c.lineBreak
    let (more, c) ← breaks fuel [] c
    let joint := if first != ['\n'] then first else if more.isEmpty then [' '] else []
    return (joint ++ more, c)
  else return (spaces, c)

/-- Reads an escape after its backslash. -/
def escape (fuel : Nat) (c : Cursor) : Except ReadError (List Char × Cursor) :=
  match escaped? c.head, codeLength? c.head with
  | some x, _ => .ok ([x], c.next)
  | none, some n =>
    let digits := c.next.rest.take n
    if digits.length < n then .error .malformed
    else match hex? digits with
      | none => .error .malformed
      | some code => coded code (c.forward (n + 1))
  | none, none =>
    if isBreak c.head then breaks fuel [] c.lineBreak.2 else .error .malformed

/-- The rest of a quoted scalar. The characters read so far are in `done`, in reverse. -/
def tail (fuel : Nat) (double : Bool) (done : List Char) (c : Cursor) :
    Except ReadError (List Char × Cursor) :=
  match fuel with
  | 0 => .error .malformed
  | fuel + 1 =>
    let x := c.head
    if x == '\x00' then .error .malformed
    else if !double && x == '\'' && c.peek 1 == '\'' then
      tail fuel double ('\'' :: done) (c.forward 2)
    else if x == (if double then '"' else '\'') then .ok (done.reverse, c.next)
    else if double && x == '\\' then
      match escape fuel c.next with
      | .error e => .error e
      | .ok (cs, c) => tail fuel double (cs.reverse ++ done) c
    else if x == ' ' || x == '\t' || isBreak x then
      match blanks fuel c with
      | .error e => .error e
      | .ok (cs, c) => tail fuel double (cs.reverse ++ done) c
    else tail fuel double (x :: done) c.next

/-- The quoted scalar whose opening quote stands at a place, and the place behind it. -/
def read (fuel : Nat) (double : Bool) (c : Cursor) : Except ReadError (String × Cursor) := do
  let (cs, c) ← tail fuel double [] c.next
  return (String.ofList cs, c)

end ClientGen.Yaml.Quoted
