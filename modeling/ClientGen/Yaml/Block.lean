import ClientGen.ReadError
import ClientGen.Yaml.Cursor

/-!
# Block scalars

A block scalar consists of the lines that follow its header and are indented far enough. In the
literal style its lines are kept. In the folded style a line end between two lines that start
without a blank becomes a space. The header may fix the indentation, and it may say that all line
ends behind the last line are kept, or that none is.

## Main definitions

* `ClientGen.Yaml.Block.Header` : what the header says.
* `ClientGen.Yaml.Block.read` : the block scalar at a place.
-/

namespace ClientGen.Yaml.Block

/-- What becomes of the line ends behind the last line. -/
inductive Chomping where
  /-- The first is kept. -/
  | clip
  /-- None is kept. -/
  | strip
  /-- All are kept. -/
  | keep
  deriving DecidableEq

/-- What the header says. -/
structure Header where
  /-- What becomes of the line ends behind the last line. -/
  chomping : Chomping
  /-- The indentation, beyond that of the collection around the scalar. -/
  increment : Option Nat

/-- The sign for the line ends behind the last line. -/
def chomping? : Char → Option Chomping
  | '+' => some .keep
  | '-' => some .strip
  | _ => none

/-- The digit for the indentation. -/
def increment? (c : Char) : Option Nat := if '0' ≤ c ∧ c ≤ '9' then some (c.toNat - 48) else none

/-- Reads sign and digit of a header, in either order. -/
def indicators (c : Cursor) : Header × Cursor :=
  match chomping? c.head with
  | some k =>
    match increment? (c.peek 1) with
    | some n => (⟨k, some n⟩, c.forward 2)
    | none => (⟨k, none⟩, c.next)
  | none =>
    match increment? c.head with
    | some n =>
      match chomping? (c.peek 1) with
      | some k => (⟨k, some n⟩, c.forward 2)
      | none => (⟨.clip, some n⟩, c.next)
    | none => (⟨.clip, none⟩, c)

/-- Reads a header to the end of its line. -/
def header (c : Cursor) : Except ReadError (Header × Cursor) :=
  let (h, c) := indicators c
  if h.increment = some 0 ∨ !isSpaceOrEnd c.head then .error .malformed
  else
    let c := (c.skip (· == ' ')).skipComment
    if isBreakOrEnd c.head then .ok (h, c.lineBreak.2) else .error .malformed

/-- Reads empty lines and the indentation of the first line after them. Gives the line ends and
the greatest indentation seen. -/
def leading (fuel : Nat) (done : List Char) (greatest : Nat) (c : Cursor) :
    List Char × Nat × Cursor :=
  match fuel with
  | 0 => (done, greatest, c)
  | fuel + 1 =>
    if c.head == ' ' then leading fuel done (max greatest c.next.column) c.next
    else if isBreak c.head then
      let (b, c) := c.lineBreak
      leading fuel (done ++ b) greatest c
    else (done, greatest, c)

/-- Moves on to the given column over spaces. -/
def indentTo (indent : Nat) (c : Cursor) : Cursor :=
  c.forward ((c.rest.take (indent - c.column)).takeWhile (· == ' ')).length

/-- Reads empty lines, and the indentation after them. Gives the line ends. -/
def breaks (fuel : Nat) (indent : Nat) (done : List Char) (c : Cursor) : List Char × Cursor :=
  match fuel with
  | 0 => (done, c)
  | fuel + 1 =>
    let c := indentTo indent c
    if isBreak c.head then
      let (b, c) := c.lineBreak
      breaks fuel indent (done ++ b) c
    else (done, c)

/-- Reads the lines of the scalar. The characters read so far are in `done`, in reverse; `before`
are the line ends before the next line. Gives the characters, the end of the last line, and the
line ends behind it. -/
def contents (fuel : Nat) (folded : Bool) (indent : Nat) (done before : List Char) (c : Cursor) :
    List Char × List Char × List Char × Cursor :=
  match fuel with
  | 0 => (done, [], before, c)
  | fuel + 1 =>
    let done := before.reverse ++ done
    let text := !(c.head == ' ' || c.head == '\t')
    let (line, c) := c.span fun x => !isBreakOrEnd x
    let done := line.reverse ++ done
    let (ending, c) := c.lineBreak
    let (more, c) := breaks fuel indent [] c
    if c.column = indent ∧ c.head ≠ '\x00' then
      let joint :=
        if folded && ending == ['\n'] && text && !(c.head == ' ' || c.head == '\t') then
          (if more.isEmpty then [' '] else [])
        else ending
      contents fuel folded indent (joint.reverse ++ done) more c
    else (done, ending, more, c)

/-- The block scalar whose indicator stands at a place, and the place behind it; `indent` is the
indentation of the collection around it. -/
def read (fuel : Nat) (folded : Bool) (indent : Int) (c : Cursor) :
    Except ReadError (String × Cursor) := do
  let (h, c) ← header c.next
  let least := (max (indent + 1) 1).toNat
  let (before, indent, c) := match h.increment with
    | none =>
      let (b, greatest, c) := leading fuel [] 0 c
      (b, max least greatest, c)
    | some n =>
      let indent := least + n - 1
      let (b, c) := breaks fuel indent [] c
      (b, indent, c)
  let (done, ending, more, c) :=
    if c.column = indent ∧ c.head ≠ '\x00' then contents fuel folded indent [] before c
    else ([], [], before, c)
  let close := match h.chomping with
    | .strip => []
    | .clip => ending
    | .keep => ending ++ more
  return (String.ofList (done.reverse ++ close), c)

end ClientGen.Yaml.Block
