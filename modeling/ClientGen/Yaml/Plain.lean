import ClientGen.Yaml.Cursor

/-!
# Plain scalars

A plain scalar has no quotes. It ends before a comment, before a colon that a blank follows, and
before a line that is not indented far enough or ends the document; inside brackets also before
the indicators of flow collections. A single line end between its lines becomes a space, and of
several the first is dropped.

## Main definitions

* `ClientGen.Yaml.Plain.read` : the plain scalar at a place.
-/

namespace ClientGen.Yaml.Plain

/-- The colon in front of the given text separates a key from its value. -/
def endsKey (inFlow : Bool) (after : List Char) : Bool :=
  match after with
  | [] => true
  | c :: _ => isBlankOrEnd c || (inFlow && [',', '[', ']', '{', '}'].contains c)

/-- How many characters of a plain scalar stand here without a blank between them. -/
def wordLength (inFlow : Bool) : List Char → Nat
  | [] => 0
  | c :: rest =>
    if isBlankOrEnd c || (c == ':' && endsKey inFlow rest)
        || (inFlow && [',', '?', '[', ']', '{', '}'].contains c) then 0
    else wordLength inFlow rest + 1

/-- What stands between two words of a plain scalar. -/
structure Gap where
  /-- What the gap contributes to the scalar; empty if the scalar ends here. -/
  text : List Char
  /-- The gap has the end of a line in it. -/
  crossed : Bool

/-- Reads spaces and line ends, and gives the line ends; `none` if the document ends here. -/
def breaks (fuel : Nat) (done : List Char) (c : Cursor) : Option (List Char) × Cursor :=
  match fuel with
  | 0 => (some done, c)
  | fuel + 1 =>
    if c.head == ' ' then breaks fuel done c.next
    else if isBreak c.head then
      let (b, c) := c.lineBreak
      if c.atSeparator then (none, c) else breaks fuel (done ++ b) c
    else (some done, c)

/-- Reads what stands between two words. -/
def gap (fuel : Nat) (c : Cursor) : Gap × Cursor :=
  let (spaces, c) := c.span (· == ' ')
  if isBreak c.head then
    let (first, c) := c.lineBreak
    if c.atSeparator then (⟨[], true⟩, c)
    else match breaks fuel [] c with
      | (none, c) => (⟨[], true⟩, c)
      | (some more, c) =>
        let joint := if first != ['\n'] then first else if more.isEmpty then [' '] else []
        (⟨joint ++ more, true⟩, c)
  else (⟨spaces, false⟩, c)

/-- The words from a place on. The characters read so far are in `done`, in reverse; `between`
stands between them and the next word, and `crossed` tells whether a line ended there. -/
def words (fuel : Nat) (inFlow : Bool) (indent : Int) (done between : List Char) (crossed : Bool)
    (c : Cursor) : List Char × Bool × Cursor :=
  match fuel with
  | 0 => (done, crossed, c)
  | fuel + 1 =>
    let n := if c.head == '#' then 0 else wordLength inFlow c.rest
    if n = 0 then (done, crossed, c)
    else
      let done := (c.rest.take n).reverse ++ (between.reverse ++ done)
      let (g, c) := gap fuel (c.forward n)
      if g.text.isEmpty || c.head == '#' || (!inFlow && c.column < indent) then
        (done, g.crossed, c)
      else words fuel inFlow indent done g.text g.crossed c

/-- The plain scalar at a place, with the place behind it and whether that is the start of a
line. -/
def read (fuel : Nat) (inFlow : Bool) (indent : Int) (c : Cursor) : String × Bool × Cursor :=
  let (done, crossed, c) := words fuel inFlow indent [] [] false c
  (String.ofList done.reverse, crossed, c)

end ClientGen.Yaml.Plain
