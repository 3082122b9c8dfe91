/-!
# Tables of codes

A code table lists characters by their codes. It is made of runs: the number of the first code, and
the characters of that code and those after it. The replacement character fills gaps.

## Main definitions

* `ClientGen.Charset.CodeTable` : characters by their codes.
* `ClientGen.Charset.CodeTable.char?` : the character of a code.
* `ClientGen.Charset.NumberTable` : blocks of characters by the codes of their first ones.
* `ClientGen.Charset.pageChar?` : the character of a code of one byte.
-/

namespace ClientGen.Charset

/-- The character that stands where no character can be read. -/
def replacement : Char := Char.ofNat 0xfffd

/-- The character, if it does not fill a gap. -/
def unlessGap (c : Char) : Option Char := if c = replacement then none else some c

/-- Characters by their codes, in runs. -/
abbrev CodeTable := List (Nat × String)

/-- The number of codes that a run may have. -/
def runLimit : Nat := 256

/-- The character of a code in a run. -/
def runChar? (code : Nat) (run : Nat × String) : Option Char :=
  if run.1 ≤ code ∧ code < run.1 + runLimit then
    run.2.toList[code - run.1]?.bind unlessGap
  else none

/-- The character of a code. -/
def CodeTable.char? (t : CodeTable) (code : Nat) : Option Char := t.findSome? (runChar? code)

/-- All characters of a table. -/
def CodeTable.chars (t : CodeTable) : List Char := t.flatMap fun run => run.2.toList

/-- Blocks of characters in the order of their numbers: the first code, the number of the first
character, and the number of characters. -/
abbrev NumberTable := List (Nat × Nat × Nat)

/-- The character of a code. -/
def NumberTable.char? (t : NumberTable) (code : Nat) : Option Char :=
  t.findSome? fun (first, number, count) =>
    if first ≤ code ∧ code < first + count then some (Char.ofNat (number + (code - first)))
    else none

/-- The characters of a code that may write several. -/
def listed? (t : List (Nat × String)) (code : Nat) : Option (List Char) :=
  (t.lookup code).map String.toList

/-- The character of a code of one byte in a page, which lists the characters of the last codes; the
codes in front are the numbers of their characters. -/
def pageChar? (page : List Char) (b : UInt8) : Option Char :=
  let place := b.toNat + page.length
  if place < 256 then some (Char.ofNat b.toNat) else page[place - 256]?.bind unlessGap

/-- The characters with numbers from `first` on that are not among `known`, in order. -/
def charsBeside (first count : Nat) (known : List Char) : Array Char :=
  let marks := known.foldl (fun (marks : Array Bool) c =>
    if first ≤ c.toNat then marks.setIfInBounds (c.toNat - first) true else marks)
    (Array.replicate count false)
  ((Array.range count).filter fun i => !marks.getD i true).map fun i => Char.ofNat (first + i)

end ClientGen.Charset
