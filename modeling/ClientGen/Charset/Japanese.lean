import ClientGen.Charset.Step
import ClientGen.Charset.Table.Jisx0208
import ClientGen.Charset.Table.Jisx0212
import ClientGen.Charset.Table.Jisx0213
import ClientGen.Charset.Table.Page932

/-!
# Japanese character sets

JIS X 0208 has kana and ideographs in codes of two bytes. JIS X 0212 is a supplement to it, and
JIS X 0213, of which there are two editions, another one in two planes. In the arrangement EUC both
bytes have the high bit, and a byte in front tells the supplement and the narrow kana. Shift JIS
folds the rows, so that narrow kana have codes of one byte; page 932 adds the characters of makers.

## Main definitions

* `ClientGen.Charset.Japanese.Edition` : the editions of JIS X 0213.
* `ClientGen.Charset.Japanese.eucStep`, `ClientGen.Charset.Japanese.euc0213Step` : reading a code in
  the arrangement EUC.
* `ClientGen.Charset.Japanese.shiftStep`, `ClientGen.Charset.Japanese.page932Step`,
  `ClientGen.Charset.Japanese.shift0213Step` : reading a code of Shift JIS.
-/

namespace ClientGen.Charset.Japanese

/-- The editions of JIS X 0213. -/
inductive Edition where
  /-- The first edition. -/
  | year2000
  /-- The second edition. -/
  | year2004
  deriving DecidableEq, Repr

/-- The character of JIS X 0208 for two bytes without the high bit. -/
def jisx0208? (row cell : Nat) : Option Char := Table.jisx0208.char? (256 * row + cell)

/-- The character of JIS X 0212 for two bytes without the high bit. -/
def jisx0212? (row cell : Nat) : Option Char := Table.jisx0212.char? (256 * row + cell)

/-- The codes that the second edition of JIS X 0213 adds. -/
def addedCodes : List Nat :=
  [0x2e21, 0x2f7e, 0x4f54, 0x4f7e, 0x7427, 0x7e7a, 0x7e7b, 0x7e7c, 0x7e7d, 0x7e7e]

/-- An edition lacks the code, which the other one has. -/
def Edition.lacks (edition : Edition) (row cell : Nat) : Bool :=
  edition = .year2000 && addedCodes.contains (256 * row + cell)

/-- The characters of the first plane of JIS X 0213, which has those of JIS X 0208. -/
def firstPlane? (edition : Edition) (row cell : Nat) : Option (List Char) :=
  let code := 256 * row + cell
  if edition.lacks row cell then none
  else ((jisx0208? row cell <|> Table.jisx0213.char? code).map ([·])) <|>
    listed? Table.jisx0213Pairs code

/-- The code at which the editions have different characters. -/
def changedCode : Nat := 0x7d3b

/-- The character of the second plane of JIS X 0213. -/
def secondPlane? (edition : Edition) (row cell : Nat) : Option Char :=
  let code := 256 * row + cell
  if edition = .year2000 ∧ code = changedCode then some '鬝' else Table.jisx0213Second.char? code

/-- The narrow kana of a byte. -/
def narrowKana? (b : Nat) : Option Char :=
  if 0xa1 ≤ b ∧ b ≤ 0xdf then some (Char.ofNat (0xfec0 + b)) else none

/-- Applies a look-up to two bytes whose high bit is set. -/
def high? {α : Type} (look : Nat → Nat → Option α) (lead trail : Nat) : Option α :=
  if 0x80 ≤ lead ∧ 0x80 ≤ trail then look (lead - 0x80) (trail - 0x80) else none

/-! ### The arrangement EUC -/

/-- Reads a code in the arrangement EUC. `first` gives the characters of two bytes, and `second`
those behind the byte 0x8f. -/
def eucStepWith (first second : Nat → Nat → Option (List Char)) (b : UInt8) (bs : List UInt8) :
    Step.Plain :=
  if b = 0x8f then
    match bs with
    | c :: d :: _ => .ofTable (high? second c.toNat d.toNat) 2
    | _ => .short
  else
    twoByteStep (fun a c => if a = 0x8e then (narrowKana? c).map ([·]) else high? first a c) b bs

/-- Reads a code of JIS X 0208 or JIS X 0212. -/
def eucStep : UInt8 → List UInt8 → Step.Plain :=
  eucStepWith (fun a b => (jisx0208? a b).map ([·])) fun a b => (jisx0212? a b).map ([·])

/-- The wide form that a character of the first plane of JIS X 0213 has beside ASCII. -/
def widened (c : Char) : Char := if c = '~' then '～' else c

/-- Reads a code of JIS X 0213; characters of JIS X 0212 stand where its second plane has none. -/
def euc0213Step (edition : Edition) (b : UInt8) (bs : List UInt8) : Step.Plain :=
  let isLacking := bs.head?.any fun c =>
    (high? (fun row cell => some (edition.lacks row cell)) b.toNat c.toNat).getD false
  if isLacking then .wrong 1
  else
    eucStepWith (fun row cell => (firstPlane? edition row cell).map (·.map widened))
      (fun row cell => (secondPlane? edition row cell <|> jisx0212? row cell).map ([·])) b bs

/-! ### Shift JIS -/

/-- The row, from 0 on, and the byte of the cell for a code of Shift JIS. -/
def unfolded? (lead trail : Nat) : Option (Nat × Nat) :=
  if trail < 0x40 ∨ trail = 0x7f ∨ 0xfc < trail then none
  else
    let half := if lead < 0xe0 then lead - 0x81 else lead - 0xc1
    let place := if trail < 0x80 then trail - 0x40 else trail - 0x41
    some (2 * half + place / 94, place % 94 + 0x21)

/-- The byte is the first one of a code of two bytes. -/
def isShiftLead (b : UInt8) : Bool := (0x81 ≤ b && b ≤ 0x9f) || (0xe0 ≤ b && b ≤ 0xfc)

/-- Reads a code of Shift JIS. `single` gives the characters of single bytes. -/
def shiftStepWith (single : Nat → Option Char) (look : Nat → Nat → Option (List Char)) (b : UInt8)
    (bs : List UInt8) : Step.Plain :=
  match single b.toNat with
  | some c => .one c 0
  | none =>
    if isShiftLead b then
      match bs with
      | [] => .short
      | c :: _ => .ofTable (look b.toNat c.toNat) 1
    else .wrong 0

/-- The character of ASCII for a byte. -/
def ascii? (b : Nat) : Option Char := if b < 0x80 then some (Char.ofNat b) else none

/-- The character of a code in a look-up by rows. -/
def shifted? (lead trail : Nat) : Option Char :=
  (unfolded? lead trail).bind fun (row, cell) => jisx0208? (row + 0x21) cell

/-- Reads a code of Shift JIS. -/
def shiftStep : UInt8 → List UInt8 → Step.Plain :=
  shiftStepWith (fun b => ascii? b <|> narrowKana? b) fun a b => (shifted? a b).map ([·])

/-- The character of page 932 for a single byte: some bytes without a use of their own have
characters of private use. -/
def page932Single? (b : Nat) : Option Char :=
  if b = 0x80 then some (Char.ofNat b)
  else if b = 0xa0 then some (Char.ofNat 0xf8f0)
  else if 0xfd ≤ b then some (Char.ofNat (0xf8f1 + (b - 0xfd)))
  else ascii? b <|> narrowKana? b

/-- The character of private use of a code. -/
def private? (lead trail : Nat) : Option Char :=
  if 0xf0 ≤ lead ∧ lead ≤ 0xf9 then
    (unfolded? lead trail).map fun (row, cell) =>
      Char.ofNat (0xe000 + 94 * (row - 0x5e) + (cell - 0x21))
  else none

/-- Reads a code of page 932. -/
def page932Step : UInt8 → List UInt8 → Step.Plain :=
  shiftStepWith page932Single? fun a b =>
    (Table.page932.char? (256 * a + b) <|> shifted? a b <|> private? a b).map ([·])

/-- The character of a single byte where yen and overline stand for backslash and tilde. -/
def roman? (b : Nat) : Option Char :=
  if b = 0x5c then some '¥' else if b = 0x7e then some '‾' else ascii? b

/-- The number of rows of a plane. -/
def planeRows : Nat := 94

/-- The row of the second plane of JIS X 0213 that a row behind the first plane stands for: the
second plane has only the rows 1, 3 to 5, 8, 12 to 15 and 78 to 94. -/
def secondRow (row : Nat) : Nat :=
  if 0x67 ≤ row then row + 0x07
  else if 0x63 ≤ row ∨ row = 0x5f then row - 0x37
  else row - 0x3d

/-- The narrow form that a character of the first plane of JIS X 0213 has where single bytes write
yen and overline. -/
def narrowed (c : Char) : Char := if c = '＼' then '\\' else c

/-- The characters of JIS X 0213 for a code of Shift JIS. -/
def shifted0213? (edition : Edition) (lead trail : Nat) : Option (List Char) :=
  (unfolded? lead trail).bind fun (row, cell) =>
    if row < planeRows then (firstPlane? edition (row + 0x21) cell).map (·.map narrowed)
    else (secondPlane? edition (secondRow row) cell).map ([·])

/-- Reads a code of Shift JIS with the characters of JIS X 0213. -/
def shift0213Step (edition : Edition) (b : UInt8) (bs : List UInt8) : Step.Plain :=
  let isLacking := isShiftLead b && bs.head?.any fun c =>
    (unfolded? b.toNat c.toNat).any fun (row, cell) => edition.lacks (row + 0x21) cell
  if isLacking then .wrong 1
  else shiftStepWith (fun b => roman? b <|> narrowKana? b) (shifted0213? edition) b bs

end ClientGen.Charset.Japanese
