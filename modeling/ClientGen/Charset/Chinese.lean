import ClientGen.Charset.Step
import ClientGen.Charset.Table.Big5
import ClientGen.Charset.Table.Gb2312
import ClientGen.Charset.Table.Gbk
import ClientGen.Charset.Table.HongKong

/-!
# Chinese character sets

GB 2312 has codes of two bytes beside those of ASCII. GBK adds codes: further characters, and all
ideographs of the basic block that GB 2312 lacks, in the order of their numbers. GB 18030 adds codes
of two bytes, many of them for private use, and codes of four bytes for all other characters. In HZ
the codes of GB 2312 stand between marks in a text of ASCII. Big5 is another arrangement, for
traditional Chinese; page 950 and the supplement of Hong Kong change and extend it.

## Main definitions

* `ClientGen.Charset.Chinese.gb2312Step`, `ClientGen.Charset.Chinese.gbkStep`,
  `ClientGen.Charset.Chinese.gb18030Step`, `ClientGen.Charset.Chinese.hzStep`,
  `ClientGen.Charset.Chinese.big5Step`, `ClientGen.Charset.Chinese.page950Step`,
  `ClientGen.Charset.Chinese.hongKongStep` : reading a code.
-/

namespace ClientGen.Charset.Chinese

/-- A code of two bytes as one number. -/
def codeOf (lead trail : Nat) : Nat := 256 * lead + trail

/-- The character of GB 2312 for two bytes with the high bit. -/
def gb2312? (lead trail : Nat) : Option Char :=
  if 0x80 ≤ lead ∧ 0x80 ≤ trail then Table.gb2312.char? (codeOf (lead - 0x80) (trail - 0x80))
  else none

/-- Reads a code of GB 2312. -/
def gb2312Step : UInt8 → List UInt8 → Step.Plain :=
  twoByteStep fun a b => (gb2312? a b).map ([·])

/-- The ideographs of the basic block that GB 2312 lacks. -/
def furtherIdeographs : Array Char := charsBeside 0x4e00 0x51a6 Table.gb2312.chars

/-- The place of a second byte among those from 0x40 on, of which 0x7f is none. -/
def cellOf? (trail : Nat) : Option Nat :=
  if trail < 0x40 ∨ trail = 0x7f ∨ 0xff ≤ trail then none
  else if trail < 0x7f then some (trail - 0x40)
  else some (trail - 0x41)

/-- The place of a code among those of the further ideographs: these have the rows in front of those
of GB 2312, and then the cells in front of its own in the rows from 0xaa on. -/
def ideographPlace? (lead trail : Nat) : Option Nat :=
  (cellOf? trail).bind fun cell =>
    if 0x81 ≤ lead ∧ lead ≤ 0xa0 then some (190 * (lead - 0x81) + cell)
    else if 0xaa ≤ lead ∧ lead ≤ 0xfe ∧ trail ≤ 0xa0 then some (6080 + 96 * (lead - 0xaa) + cell)
    else none

/-- The character of GBK for two bytes. -/
def gbk? (lead trail : Nat) : Option Char :=
  Table.gbk.char? (codeOf lead trail) <|> gb2312? lead trail <|>
    (ideographPlace? lead trail).bind fun i => furtherIdeographs[i]?

/-- Reads a code of GBK. -/
def gbkStep : UInt8 → List UInt8 → Step.Plain := twoByteStep fun a b => (gbk? a b).map ([·])

/-- The character of GB 18030 for two bytes. -/
def gb18030? (lead trail : Nat) : Option Char :=
  gbk? lead trail <|> Table.gb18030.char? (codeOf lead trail) <|>
    Table.gb18030Private.char? (codeOf lead trail)

/-- The byte is a digit. -/
def isDigit (n : Nat) : Bool := 0x30 ≤ n && n ≤ 0x39

/-- The byte can stand first or third in a code of four bytes. -/
def isLead (n : Nat) : Bool := 0x81 ≤ n && n ≤ 0xfe

/-- The number of codes of four bytes in the basic plane. -/
def basicCount : Nat := 39420

/-- The first number of the codes of four bytes in the other planes. -/
def otherFirst : Nat := 189000

/-- The character of GB 18030 for four bytes. -/
def fourBytes? (a b c d : Nat) : Option Char :=
  if !(isLead a && isDigit b && isLead c && isDigit d) then none
  else
    let number := ((a - 0x81) * 10 + (b - 0x30)) * 1260 + (c - 0x81) * 10 + (d - 0x30)
    if number < basicCount then Table.gb18030Numbered.char? number
    else if otherFirst ≤ number ∧ number - otherFirst < 0x100000 then
      some (Char.ofNat (0x10000 + (number - otherFirst)))
    else none

/-- Reads a code of GB 18030. -/
def gb18030Step (b : UInt8) (bs : List UInt8) : Step.Plain :=
  match bs with
  | c :: rest =>
    if 0x80 ≤ b ∧ isDigit c.toNat then
      match rest with
      | d :: e :: _ =>
        .ofTable ((fourBytes? b.toNat c.toNat d.toNat e.toNat).map ([·])) 3
      | _ => .short
    else twoByteStep (fun a b => (gb18030? a b).map ([·])) b bs
  | [] => twoByteStep (fun _ _ => none) b bs

/-- Reads a code of HZ; the state says that codes of two bytes are read. -/
def hzStep (chinese : Bool) (b : UInt8) (bs : List UInt8) : Step Bool :=
  if b = 0x7e then
    match bs with
    | [] => .short
    | c :: _ =>
      if chinese then if c = 0x7d then .chars [] 1 false else .wrong 0
      else if c = 0x7e then .chars ['~'] 1 false
      else if c = 0x7b then .chars [] 1 true
      else if c = 0x0a then .chars [] 1 false
      else .wrong 0
  else if 0x80 ≤ b then .wrong 0
  else if !chinese then .chars [charOf b.toNat] 0 false
  else
    match bs with
    | [] => .short
    | c :: _ =>
      match Table.gb2312.char? (codeOf b.toNat c.toNat) with
      | some x => .chars [x] 1 true
      | none => .wrong 0

/-- The character of Big5 for two bytes. -/
def big5? (lead trail : Nat) : Option Char := Table.big5.char? (codeOf lead trail)

/-- Reads a code of Big5. -/
def big5Step : UInt8 → List UInt8 → Step.Plain := twoByteStep fun a b => (big5? a b).map ([·])

/-- Reads a code of page 950. -/
def page950Step : UInt8 → List UInt8 → Step.Plain :=
  twoByteStep fun a b => (Table.page950.char? (codeOf a b) <|> big5? a b).map ([·])

/-- The code is among those whose characters in Big5 do not count: from 0xc6a1 to the end of the row
0xc8. -/
def isReplaced (code : Nat) : Bool := 0xc6a1 ≤ code && code < 0xc900

/-- The characters of two bytes with the supplement of Hong Kong. -/
def hongKong? (lead trail : Nat) : Option (List Char) :=
  let code := codeOf lead trail
  (Table.hongKong.char? code).map ([·]) <|> listed? Table.hongKongPairs code <|>
    if isReplaced code then none else (big5? lead trail).map ([·])

/-- Reads a code of Big5 with the supplement of Hong Kong. -/
def hongKongStep : UInt8 → List UInt8 → Step.Plain := twoByteStep hongKong?

end ClientGen.Charset.Chinese
