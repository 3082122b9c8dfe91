import ClientGen.Charset.Chinese
import ClientGen.Charset.Japanese
import ClientGen.Charset.Korean
import ClientGen.Charset.Page.Iso

/-!
# Character sets behind escape sequences

In a text after ISO 2022 all bytes are without the high bit. An escape sequence designates a set of
characters for the codes that follow, or for those between two shift characters, or for single
characters behind a sequence of their own. The profiles of ISO 2022 for Japanese and Korean differ
in the sets that they know.

## Main definitions

* `ClientGen.Charset.Repertoire` : the sets that can be designated.
* `ClientGen.Charset.Profile` : the profiles.
* `ClientGen.Charset.Designations` : what is designated at a place in a text.
* `ClientGen.Charset.Profile.step` : reading a code.
-/

namespace ClientGen.Charset

/-- The sets that can be designated. -/
inductive Repertoire where
  /-- ASCII. -/
  | ascii
  /-- The upper half of ISO 8859-1. -/
  | latin
  /-- The upper half of ISO 8859-7 in its first edition. -/
  | greek
  /-- ASCII with yen and overline for backslash and tilde. -/
  | roman
  /-- Narrow kana. -/
  | kana
  /-- GB 2312. -/
  | chinese
  /-- KS X 1001. -/
  | korean
  /-- JIS X 0208. -/
  | jisx0208
  /-- JIS X 0208 in its first edition, whose characters are read as those of the later ones. -/
  | jisx0208First
  /-- JIS X 0212. -/
  | jisx0212
  /-- The first plane of an edition of JIS X 0213. -/
  | jisx0213 (edition : Japanese.Edition)
  /-- The second plane of JIS X 0213, as in the second edition. -/
  | jisx0213Second
  deriving DecidableEq, Repr

namespace Repertoire

/-- The last character of the escape sequence that designates a set. -/
def mark : Repertoire → Char
  | ascii => 'B'
  | latin => 'A'
  | greek => 'F'
  | roman => 'J'
  | kana => 'I'
  | chinese => 'A'
  | korean => 'C'
  | jisx0208 => 'B'
  | jisx0208First => '@'
  | jisx0212 => 'D'
  | jisx0213 .year2000 => 'O'
  | jisx0213 .year2004 => 'Q'
  | jisx0213Second => 'P'

/-- Codes have two bytes. -/
def isDouble : Repertoire → Bool
  | ascii | latin | greek | roman | kana => false
  | _ => true

/-- The character of a code of one byte. The upper halves are for single characters only. -/
def single? : Repertoire → Nat → Option Char
  | ascii, b => some (Char.ofNat b)
  | roman, b => Japanese.roman? b
  | kana, b => Japanese.narrowKana? (b + 0x80)
  | _, _ => none

/-- The characters of a code of two bytes. -/
def double? : Repertoire → Nat → Nat → Option (List Char)
  | chinese, a, b => (Table.gb2312.char? (256 * a + b)).map ([·])
  | korean, a, b => (Korean.ksx1001? a b).map ([·])
  | jisx0208, a, b | jisx0208First, a, b => (Japanese.jisx0208? a b).map ([·])
  | jisx0212, a, b => (Japanese.jisx0212? a b).map ([·])
  | jisx0213 edition, a, b => Japanese.firstPlane? edition a b
  | jisx0213Second, a, b => (Japanese.secondPlane? .year2004 a b).map ([·])
  | _, _, _ => none

/-- The bytes to which the first edition of ISO 8859-7 gives no character. -/
def greekGaps : List UInt8 := [0xa4, 0xa5, 0xaa]

/-- The character of a byte that stands for a single character of a set. The high bit, which both
upper halves have, is turned over in the Greek one. -/
def upper? (r : Repertoire) (b : UInt8) : Option Char :=
  match r with
  | ascii => if b < 0x80 then some (charOf b.toNat) else none
  | latin => if b < 0x80 then some (charOf (b.toNat + 0x80)) else none
  | greek =>
    let turned := b + 0x80
    if greekGaps.contains turned then none else pageChar? Page.iso7.toList turned
  | _ => none

end Repertoire

/-- What is designated at a place in a text. -/
structure Designations where
  /-- The set of most codes. -/
  main : Repertoire := .ascii
  /-- The set of codes between shift characters. -/
  shifted : Repertoire := .ascii
  /-- The set of single characters. -/
  single : Repertoire := .ascii
  /-- The place is between shift characters. -/
  isShifted : Bool := false
  /-- The place is inside an escape sequence that designates nothing. -/
  isForeign : Bool := false
  deriving DecidableEq, Repr

/-- The profiles of ISO 2022. -/
inductive Profile where
  /-- Korean. -/
  | korean
  /-- Japanese with JIS X 0208. -/
  | japanese
  /-- Japanese with the supplement. -/
  | japanese1
  /-- Japanese beside Chinese, Korean and European sets. -/
  | japanese2
  /-- Japanese with JIS X 0213 in its first edition. -/
  | japanese3
  /-- Japanese with JIS X 0213 in its second edition. -/
  | japanese2004
  /-- Japanese with the supplement and narrow kana. -/
  | japaneseExtended
  deriving DecidableEq, Repr

namespace Profile

/-- The sets that a profile knows. -/
def repertoires : Profile → List Repertoire
  | korean => [.ascii, .korean]
  | japanese => [.ascii, .jisx0208, .jisx0208First, .roman]
  | japanese1 => [.ascii, .jisx0208, .jisx0212, .jisx0208First, .roman]
  | japanese2 =>
    [.ascii, .jisx0208, .jisx0212, .korean, .chinese, .jisx0208First, .roman, .latin, .greek]
  | japanese3 => [.ascii, .jisx0208, .jisx0213 .year2000, .jisx0213Second]
  | japanese2004 => [.ascii, .jisx0208, .jisx0213 .year2004, .jisx0213Second]
  | japaneseExtended => [.ascii, .jisx0208, .jisx0212, .jisx0208First, .roman, .kana]

/-- The profile has shift characters. -/
def hasShift (p : Profile) : Bool := p = korean

/-- The profile designates sets for single characters. -/
def hasSingle (p : Profile) : Bool := p = japanese2

/-- The profile knows the mark of a revision, which stands in front of an escape sequence. -/
def hasRevision (p : Profile) : Bool := p ≠ korean

/-- The set of a profile that an escape sequence with that last byte designates. -/
def repertoire? (p : Profile) (double : Bool) (last : UInt8) : Option Repertoire :=
  p.repertoires.find? fun r => r.isDouble = double ∧ r.mark.toNat = last.toNat

/-! ### Escape sequences -/

/-- The byte ends an escape sequence. -/
def isLast (b : UInt8) : Bool := (0x41 ≤ b && b ≤ 0x5a) || b == 0x40

/-- The byte behind the escape character starts a sequence that designates a set. -/
def isDesignating (b : UInt8) : Bool :=
  b == 0x28 || b == 0x29 || b == 0x24 || b == 0x2e || b == 0x26

/-- The most bytes behind the escape character among which the last one is looked for. -/
def sequenceLimit : Nat := 15

/-- The number of bytes of an escape sequence behind the escape character, `count` of which have
been looked at: 0 if there are too many, and nothing if the last one is missing. The mark of a
revision belongs to the sequence behind it, whose escape character is not looked at. -/
def sequenceLength? (p : Profile) : Nat → Nat → List UInt8 → Option Nat
  | 0, _, _ => some 0
  | _ + 1, _, [] => none
  | limit + 1, count, [b] => if isLast b then some (count + 1) else sequenceLength? p limit count []
  | limit + 1, count, b :: c :: bs =>
    if isLast b then some (count + 1)
    else if p.hasRevision ∧ b = 0x26 ∧ c = 0x40 then
      sequenceLength? p (limit - 2) (count + 3) (bs.drop 1)
    else sequenceLength? p limit (count + 1) (c :: bs)
termination_by limit => limit

/-- What is designated after an escape sequence, whose bytes behind the escape character are given;
nothing if the profile does not know it. -/
def designate? (p : Profile) (d : Designations) : List UInt8 → Option Designations
  | [0x24, last] => (p.repertoire? true last).map fun r => { d with main := r }
  | [0x28, last] => (p.repertoire? false last).map fun r => { d with main := r }
  | [0x29, last] => (p.repertoire? false last).map fun r => { d with shifted := r }
  | [0x2e, last] =>
    if p.hasSingle then (p.repertoire? false last).map fun r => { d with single := r } else none
  | [0x24, 0x28, last] => (p.repertoire? true last).map fun r => { d with main := r }
  | [0x24, 0x29, last] => (p.repertoire? true last).map fun r => { d with shifted := r }
  | [_, _, 0x1b, 0x24, 0x42] => if p.hasRevision then some { d with main := .jisx0208 } else none
  | _ => none

/-- Reads an escape sequence that designates a set. -/
def designationStep (p : Profile) (d : Designations) (bs : List UInt8) : Step Designations :=
  match sequenceLength? p sequenceLimit 0 bs with
  | none => .short
  | some n =>
    match p.designate? d (bs.take n) with
    | some d => .chars [] n d
    | none => .wrong n

/-- Reads a sequence that starts with the escape character. -/
def escapeStep (p : Profile) (d : Designations) : List UInt8 → Step Designations
  | [] => .short
  | b :: bs =>
    if isDesignating b then p.designationStep d (b :: bs)
    else if p.hasSingle ∧ b = 0x4e then
      match bs with
      | [] => .short
      | c :: _ =>
        match d.single.upper? c with
        | some x => .chars [x] 2 d
        | none => .wrong 2
    else .chars [charOf 0x1b] 0 { d with isForeign := true }

/-- Reads a code of a set. -/
def codeStep (d : Designations) (r : Repertoire) (b : UInt8) (bs : List UInt8) :
    Step Designations :=
  if r.isDouble then
    match bs with
    | [] => .short
    | c :: _ =>
      match r.double? b.toNat c.toNat with
      | some cs => .chars cs 1 d
      | none => .wrong 1
  else match r.single? b.toNat with
    | some c => .chars [c] 0 d
    | none => .wrong 0

/-- Reads a code. -/
def step (p : Profile) (d : Designations) (b : UInt8) (bs : List UInt8) : Step Designations :=
  let asIs := fun d => Step.chars [charOf b.toNat] 0 d
  if d.isForeign then asIs { d with isForeign := !isLast b }
  else if b = 0x1b then p.escapeStep d bs
  else if b = 0x0f ∧ p.hasShift then .chars [] 0 { d with isShifted := false }
  else if b = 0x0e ∧ p.hasShift then .chars [] 0 { d with isShifted := true }
  else if b = 0x0a then asIs { d with isShifted := false }
  else if b < 0x20 then asIs d
  else if 0x80 ≤ b then .wrong 0
  else codeStep d (if d.isShifted then d.shifted else d.main) b bs

end Profile

end ClientGen.Charset
