import ClientGen.Charset.Step
import ClientGen.Charset.Table.Ksx1001

/-!
# Korean character sets

KS X 1001 has the usual syllables, symbols and ideographs in codes of two bytes; a syllable that it
lacks can be made up of its letters. Page 949 has codes for all these syllables in the order of
their numbers. In the combining arrangement the code of a syllable is put together from those of
its letters, and symbols and ideographs follow those of KS X 1001.

## Main definitions

* `ClientGen.Charset.Korean.wansungStep`, `ClientGen.Charset.Korean.page949Step`,
  `ClientGen.Charset.Korean.johabStep` : reading a code.
-/

namespace ClientGen.Charset.Korean

/-- The character of KS X 1001 for two bytes without the high bit. -/
def ksx1001? (row cell : Nat) : Option Char := Table.ksx1001.char? (256 * row + cell)

/-- The character of KS X 1001 for two bytes with the high bit. -/
def highKsx1001? (lead trail : Nat) : Option Char :=
  if 0x80 ≤ lead ∧ 0x80 ≤ trail then ksx1001? (lead - 0x80) (trail - 0x80) else none

/-! ### Syllables -/

/-- The letters of KS X 1001, in order, that can start a syllable. -/
def initials : List Char := "ㄱㄲㄴㄷㄸㄹㅁㅂㅃㅅㅆㅇㅈㅉㅊㅋㅌㅍㅎ".toList

/-- The vowels. -/
def medials : List Char := "ㅏㅐㅑㅒㅓㅔㅕㅖㅗㅘㅙㅚㅛㅜㅝㅞㅟㅠㅡㅢㅣ".toList

/-- The letters that can end a syllable. -/
def finals : List Char := "ㄱㄲㄳㄴㄵㄶㄷㄹㄺㄻㄼㄽㄾㄿㅀㅁㅂㅄㅅㅆㅇㅈㅊㅋㅌㅍㅎ".toList

/-- The syllable of an initial, a vowel and a final, which is 0 for none. -/
def syllable (initial medial final : Nat) : Char :=
  Char.ofNat (0xac00 + 588 * initial + 28 * medial + final)

/-- The place of a letter of KS X 1001, given by its second byte, in a list of letters. -/
def letterPlace? (letters : List Char) (trail : Nat) : Option Nat :=
  (highKsx1001? 0xa4 trail).bind fun c => letters.idxOf? c

/-- The syllable that eight bytes make up: the filler of KS X 1001 and three letters. -/
def madeUp? : List UInt8 → Option Char
  | [_, _, a, i, b, m, c, f] =>
    if a = 0xa4 ∧ b = 0xa4 ∧ c = 0xa4 then do
      let i ← letterPlace? initials i.toNat
      let m ← letterPlace? medials m.toNat
      let f ← if f = 0xd4 then some 0 else (letterPlace? finals f.toNat).map (· + 1)
      return syllable i m f
    else none
  | _ => none

/-- Reads a code of KS X 1001. -/
def wansungStep (b : UInt8) (bs : List UInt8) : Step.Plain :=
  if b = 0xa4 ∧ bs.head? = some 0xd4 then
    if bs.length < 7 then .short else .ofTable ((madeUp? (b :: bs.take 7)).map ([·])) 7
  else twoByteStep (fun a b => (highKsx1001? a b).map ([·])) b bs

/-! ### Page 949 -/

/-- The syllables that KS X 1001 lacks. -/
def furtherSyllables : Array Char := charsBeside 0xac00 11172 Table.ksx1001.chars

/-- The place of a second byte among the letters of ASCII and the bytes with the high bit. -/
def cellOf? (trail : Nat) : Option Nat :=
  if 0x41 ≤ trail ∧ trail ≤ 0x5a then some (trail - 0x41)
  else if 0x61 ≤ trail ∧ trail ≤ 0x7a then some (trail - 0x61 + 26)
  else if 0x81 ≤ trail ∧ trail ≤ 0xfe then some (trail - 0x81 + 52)
  else none

/-- The place of a code among those of the further syllables. -/
def syllablePlace? (lead trail : Nat) : Option Nat :=
  (cellOf? trail).bind fun cell =>
    if 0x81 ≤ lead ∧ lead ≤ 0xa0 then some (178 * (lead - 0x81) + cell)
    else if 0xa1 ≤ lead ∧ lead ≤ 0xc6 ∧ cell < 84 then some (5696 + 84 * (lead - 0xa1) + cell)
    else none

/-- Reads a code of page 949. -/
def page949Step : UInt8 → List UInt8 → Step.Plain :=
  twoByteStep fun a b =>
    (highKsx1001? a b <|>
      (syllablePlace? a b).bind fun i => furtherSyllables[i]?).map ([·])

/-! ### The combining arrangement -/

/-- What five bits say of a letter of a syllable: that there is none, or its place. -/
abbrev Part := Option Nat

/-- The initial of five bits. -/
def initial? (n : Nat) : Option Part :=
  if n = 1 then some none else if 2 ≤ n ∧ n ≤ 20 then some (some (n - 2)) else none

/-- The vowel of five bits. -/
def medial? (n : Nat) : Option Part :=
  if n = 2 then some none
  else if 3 ≤ n ∧ n ≤ 7 then some (some (n - 3))
  else if 10 ≤ n ∧ n ≤ 15 then some (some (n - 5))
  else if 18 ≤ n ∧ n ≤ 23 then some (some (n - 7))
  else if 26 ≤ n ∧ n ≤ 29 then some (some (n - 9))
  else none

/-- The final of five bits. -/
def final? (n : Nat) : Option Part :=
  if n = 1 then some none
  else if 2 ≤ n ∧ n ≤ 17 then some (some (n - 2))
  else if 19 ≤ n ∧ n ≤ 29 then some (some (n - 3))
  else none

/-- A letter that stands alone, or a syllable with an initial and a vowel. -/
def composed? : Part → Part → Part → Option Char
  | none, none, none => some (Char.ofNat 0x3000)
  | none, none, some f => finals[f]?
  | none, some m, none => medials[m]?
  | some i, none, none => initials[i]?
  | some i, some m, f => some (syllable i m ((f.map (· + 1)).getD 0))
  | _, _, _ => none

/-- The character of a code that is put together. -/
def combined? (lead trail : Nat) : Option Char := do
  let i ← initial? (lead / 4 % 32)
  let m ← medial? (lead % 4 * 8 + trail / 32)
  let f ← final? (trail % 32)
  composed? i m f

/-- The second byte of a symbol or an ideograph. -/
def isSymbolTrail (lead trail : Nat) : Bool :=
  0x31 ≤ trail && !(0x80 ≤ trail && trail < 0x91) && trail % 128 != 127 &&
    !(lead == 0xda && 0xa1 ≤ trail && trail ≤ 0xd3)

/-- The symbol or ideograph of a code. -/
def symbol? (lead trail : Nat) : Option Char :=
  if lead < 0xd9 ∨ lead = 0xdf ∨ 0xf9 < lead ∨ !isSymbolTrail lead trail then none
  else
    let row := if lead < 0xe0 then 2 * (lead - 0xd9) else 2 * lead - 0x197
    let place := if trail < 0x91 then trail - 0x31 else trail - 0x43
    ksx1001? (row + place / 94 + 0x21) (place % 94 + 0x21)

/-- Reads a code of the combining arrangement. -/
def johabStep : UInt8 → List UInt8 → Step.Plain :=
  twoByteStep fun a b => (if a < 0xd8 then combined? a b else symbol? a b).map ([·])

end ClientGen.Charset.Korean
