import ClientGen.Charset.CodeTable
import ClientGen.Charset.Designated
import ClientGen.Charset.Escaped
import ClientGen.Charset.Punycode
import ClientGen.Charset.Unicode
import ClientGen.Fault

/-!
# Character sets

A character set says which characters bytes write. Where bytes write none, a text gets the
replacement character. Some names of character sets stand for something else, which can be asked
for all the same but reads nothing.

## Main definitions

* `ClientGen.Charset` : character sets.
* `ClientGen.Charset.read` : what bytes write in a set.
* `ClientGen.Charset.text` : the text that bytes write in a set.
* `ClientGen.Charset.exactText?` : the same for bytes that all write characters.
-/

namespace ClientGen

/-- Why what has the name of a character set reads nothing. -/
inductive Unfit where
  /-- It makes bytes of bytes. -/
  | notText
  /-- It makes text of text. -/
  | fromText
  /-- It does not let faults be replaced. -/
  | unreadable
  deriving DecidableEq, Repr

/-- Character sets. -/
inductive Charset where
  /-- ASCII. -/
  | ascii
  /-- The first 256 characters. -/
  | latin
  /-- A set with one byte for every character, given by the characters of its last codes. -/
  | page (upper : String)
  /-- UTF-8, with or without a mark of the byte order that does not count. -/
  | utf8 (isMarked : Bool)
  /-- UTF-16, in an order or in that of its mark. -/
  | utf16 (order : Option Charset.ByteOrder)
  /-- UTF-32, in an order or in that of its mark. -/
  | utf32 (order : Option Charset.ByteOrder)
  /-- UTF-7. -/
  | utf7
  /-- Bytes with escapes. -/
  | escaped
  /-- Bytes with escapes for numbers of characters only. -/
  | rawEscaped
  /-- Punycode. -/
  | punycode
  /-- GB 2312. -/
  | gb2312
  /-- GBK. -/
  | gbk
  /-- GB 18030. -/
  | gb18030
  /-- HZ. -/
  | hz
  /-- Big5. -/
  | big5
  /-- Page 950. -/
  | page950
  /-- Big5 with the supplement of Hong Kong. -/
  | hongKong
  /-- KS X 1001. -/
  | wansung
  /-- Page 949. -/
  | page949
  /-- The combining arrangement for Korean. -/
  | johab
  /-- Shift JIS. -/
  | shiftJis
  /-- Page 932. -/
  | page932
  /-- Shift JIS with JIS X 0213. -/
  | shiftJis0213 (edition : Charset.Japanese.Edition)
  /-- JIS X 0208 and JIS X 0212 in the arrangement EUC. -/
  | eucJapanese
  /-- JIS X 0213 in the arrangement EUC. -/
  | euc0213 (edition : Charset.Japanese.Edition)
  /-- A profile of ISO 2022. -/
  | designated (profile : Charset.Profile)
  /-- What is no character set, or cannot be read in parts. -/
  | unfit (reason : Unfit)
  deriving DecidableEq, Repr

namespace Charset

/-- The fault of asking for what reads nothing. -/
def faultOf : Unfit → Fault
  | .notText => .notACharset
  | .fromText => .textExpected
  | .unreadable => .unreadableCharset

/-- Reads bytes in UTF-8; bytes that are none as a whole are not looked into. -/
def utf8Reading (isMarked : Bool) (bs : List UInt8) : Reading :=
  match String.fromUTF8? ⟨bs.toArray⟩ with
  | none => [none]
  | some s =>
    let cs := s.toList
    let cs := if isMarked ∧ cs.head? = some (charOf 0xfeff) then cs.drop 1 else cs
    cs.map some

/-- Reads bytes whose order a mark at the start tells. A mark has `size` bytes; there has to be one
if there are that many. -/
def markedReading (size : Nat) (read : ByteOrder → List UInt8 → Reading) (bs : List UInt8) :
    Except Fault Reading :=
  let mark := List.replicate (size - 2) 0 ++ [0xfe, 0xff]
  if bs.take size = mark then .ok (read .bigEndian (bs.drop size))
  else if bs.take size = mark.reverse then .ok (read .littleEndian (bs.drop size))
  else if size ≤ bs.length then .error .unreadableCharset
  else .ok (if bs.isEmpty then [] else [none])

/-- The most bytes of an escape sequence that are kept while its end is missing. -/
def heldLimit : Nat := 8

/-- What bytes write in a set. -/
def read (c : Charset) (bs : List UInt8) : Except Fault Reading :=
  match c with
  | ascii => .ok (bs.map asciiChar?)
  | latin => .ok (bs.map fun b => some (charOf b.toNat))
  | page upper =>
    let page := upper.toList
    .ok (bs.map (pageChar? page))
  | utf8 isMarked => .ok (utf8Reading isMarked bs)
  | utf16 (some order) => .ok (readUtf16 order bs)
  | utf16 none => markedReading 2 readUtf16 bs
  | utf32 (some order) => .ok (readUtf32 order bs)
  | utf32 none => markedReading 4 readUtf32 bs
  | utf7 => .ok (readUtf7 bs)
  | escaped => .ok (readEscaped bs)
  | rawEscaped => .ok (readRawEscaped bs)
  | punycode =>
    match readPunycode? bs with
    | some r => .ok r
    | none => .error .undecodableText
  | gb2312 => .ok (plainSteps Chinese.gb2312Step bs)
  | gbk => .ok (plainSteps Chinese.gbkStep bs)
  | gb18030 => .ok (plainSteps Chinese.gb18030Step bs)
  | hz => .ok (steps Chinese.hzStep false bs)
  | big5 => .ok (plainSteps Chinese.big5Step bs)
  | page950 => .ok (plainSteps Chinese.page950Step bs)
  | hongKong => .ok (plainSteps Chinese.hongKongStep bs)
  | wansung => .ok (plainSteps Korean.wansungStep bs)
  | page949 => .ok (plainSteps Korean.page949Step bs)
  | johab => .ok (plainSteps Korean.johabStep bs)
  | shiftJis => .ok (plainSteps Japanese.shiftStep bs)
  | page932 => .ok (plainSteps Japanese.page932Step bs)
  | shiftJis0213 edition => .ok (plainSteps (Japanese.shift0213Step edition) bs)
  | eucJapanese => .ok (plainSteps Japanese.eucStep bs)
  | euc0213 edition => .ok (plainSteps (Japanese.euc0213Step edition) bs)
  | designated profile =>
    if heldLimit < unfinished profile.step {} bs then .error .unreadableCharset
    else .ok (steps profile.step {} bs)
  | unfit reason => .error (faultOf reason)

/-- The text that bytes write in a set; no bytes are an empty text in any. -/
def text (c : Charset) (bs : List UInt8) : Except Fault String :=
  if bs.isEmpty then .ok ""
  else do return String.ofList ((← c.read bs).map (·.getD replacement))

/-- Reads bytes that are known to be all there are: they are in the small-endian order if no mark
tells another one. -/
def readWhole (c : Charset) (bs : List UInt8) : Except Fault Reading :=
  match c, c.read bs with
  | utf16 none, .error _ => .ok (readUtf16 .littleEndian bs)
  | utf32 none, .error _ => .ok (readUtf32 .littleEndian bs)
  | _, r => r

/-- The text that bytes write in a set, if all of them write characters. -/
def exactText? (c : Charset) (bs : List UInt8) : Option String :=
  match c.readWhole bs with
  | .ok r => (r.mapM id).map String.ofList
  | .error _ => none

end Charset

end ClientGen
