import ClientGen.Charset.Step

/-!
# Forms of Unicode

The numbers of characters are written in units of two or four bytes, in one of two orders, or in a
form of seven bits, in which base 64 stands between a plus sign and the first other character.

## Main definitions

* `ClientGen.Charset.ByteOrder` : the orders of bytes.
* `ClientGen.Charset.readUtf16`, `ClientGen.Charset.readUtf32`, `ClientGen.Charset.readUtf7` :
  reading bytes.
-/

namespace ClientGen.Charset

/-- The order of the bytes of a unit. -/
inductive ByteOrder where
  /-- The greatest byte comes first. -/
  | bigEndian
  /-- The least byte comes first. -/
  | littleEndian
  deriving DecidableEq, Repr

/-- The number that bytes write. -/
def ByteOrder.number (o : ByteOrder) (bs : List UInt8) : Nat :=
  let bs := match o with
    | bigEndian => bs
    | littleEndian => bs.reverse
  bs.foldl (fun n b => 256 * n + b.toNat) 0

/-- The number is that of the first half of a pair. -/
def isHighHalf (n : Nat) : Bool := 0xd800 ≤ n && n ≤ 0xdbff

/-- The number is that of the second half of a pair. -/
def isLowHalf (n : Nat) : Bool := 0xdc00 ≤ n && n ≤ 0xdfff

/-- The character that two halves write. -/
def joinHalves (high low : Nat) : Char :=
  charOf (0x10000 + (high - 0xd800) * 0x400 + (low - 0xdc00))

/-- Reads a character in units of two bytes. -/
def utf16Step (o : ByteOrder) (b : UInt8) : List UInt8 → Step.Plain
  | [] => .short
  | c :: bs =>
    let unit := o.number [b, c]
    if isLowHalf unit then .wrong 1
    else if isHighHalf unit then
      match bs with
      | d :: e :: _ =>
        let low := o.number [d, e]
        if isLowHalf low then .one (joinHalves unit low) 3 else .wrong 1
      | _ => .short
    else .one (charOf unit) 1

/-- Reads units of two bytes. -/
def readUtf16 (o : ByteOrder) : List UInt8 → Reading := plainSteps (utf16Step o)

/-- Reads a character in a unit of four bytes. -/
def utf32Step (o : ByteOrder) (b : UInt8) : List UInt8 → Step.Plain
  | c :: d :: e :: _ =>
    let unit := o.number [b, c, d, e]
    if isHighHalf unit || isLowHalf unit || 0x10ffff < unit then .wrong 3
    else .one (charOf unit) 3
  | _ => .short

/-- Reads units of four bytes. -/
def readUtf32 (o : ByteOrder) : List UInt8 → Reading := plainSteps (utf32Step o)

/-! ### Seven bits -/

/-- The value of a digit of base 64. -/
def sixBits? (b : UInt8) : Option Nat :=
  let n := b.toNat
  if 0x41 ≤ n ∧ n ≤ 0x5a then some (n - 0x41)
  else if 0x61 ≤ n ∧ n ≤ 0x7a then some (n - 0x61 + 26)
  else if 0x30 ≤ n ∧ n ≤ 0x39 then some (n - 0x30 + 52)
  else if n = 0x2b then some 62
  else if n = 0x2f then some 63
  else none

/-- What is left of the digits of base 64 that have been read. -/
structure Shifted where
  /-- The number of bits that no unit has used yet. -/
  count : Nat := 0
  /-- Their value. -/
  bits : Nat := 0
  /-- The first half of a pair that waits for its second one. -/
  high : Option Nat := none

namespace Shifted

/-- A first half that stays alone writes no character. -/
def lone (s : Shifted) : Reading := s.high.toList.map fun _ => none

/-- Adds a unit. -/
def withUnit (s : Shifted) (unit : Nat) : Reading × Shifted :=
  match s.high with
  | some high =>
    if isLowHalf unit then ([some (joinHalves high unit)], { s with high := none })
    else if isHighHalf unit then ([none], { s with high := some unit })
    else ([none, some (charOf unit)], { s with high := none })
  | none =>
    if isHighHalf unit then ([], { s with high := some unit })
    else if isLowHalf unit then ([none], s)
    else ([some (charOf unit)], s)

/-- Adds a digit. -/
def withDigit (s : Shifted) (digit : Nat) : Reading × Shifted :=
  let bits := 64 * s.bits + digit
  let count := s.count + 6
  if count < 16 then ([], { s with bits, count })
  else
    let rest := Nat.pow 2 (count - 16)
    { s with bits := bits % rest, count := count - 16 }.withUnit (bits / rest)

/-- A whole digit, or bits other than zero, are left over. -/
def isUnfinished (s : Shifted) : Bool := 6 ≤ s.count || s.bits != 0

end Shifted

/-- The byte stands for itself outside base 64. -/
def isDirect (b : UInt8) : Bool := b < 0x80 && b != 0x2b

/-- What a byte outside base 64 writes, other than a plus sign. -/
def directRead (b : UInt8) : Option Char := if isDirect b then some (charOf b.toNat) else none

/-- Reads the form of seven bits; `shifted` is what is left of base 64 inside it. A character that
ends base 64 and is left over bits belongs to the fault that these are. -/
def utf7From (shifted : Option Shifted) : List UInt8 → Reading
  | [] =>
    match shifted with
    | none => []
    | some s => if s.high.isSome || s.isUnfinished then [none] else []
  | b :: bs =>
    match shifted with
    | none =>
      if b ≠ 0x2b then directRead b :: utf7From none bs
      else match bs with
        | [] => []
        | c :: rest =>
          if c = 0x2d then some '+' :: utf7From none rest
          else if (sixBits? c).isNone then none :: utf7From none rest
          else utf7From (some {}) (c :: rest)
    | some s =>
      match sixBits? b with
      | some digit =>
        let (cs, s) := s.withDigit digit
        cs ++ utf7From (some s) bs
      | none =>
        if s.isUnfinished then none :: utf7From none bs
        else
          let lone := if isDirect b then s.lone else []
          if b = 0x2d then lone ++ utf7From none bs
          else lone ++ directRead b :: utf7From none bs

/-- Reads the form of seven bits. -/
def readUtf7 (bs : List UInt8) : Reading := utf7From none bs

end ClientGen.Charset
