import ClientGen.Charset.Step

/-!
# Punycode

Behind the last hyphen of a text stand numbers in digits of base 36. Each tells where the next
character comes in and how much greater its number is than that of the one before. The places from
which on digits end a number adapt to the numbers read so far.

## Main definitions

* `ClientGen.Charset.Punycode.insertAll` : the characters that numbers put into others.
* `ClientGen.Charset.readPunycode?` : reading bytes.
-/

namespace ClientGen.Charset

namespace Punycode

/-- The value of a digit: letters of any case, and then the digits of base ten. -/
def digit? (b : UInt8) : Option Nat :=
  let n := b.toNat
  if 0x41 ≤ n ∧ n ≤ 0x5a then some (n - 0x41)
  else if 0x61 ≤ n ∧ n ≤ 0x7a then some (n - 0x61)
  else if 0x30 ≤ n ∧ n ≤ 0x39 then some (n - 0x30 + 26)
  else none

/-- The value below which the digit at a place, counted from 1, ends a number. -/
def threshold (bias place : Nat) : Nat := min 26 (max 1 (36 * place - bias))

/-- Scales a number down by 35 until it is small; `count` is how often that was done before. -/
def scaled (count number : Nat) : Nat × Nat :=
  if 455 < number then scaled (count + 1) (number / 35) else (count, number)
termination_by number
decreasing_by exact Nat.div_lt_self (by omega) (by omega)

/-- The bias after a number that was read when there were `size` characters. -/
def adapted (number size : Nat) (isFirst : Bool) : Nat :=
  let n := if isFirst then number / 700 else number / 2
  let (count, n) := scaled 0 (n + n / size)
  36 * count + 36 * n / (n + 38)

/-- Reads a number: its value, and how many digits follow the first one. `weight` is the weight of
the digit at `place`, and `value` what the digits in front of it make up. -/
def number? (bias : Nat) : Nat → Nat → Nat → List UInt8 → Option (Nat × Nat)
  | _, _, _, [] => none
  | place, weight, value, b :: bs =>
    (digit? b).bind fun d =>
      let t := threshold bias place
      if d < t then some (value + d * weight, 0)
      else (number? bias (place + 1) (weight * (36 - t)) (value + d * weight) bs).map
        fun (n, more) => (n, more + 1)

/-- What has been read so far. -/
structure Progress where
  /-- The characters. -/
  reading : Reading
  /-- The place behind the character that came in last. -/
  place : Nat := 0
  /-- The number of that character. -/
  last : Nat := 0x80
  /-- The bias. -/
  bias : Nat := 72

/-- The number of the question mark, which stands for numbers that are too great. -/
def questionMark : Nat := 0x3f

/-- The character of a number that is not too great. -/
def charOf? (n : Nat) : Option Char :=
  if 0xd800 ≤ n ∧ n < 0xe000 then none else some (charOf n)

/-- Puts the next character in. -/
def Progress.insert (p : Progress) (number : Nat) (isFirst : Bool) : Progress :=
  let slots := p.reading.length + 1
  let target := p.place + number
  let next := p.last + target / slots
  let next := if 0x10ffff < next then questionMark else next
  let place := target % slots
  { reading := p.reading.take place ++ charOf? next :: p.reading.drop place
    place := place + 1, last := next, bias := adapted number slots isFirst }

/-- The characters after all numbers; those behind one that cannot be read are lost. -/
def insertAll (p : Progress) (isFirst : Bool) : List UInt8 → Reading
  | [] => p.reading
  | b :: bs =>
    match number? p.bias 1 1 0 (b :: bs) with
    | none => p.reading
    | some (n, more) => insertAll (p.insert n isFirst) false (bs.drop more)
termination_by bs => bs.length
decreasing_by simp only [List.length_drop, List.length_cons]; omega

/-- The bytes in front of the last hyphen, and those behind it. -/
def split (bs : List UInt8) : List UInt8 × List UInt8 :=
  let behind := (bs.reverse.takeWhile (· ≠ 0x2d)).reverse
  (bs.take (bs.length - behind.length - 1), behind)

end Punycode

/-- The character of ASCII for a byte. -/
def asciiChar? (b : UInt8) : Option Char := if b < 0x80 then some (charOf b.toNat) else none

/-- Reads bytes in Punycode; nothing if the numbers are not written in ASCII. -/
def readPunycode? (bs : List UInt8) : Option Reading :=
  let (front, numbers) := Punycode.split bs
  if numbers.all fun b => b < 0x80 then
    some (Punycode.insertAll { reading := front.map asciiChar? } true numbers)
  else none

end ClientGen.Charset
