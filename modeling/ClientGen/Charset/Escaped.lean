import ClientGen.Charset.Step
import ClientGen.Decimal.Reader

/-!
# Texts with escapes

In a text with escapes every byte is the number of its character, and a backslash starts the escape
of a character. The raw form knows only the escapes with the number of a character.

## Main definitions

* `ClientGen.Charset.readEscaped` : reading bytes with escapes.
* `ClientGen.Charset.readRawEscaped` : reading bytes in the raw form.
-/

namespace ClientGen.Charset

/-- The value of a hexadecimal digit. -/
def hexValue? (b : UInt8) : Option Nat := Decimal.digitValue? 16 (charOf b.toNat)

/-- The number of digits at the front, of `count` at the most. -/
def digitCount (count : Nat) (bs : List UInt8) : Nat :=
  ((bs.take count).takeWhile fun b => (hexValue? b).isSome).length

/-- The character of a number, if there is one. -/
def character? (n : Nat) : Option Char :=
  if (0xd800 ≤ n ∧ n < 0xe000) ∨ 0x110000 ≤ n then none else some (charOf n)

/-- Reads the number of a character in hexadecimal digits behind a backslash and a letter. -/
def numberStep (count : Nat) (bs : List UInt8) : Step.Plain :=
  let digits := digitCount count bs
  if digits < count then .wrong (digits + 1)
  else
    let n := (bs.take count).foldl (fun n b => 16 * n + (hexValue? b).getD 0) 0
    match character? n with
    | some c => .one c (count + 1)
    | none => .wrong (count + 1)

/-- The byte is an octal digit. -/
def isOctal (b : UInt8) : Bool := 0x30 ≤ b && b ≤ 0x37

/-- Reads the number of a character in up to three octal digits. -/
def octalStep (bs : List UInt8) : Step.Plain :=
  let digits := (bs.take 3).takeWhile isOctal
  .one (charOf (digits.foldl (fun n b => 8 * n + (b.toNat - 0x30)) 0)) digits.length

/-- The character behind a backslash that stands for another one. -/
def shortEscape? (b : UInt8) : Option (List Char) :=
  [(0x0a, []), (0x5c, ['\\']), (0x27, ['\'']), (0x22, ['"']), (0x62, ['\x08']), (0x66, ['\x0c']),
    (0x74, ['\t']), (0x6e, ['\n']), (0x72, ['\r']), (0x76, ['\x0b']), (0x61, ['\x07'])].lookup b

/-- The number of digits of the escapes with the number of a character in the raw form. -/
def rawDigits? (b : UInt8) : Option Nat :=
  if b = 0x75 then some 4 else if b = 0x55 then some 8 else none

/-- The same for all escapes. -/
def escapeDigits? (b : UInt8) : Option Nat := if b = 0x78 then some 2 else rawDigits? b

/-- Reads a character by its name in braces. No names are known. -/
def nameStep : List UInt8 → Step.Plain
  | 0x7b :: bs =>
    let name := bs.takeWhile (· ≠ 0x7d)
    if name.length = bs.length then .short
    else if name.isEmpty then .wrong 2
    else .wrong (name.length + 3)
  | [] => .short
  | _ => .wrong 1

/-- Reads an escape, whose bytes behind the backslash are given. -/
def escapeStep : List UInt8 → Step.Plain
  | [] => .short
  | b :: bs =>
    match shortEscape? b, escapeDigits? b with
    | some cs, _ => .chars cs 1 ()
    | none, some count => numberStep count bs
    | none, none =>
      if isOctal b then octalStep (b :: bs)
      else if b = 0x4e then nameStep bs
      else .chars ['\\', charOf b.toNat] 1 ()

/-- Reads bytes with escapes. -/
def readEscaped : List UInt8 → Reading :=
  plainSteps fun b bs => if b = 0x5c then escapeStep bs else .one (charOf b.toNat) 0

/-- Reads an escape in the raw form. -/
def rawStep : List UInt8 → Step.Plain
  | [] => .one '\\' 0
  | b :: bs =>
    match rawDigits? b with
    | some count => numberStep count bs
    | none => .chars ['\\', charOf b.toNat] 1 ()

/-- Reads bytes in the raw form. -/
def readRawEscaped : List UInt8 → Reading :=
  plainSteps fun b bs => if b = 0x5c then rawStep bs else .one (charOf b.toNat) 0

end ClientGen.Charset
