import ClientGen.Decimal.Shortest

/-!
# The text of a floating-point number

A number is written with the digits of its shortest decimal form. The point is written in place
while it stands close to the digits, and otherwise as a power of ten.

## Main definitions

* `ClientGen.Decimal.Layout` : the choices that fix the text.
* `ClientGen.Decimal.Layout.write` : the text of a number.
* `ClientGen.Decimal.document` : the layout of numbers in documents.
-/

namespace ClientGen.Decimal

/-- The choices that fix the text of a floating-point number. -/
structure Layout where
  /-- The least position of the point that is written in place. -/
  lowest : Int
  /-- The greatest position of the point that is written in place. -/
  highest : Int
  /-- The least number of digits of a power of ten. -/
  exponentDigits : Nat
  /-- The text of a value that is not a number. -/
  notANumber : String
  /-- The text of an infinite value, its sign aside. -/
  infinity : String

/-- Numbers in documents: the point is written in place for 0.0001 up to below 10 to the 16th, a
whole number keeps one zero after the point, and a power of ten has a sign and two digits. -/
def document : Layout :=
  { lowest := -3, highest := 16, exponentDigits := 2, notANumber := "nan", infinity := "inf" }

/-- The decimal digits of a number, most significant first. -/
def digitsOf (n : Nat) : List Char := Nat.toDigits 10 n

/-- Zeros in front of the digits up to the given length. -/
def padded (length : Nat) (cs : List Char) : List Char :=
  List.replicate (length - cs.length) '0' ++ cs

/-- The digits with the point in place. -/
def Digits.inPlace (d : Digits) : List Char :=
  let cs := digitsOf d.value
  if d.point ≤ 0 then '0' :: '.' :: List.replicate (-d.point).toNat '0' ++ cs
  else
    let whole := d.point.toNat
    if cs.length ≤ whole then cs ++ List.replicate (whole - cs.length) '0' ++ ['.', '0']
    else cs.take whole ++ '.' :: cs.drop whole

/-- One digit before the point and a power of ten. -/
def Digits.scientific (exponentDigits : Nat) (d : Digits) : List Char :=
  let power := d.point - 1
  let fraction := match digitsOf d.value with
    | [] => []
    | [c] => [c]
    | c :: cs => c :: '.' :: cs
  fraction ++ 'e' :: (if power < 0 then '-' else '+') ::
    padded exponentDigits (digitsOf power.natAbs)

/-- The text of a number. -/
def Layout.write (l : Layout) (x : Float) : String :=
  if x.isNaN then l.notANumber
  else
    let sign := if Nat.pow 2 63 ≤ x.toBits.toNat then "-" else ""
    if x.isInf then sign ++ l.infinity
    else if x == 0 then sign ++ "0.0"
    else
      let d := (Binary.ofFloat x).shortest
      sign ++ String.ofList
        (if l.lowest ≤ d.point ∧ d.point ≤ l.highest then d.inPlace
         else d.scientific l.exponentDigits)

end ClientGen.Decimal
