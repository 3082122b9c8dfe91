import ClientGen.Text.Blank
import ClientGen.Text.Digit

/-!
# Reading numbers

A floating-point number is an optional sign, digits with an optional point among or beside them,
and an optional power of ten; or one of the words `inf`, `infinity` and `nan` in any case. A
whole number is an optional sign and digits of a base. Both may have blanks around them, and
single underscores between digits.

## Main definitions

* `ClientGen.Decimal.float?` : reading a floating-point number of ASCII characters.
* `ClientGen.Decimal.looseFloat?` : the same with blanks, underscores and digits of any script.
* `ClientGen.Decimal.integer?` : reading a whole number in a base.
-/

namespace ClientGen.Decimal

/-- The value of a digit, letters standing for the digits from ten on. -/
def digitValue? (base : Nat) (c : Char) : Option Nat :=
  let v :=
    if '0' ≤ c ∧ c ≤ '9' then some (c.toNat - 48)
    else if 'a' ≤ c ∧ c ≤ 'z' then some (c.toNat - 87)
    else if 'A' ≤ c ∧ c ≤ 'Z' then some (c.toNat - 55)
    else none
  v.filter (· < base)

/-- The most decimal digits of a whole number that is read or written. -/
def digitLimit : Nat := 4300

/-- The character is one of the ten ASCII digits. -/
def isAsciiDigit (c : Char) : Bool := '0' ≤ c && c ≤ '9'

/-- The number that ASCII digits write. -/
def natOf (cs : List Char) : Nat := cs.foldl (fun n c => 10 * n + (c.toNat - 48)) 0

/-- The sign in front, and what follows it. -/
def splitSign : List Char → Bool × List Char
  | '-' :: cs => (true, cs)
  | '+' :: cs => (false, cs)
  | cs => (false, cs)

/-- The floating-point number nearest to `mantissa * 10 ^ exponent`. A magnitude beyond every
number is infinite, and one below every number is zero. -/
def toFloat (negative : Bool) (mantissa : Nat) (exponent : Int) : Float :=
  let magnitude : Float :=
    if mantissa = 0 then 0
    else
      let leading := (Nat.toDigits 10 mantissa).length + exponent
      if 310 < leading then 1.0 / 0.0
      else if leading < -330 then 0
      else if exponent < 0 then Float.ofScientific mantissa true exponent.natAbs
      else Float.ofScientific (mantissa * Nat.pow 10 exponent.natAbs) false 0
  if negative then -magnitude else magnitude

/-- The power of ten that ends a number: nothing, or `e`, an optional sign and digits. -/
def exponent? : List Char → Option Int
  | [] => some 0
  | c :: cs =>
    if c = 'e' ∨ c = 'E' then
      let (negative, ds) := splitSign cs
      if ds.isEmpty || !ds.all isAsciiDigit then none
      else some (if negative then -(natOf ds : Int) else natOf ds)
    else none

/-- Digits with an optional point and power of ten. -/
def unsigned? (negative : Bool) (cs : List Char) : Option Float :=
  let whole := cs.takeWhile isAsciiDigit
  let rest := cs.dropWhile isAsciiDigit
  let (fraction, rest) := match rest with
    | '.' :: rest => (rest.takeWhile isAsciiDigit, rest.dropWhile isAsciiDigit)
    | _ => ([], rest)
  if whole.isEmpty && fraction.isEmpty then none
  else (exponent? rest).map fun e =>
    toFloat negative (natOf (whole ++ fraction)) (e - fraction.length)

/-- The floating-point number that the characters write. -/
def float? (cs : List Char) : Option Float :=
  let (negative, body) := splitSign cs
  let word := String.ofList (body.map Char.toLower)
  if word = "inf" ∨ word = "infinity" then some (if negative then -(1.0 / 0.0) else 1.0 / 0.0)
  else if word = "nan" then some (0.0 / 0.0)
  else unsigned? negative body

/-- The characters without the underscores between two digits; `none` if an underscore stands
anywhere else. `previous` says whether the character before is a digit. -/
def joinDigits? (isDigit : Char → Bool) (previous : Bool) : List Char → Option (List Char)
  | [] => some []
  | '_' :: c :: cs =>
    if previous && isDigit c then (joinDigits? isDigit true cs).map (c :: ·) else none
  | c :: cs => if c = '_' then none else (joinDigits? isDigit (isDigit c) cs).map (c :: ·)

/-- The characters with decimal digits of every script in ASCII. -/
def asciiDigits (cs : List Char) : List Char :=
  cs.map fun c => match Text.decimalValue? c with
    | some v => Char.ofNat (48 + v)
    | none => c

/-- The floating-point number that the characters write, with blanks around it, digits of any
script, and single underscores between digits. -/
def looseFloat? (cs : List Char) : Option Float :=
  (joinDigits? isAsciiDigit false (asciiDigits (Text.trimWith Text.isWhiteSpace cs))).bind float?

/-- The mark of a base: `0x`, `0o` or `0b`, in either case. -/
def baseMark (base : Nat) : List Char :=
  if base = 16 then ['x', 'X']
  else if base = 8 then ['o', 'O']
  else if base = 2 then ['b', 'B']
  else []

/-- The whole number that the characters write in a base from 2 to 36, with blanks around it,
decimal digits of any script, single underscores between digits, and the mark of the base. -/
def integer? (base : Nat) (cs : List Char) : Option Int :=
  let (negative, body) := splitSign (asciiDigits (Text.trimWith Text.isWhiteSpace cs))
  let isDigit := fun c => (digitValue? base c).isSome
  let digits := match body with
    | '0' :: m :: rest =>
      if (baseMark base).contains m then joinDigits? isDigit true rest
      else joinDigits? isDigit false body
    | _ => joinDigits? isDigit false body
  match digits with
  | none | some [] => none
  | some ds =>
    (ds.foldlM (fun n c => (digitValue? base c).map (base * n + ·)) 0).map fun (n : Nat) =>
      if negative then -(n : Int) else n

end ClientGen.Decimal
