/-!
# The shortest decimal form of a floating-point number

A finite binary floating-point number stands for an interval: the reals that round to it. Its
shortest decimal form is the decimal with the fewest digits inside that interval, and of two
such decimals the nearer one. On the grid of `n`-digit decimals only the two neighbours of the
number can be nearest, so the search tries these for `n = 1, 2, …, 17` in whole-number
arithmetic.

## Main definitions

* `ClientGen.Decimal.Binary` : a positive finite number `mantissa * 2 ^ exponent`.
* `ClientGen.Decimal.Digits` : a decimal `0.d₁d₂… * 10 ^ point`.
* `ClientGen.Decimal.Binary.shortest` : the shortest decimal form.
-/

namespace ClientGen.Decimal

/-- A positive finite floating-point number `mantissa * 2 ^ exponent`. -/
structure Binary where
  /-- The mantissa, below `2 ^ 53`. -/
  mantissa : Nat
  /-- The power of two. -/
  exponent : Int
  /-- The next smaller number is only half as far away as the next greater one. -/
  narrowBelow : Bool

/-- A decimal: the digits stand right of the point, times a power of ten. -/
structure Digits where
  /-- The number that the digits write, without trailing zeros. -/
  value : Nat
  /-- How far the point stands right of the start of the digits. -/
  point : Int
  deriving DecidableEq, Repr

/-- The parts of a finite number other than zero, its sign aside. -/
def Binary.ofFloat (x : Float) : Binary :=
  let bits : Nat := x.toBits.toNat
  let exponent : Nat := bits / Nat.pow 2 52 % 2048
  let fraction := bits % Nat.pow 2 52
  if exponent = 0 then ⟨fraction, -1074, false⟩
  else ⟨Nat.pow 2 52 + fraction, (exponent : Int) - 1075, fraction = 0 && 1 < exponent⟩

/-- The factors `(a, b)` with which `x * 2 ^ s` and `y * 10 ^ t` compare as `x * a` and `y * b`. -/
def scales (s t : Int) : Nat × Nat :=
  (Nat.pow 2 s.toNat * Nat.pow 10 (-t).toNat, Nat.pow 10 t.toNat * Nat.pow 2 (-s).toNat)

/-- The position of the point: the least `k` with the number below `10 ^ k`. -/
def Binary.point (b : Binary) : Int :=
  let estimate := Int.fdiv ((b.mantissa.log2 + b.exponent) * 30103) 100000 + 1
  let (x, y) := scales b.exponent estimate
  if b.mantissa * x < y then estimate else estimate + 1

/-- The decimal `d * 10 ^ t`, given four times the mantissa and the exponent less two, rounds to
the number. The ends of the interval round to it when the mantissa is even. -/
def Binary.rounds (b : Binary) (d : Nat) (t : Int) : Bool :=
  let (x, y) := scales (b.exponent - 2) t
  let low := (4 * b.mantissa - if b.narrowBelow then 1 else 2) * x
  let high := (4 * b.mantissa + 2) * x
  if b.mantissa % 2 = 0 then low ≤ d * y && d * y ≤ high else low < d * y && d * y < high

/-- The decimal of `n` digits that rounds to the number and lies nearest to it. -/
def Binary.withDigits? (b : Binary) (n : Nat) : Option Nat :=
  let t := b.point - n
  let (x, y) := scales b.exponent t
  let d := b.mantissa * x / y
  let rest := b.mantissa * x % y
  match b.rounds d t, b.rounds (d + 1) t with
  | true, true =>
    some (if 2 * rest < y then d else if 2 * rest = y then d + d % 2 else d + 1)
  | true, false => some d
  | false, true => some (d + 1)
  | false, false => none

/-- The number without its trailing zeros; `fuel` bounds how many are dropped. -/
def dropZeros : (fuel : Nat) → Nat → Nat
  | 0, d => d
  | fuel + 1, d => if d ≠ 0 ∧ d % 10 = 0 then dropZeros fuel (d / 10) else d

/-- The shortest decimal form. Seventeen digits always suffice. -/
def Binary.shortest (b : Binary) : Digits :=
  match (List.range 17).findSome? fun i => (b.withDigits? (i + 1)).map fun d => (i + 1, d) with
  | some (n, d) =>
    -- the upper neighbour may be the next power of ten, which has one digit more
    ⟨dropZeros 18 d, if d = Nat.pow 10 n then b.point + 1 else b.point⟩
  | none => ⟨dropZeros 18 b.mantissa, b.point⟩

end ClientGen.Decimal
