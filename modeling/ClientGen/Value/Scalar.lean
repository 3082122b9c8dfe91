/-!
# Scalars

The undivided values of a document: null, truth values, numbers, text, dates, moments and
byte strings. Scalars also serve as the keys of mappings. As keys, numbers of any kind are
compared by value, truth values counting as 0 and 1, and moments with an offset are compared
as instants. A floating-point value that is no number equals nothing but itself, so it carries
where it comes from.

## Main definitions

* `ClientGen.Date`, `ClientGen.Moment` : calendar dates and times of day on them.
* `ClientGen.NaNSource` : where a value that is no number comes from.
* `ClientGen.Scalar` : the undivided values.
* `ClientGen.Scalar.sameKey` : two scalars name the same entry of a mapping.
-/

namespace ClientGen

/-- A day of the calendar. -/
structure Date where
  /-- The year, from 1 to 9999. -/
  year : Nat
  /-- The month, from 1 to 12. -/
  month : Nat
  /-- The day of the month, from 1. -/
  day : Nat
  deriving DecidableEq, Repr, Inhabited

/-- A time of day on a date, with the offset from universal time in minutes if it is known. -/
structure Moment where
  /-- The day. -/
  date : Date
  /-- The hour, from 0 to 23. -/
  hour : Nat
  /-- The minute, from 0 to 59. -/
  minute : Nat
  /-- The second, from 0 to 59. -/
  second : Nat
  /-- The millionths of the second. -/
  micro : Nat
  /-- Minutes ahead of universal time. -/
  offset : Option Int
  deriving DecidableEq, Repr, Inhabited

namespace Date

/-- The year has 366 days. -/
def isLeapYear (y : Nat) : Bool := y % 4 == 0 && (y % 100 != 0 || y % 400 == 0)

/-- The number of days of a month. -/
def daysIn (y m : Nat) : Nat :=
  if m = 2 then (if isLeapYear y then 29 else 28)
  else if m = 4 ∨ m = 6 ∨ m = 9 ∨ m = 11 then 30 else 31

/-- The date, if the calendar has it. -/
def ofParts? (y m d : Nat) : Option Date :=
  if 1 ≤ y ∧ y ≤ 9999 ∧ 1 ≤ m ∧ m ≤ 12 ∧ 1 ≤ d ∧ d ≤ daysIn y m then some ⟨y, m, d⟩ else none

/-- Days before the date since the start of year 1. -/
def dayNumber (d : Date) : Nat :=
  let y := d.year - 1
  365 * y + y / 4 - y / 100 + y / 400
    + (List.range (d.month - 1)).foldl (fun n m => n + daysIn d.year (m + 1)) d.day

end Date

namespace Moment

/-- Microseconds since the start of year 1 on the moment's own clock. -/
def clock (t : Moment) : Int :=
  ((((t.date.dayNumber * 24 + t.hour) * 60 + t.minute) * 60 + t.second) * 1000000 + t.micro : Nat)

/-- Both moments have an offset and are one instant, or neither has one and their clocks agree. -/
def sameInstant (s t : Moment) : Bool :=
  match s.offset, t.offset with
  | some a, some b => s.clock - a * 60000000 == t.clock - b * 60000000
  | none, none => s.clock == t.clock
  | _, _ => false

end Moment

/-- Where a floating-point value that is no number comes from. -/
inductive NaNSource where
  /-- The word for it in JSON; wherever it stands, it is the same value. -/
  | jsonWord
  /-- The word for it in YAML; wherever it stands, it is the same value. -/
  | yamlWord
  /-- The part of a document with that number, which is a value of its own. -/
  | part (n : Nat)
  deriving DecidableEq, Repr

/-- The undivided values of a document. -/
inductive Scalar where
  /-- No value. -/
  | null
  /-- A truth value. -/
  | bool (b : Bool)
  /-- A whole number of any size. -/
  | int (n : Int)
  /-- A binary floating-point number. -/
  | float (x : Float)
  /-- A floating-point value that is no number. -/
  | nan (source : NaNSource)
  /-- A text. -/
  | text (s : String)
  /-- A day. -/
  | date (d : Date)
  /-- A time of day on a date. -/
  | moment (t : Moment)
  /-- A byte string. -/
  | bytes (bs : List UInt8)
  deriving DecidableEq, Inhabited

namespace Scalar

/-- The whole number `n` and the floating-point number `x` are equal as numbers. -/
def intEqFloat (n : Int) (x : Float) : Bool :=
  if x.isNaN || x.isInf then false
  else
    let bits := x.toBits.toNat
    let exponent := bits / Nat.pow 2 52 % 2048
    let fraction := bits % Nat.pow 2 52
    let negative := bits / Nat.pow 2 63 == 1
    let mantissa := if exponent = 0 then fraction else fraction + Nat.pow 2 52
    -- the magnitude is `mantissa * 2 ^ (e - 1075)` with `e = max exponent 1`
    let e := max exponent 1
    let magnitude := n.natAbs
    (mantissa * Nat.pow 2 (e - 1075) == magnitude * Nat.pow 2 (1075 - e)) &&
      (magnitude == 0 || negative == (n < 0))

/-- Two scalars name the same entry of a mapping: numbers are compared by value, with truth
values as 0 and 1, and everything else within its own kind. -/
def sameKey : Scalar → Scalar → Bool
  | null, null => true
  | bool a, bool b => a == b
  | bool a, int n | int n, bool a => n == (if a then 1 else 0)
  | bool a, float x | float x, bool a => x == (if a then 1.0 else 0.0)
  | int m, int n => m == n
  | int n, float x | float x, int n => intEqFloat n x
  | float x, float y => x == y
  | nan a, nan b => a == b
  | text s, text t => s == t
  | date d, date e => d == e
  | moment s, moment t => s.sameInstant t
  | bytes a, bytes b => a == b
  | _, _ => false

end Scalar

end ClientGen
