import ClientGen.ReadError
import ClientGen.Value.Scalar
import ClientGen.Yaml.Kind

/-!
# The values of YAML scalars

The kind of a scalar decides how its text is read. A tag can announce a kind that the text does
not fit; such a text has no value.

## Main definitions

* `ClientGen.Yaml.Scalar.ofText` : the value of a text of a kind.
-/

namespace ClientGen.Yaml.Scalar

/-- Cuts characters at every colon. -/
def parts (cs : List Char) : List (List Char) := cs.splitOn ':'

/-- The number of decimal digits of any script. -/
def digitCount (cs : List Char) : Nat := (Decimal.asciiDigits cs).countP Decimal.isAsciiDigit

/-- A whole number in a base; one of base ten is limited in its digits. -/
def integer (base : Nat) (cs : List Char) : Except ReadError Int :=
  match Decimal.integer? base cs with
  | some n =>
    if base = 10 ∧ Decimal.digitLimit < digitCount cs then .error (.fault .malformedNumber)
    else .ok n
  | none => .error (.fault .malformedNumber)

/-- A whole number: of base two, eight or sixteen by its start, of base sixty if it has colons,
and of base ten otherwise. -/
def int (text : String) : Except ReadError Int := do
  let cs := text.toList.filter (· != '_')
  if cs.isEmpty then throw (.fault .emptyNumber)
  let (negative, body) := Decimal.splitSign cs
  let n ← match body with
    | [] => throw (.fault .emptyNumber)
    | ['0'] => pure 0
    | '0' :: 'b' :: ds => integer 2 ds
    | '0' :: 'x' :: ds => integer 16 ds
    | '0' :: _ => integer 8 body
    | _ =>
      if body.contains ':' then do
        let ds ← (parts body).mapM (integer 10)
        pure (ds.foldl (fun n d => 60 * n + d) 0)
      else integer 10 body
  return if negative then -n else n

/-- A floating-point number of base ten. -/
def decimal (cs : List Char) : Except ReadError Float :=
  match Decimal.looseFloat? cs with
  | some x => .ok x
  | none => .error (.fault .malformedNumber)

/-- The sum of digits of base sixty, the last one first, each times its power of sixty. The power
has to be a floating-point number itself. -/
def sexagesimal (sum : Float) (power : Nat) : List Float → Except ReadError Float
  | [] => .ok sum
  | d :: ds =>
    let x := Decimal.toFloat false power 0
    if x.isInf then .error (.fault .numberTooGreat)
    else sexagesimal (sum + d * x) (60 * power) ds

/-- A floating-point number: infinite, no number, of base sixty if it has colons, and of base ten
otherwise. Digits of base sixty are added up from the last one on. `part` is the number of the
node. -/
def float (part : Nat) (text : String) : Except ReadError ClientGen.Scalar := do
  let cs := (text.toList.filter (· != '_')).map Char.toLower
  if cs.isEmpty then throw (.fault .emptyNumber)
  let (negative, body) := Decimal.splitSign cs
  if body = ['.', 'n', 'a', 'n'] then return .nan .yamlWord
  let x ←
    if body = ['.', 'i', 'n', 'f'] then pure (1.0 / 0.0)
    else if body.contains ':' then do sexagesimal 0.0 1 (← (parts body).mapM decimal).reverse
    else decimal body
  return if x.isNaN then .nan (.part part) else .float (if negative then -x else x)

/-- A truth value. -/
def bool (text : String) : Except ReadError Bool :=
  let word := String.ofList (text.toList.map Char.toLower)
  if ["yes", "true", "on"].contains word then .ok true
  else if ["no", "false", "off"].contains word then .ok false
  else .error (.fault .unknownTruthWord)

/-- The value of a character of the base64 alphabet. -/
def sixBits? (c : Char) : Option Nat :=
  if 'A' ≤ c ∧ c ≤ 'Z' then some (c.toNat - 65)
  else if 'a' ≤ c ∧ c ≤ 'z' then some (c.toNat - 71)
  else if '0' ≤ c ∧ c ≤ '9' then some (c.toNat + 4)
  else if c = '+' then some 62
  else if c = '/' then some 63
  else none

/-- Reads base64 characters; characters out of the alphabet are passed over. `place` is the place
in the group of four, `pads` the number of padding characters since the last one of the alphabet,
`left` holds the bits that wait for more, and `done` the bytes so far, in reverse. -/
def base64 (place pads left : Nat) (done : List UInt8) : List Char → Option (List UInt8)
  | [] => if place = 0 then some done.reverse else none
  | '=' :: rest =>
    if place < 2 then base64 place pads left done rest
    else if 4 ≤ place + pads + 1 then some done.reverse
    else base64 place (pads + 1) left done rest
  | c :: rest =>
    match sixBits? c with
    | none => base64 place pads left done rest
    | some n =>
      if place = 0 then base64 1 0 n done rest
      else if place = 1 then base64 2 0 (n % 16) ((left * 4 + n / 16).toUInt8 :: done) rest
      else if place = 2 then base64 3 0 (n % 4) ((left * 16 + n / 4).toUInt8 :: done) rest
      else base64 0 0 0 ((left * 64 + n).toUInt8 :: done) rest

/-- A byte string. -/
def binary (text : String) : Except ReadError (List UInt8) :=
  if text.toList.any fun c => 0x80 ≤ c.toNat then .error .malformed
  else match base64 0 0 0 [] text.toList with
    | some bs => .ok bs
    | none => .error .malformed

/-- The millionths of a second that the digits behind the point write. -/
def micro (ds : List Char) : Nat :=
  let six := ds.take 6
  Decimal.natOf six * Nat.pow 10 (6 - six.length)

/-- A date or a moment of the calendar. -/
def timestamp (text : String) : Except ReadError ClientGen.Scalar := do
  let some t := Stamp.ofText? (Kind.dropLineFeed text.toList)
    | throw (.fault .malformedDate)
  let (year, month, day) := t.date
  let date? := Date.ofParts? (Decimal.natOf year) (Decimal.natOf month) (Decimal.natOf day)
  let some date := date? | throw (.fault .noSuchDate)
  match t.clock with
  | none => return .date date
  | some (h, m, s) =>
    let (hour, minute, second) := (Decimal.natOf h, Decimal.natOf m, Decimal.natOf s)
    if 24 ≤ hour ∨ 60 ≤ minute ∨ 60 ≤ second then throw (.fault .noSuchDate)
    let offset := t.zone.map fun (negative, h, m) =>
      let minutes : Int := Decimal.natOf h * 60 + Decimal.natOf m
      if negative then -minutes else minutes
    match offset with
    | some o => if 24 * 60 ≤ o.natAbs then throw (.fault .noSuchDate)
    | none => pure ()
    return .moment { date, hour, minute, second, micro := micro t.fraction, offset }

/-- The value of a text of a kind; kinds of collections and marks have none. `part` is the number
of the node. -/
def ofText (part : Nat) (k : Kind) (text : String) : Except ReadError ClientGen.Scalar :=
  match k with
  | .null => .ok .null
  | .bool => (bool text).map .bool
  | .int => (int text).map .int
  | .float => float part text
  | .binary => (binary text).map .bytes
  | .timestamp => timestamp text
  | .text => .ok (.text text)
  | _ => .error .malformed

end ClientGen.Yaml.Scalar
