import ClientGen.Decimal.Layout
import ClientGen.Decimal.Reader
import ClientGen.Fault
import ClientGen.Text.Printable
import ClientGen.Value.Basic

/-!
# Values as text

A value has two texts. Its literal form shows its kind: texts are quoted, dates are written as
constructor calls, and containers list the literal forms of their parts. Its display form is the
bare text for a text, a date or a moment, and the literal form for everything else.

A text is quoted with single quotes, or with double quotes if it holds single quotes and no
double ones. The quote in use, the backslash and characters without a visible form are escaped.
A container inside itself is shown as an ellipsis in the brackets of its kind. Whole numbers of
many thousand digits have a display form that is never asked for: what shows values refuses them.

## Main definitions

* `ClientGen.Value.literal` : the literal form.
* `ClientGen.Value.display` : the display form.
* `ClientGen.Value.shown` : the display form of a value without too long numbers.
-/

namespace ClientGen

open Decimal (digitsOf padded)

/-- The number with at least `width` decimal digits. -/
def paddedNumber (width n : Nat) : String := String.ofList (padded width (digitsOf n))

/-- The number with at least `width` lower-case hexadecimal digits. -/
def paddedHex (width n : Nat) : List Char := padded width (Nat.toDigits 16 n)

namespace Text

/-- The quote for a text: the double one if it has single quotes only. -/
def quoteFor (cs : List Char) : Char :=
  if cs.contains '\'' && !cs.contains '"' then '"' else '\''

/-- A character inside a quoted text. -/
def escapeIn (quote c : Char) : List Char :=
  if c = quote ∨ c = '\\' then ['\\', c]
  else if c = '\t' then ['\\', 't']
  else if c = '\n' then ['\\', 'n']
  else if c = '\r' then ['\\', 'r']
  else if isPrintable c then [c]
  else if c.toNat < 0x100 then '\\' :: 'x' :: paddedHex 2 c.toNat
  else if c.toNat < 0x10000 then '\\' :: 'u' :: paddedHex 4 c.toNat
  else '\\' :: 'U' :: paddedHex 8 c.toNat

/-- The text in quotes. -/
def quote (s : String) : String :=
  let q := quoteFor s.toList
  String.ofList (q :: s.toList.flatMap (escapeIn q) ++ [q])

/-- A byte inside a quoted byte string. -/
def escapeByte (q : Char) (b : UInt8) : List Char :=
  if b.toNat < 0x7f then
    let c := Char.ofNat b.toNat
    if 0x20 ≤ b.toNat || c == '\t' || c == '\n' || c == '\r' then escapeIn q c
    else '\\' :: 'x' :: paddedHex 2 b.toNat
  else '\\' :: 'x' :: paddedHex 2 b.toNat

/-- The byte string in quotes, marked as bytes. -/
def quoteBytes (bs : List UInt8) : String :=
  let q := quoteFor (bs.map fun b => Char.ofNat b.toNat)
  String.ofList ('b' :: q :: bs.flatMap (escapeByte q) ++ [q])

end Text

/-- Year, month and day with hyphens. -/
def Date.display (d : Date) : String :=
  paddedNumber 4 d.year ++ "-" ++ paddedNumber 2 d.month ++ "-" ++ paddedNumber 2 d.day

/-- Hours and minutes ahead of universal time, with a sign. -/
def displayOffset (minutes : Int) : String :=
  (if minutes < 0 then "-" else "+") ++ paddedNumber 2 (minutes.natAbs / 60) ++ ":"
    ++ paddedNumber 2 (minutes.natAbs % 60)

/-- Date and time of day, with the fraction of the second and the offset where there is one. -/
def Moment.display (t : Moment) : String :=
  t.date.display ++ " " ++ paddedNumber 2 t.hour ++ ":" ++ paddedNumber 2 t.minute ++ ":"
    ++ paddedNumber 2 t.second
    ++ (if t.micro = 0 then "" else "." ++ paddedNumber 6 t.micro)
    ++ (t.offset.map displayOffset).getD ""

/-- A span of minutes as a constructor call, with a day count and seconds of that day. -/
def literalSpan (minutes : Int) : String :=
  let seconds := minutes * 60
  let days := Int.fdiv seconds 86400
  let rest := Int.fmod seconds 86400
  let parts := (if days = 0 then [] else ["days=" ++ toString days])
    ++ (if rest = 0 then [] else ["seconds=" ++ toString rest])
  "datetime.timedelta(" ++ (if parts.isEmpty then "0" else ", ".intercalate parts) ++ ")"

/-- An offset from universal time as a constructor call. -/
def literalOffset (minutes : Int) : String :=
  if minutes = 0 then "datetime.timezone.utc"
  else "datetime.timezone(" ++ literalSpan minutes ++ ")"

/-- A date as a constructor call. -/
def Date.literal (d : Date) : String :=
  "datetime.date(" ++ ", ".intercalate [toString d.year, toString d.month, toString d.day] ++ ")"

/-- A moment as a constructor call; seconds and their fraction are left out while they are zero. -/
def Moment.literal (t : Moment) : String :=
  let clock := [t.date.year, t.date.month, t.date.day, t.hour, t.minute]
    ++ (if t.micro = 0 then (if t.second = 0 then [] else [t.second]) else [t.second, t.micro])
  let zone := (t.offset.map fun o => ["tzinfo=" ++ literalOffset o]).getD []
  "datetime.datetime(" ++ ", ".intercalate (clock.map toString ++ zone) ++ ")"

/-- The literal form of a scalar. -/
def Scalar.literal : Scalar → String
  | .null => "None"
  | .bool true => "True"
  | .bool false => "False"
  | .int n => toString n
  | .float x => Decimal.document.write x
  | .nan _ => Decimal.document.notANumber
  | .text s => Text.quote s
  | .date d => d.literal
  | .moment t => t.literal
  | .bytes bs => Text.quoteBytes bs

/-- The display form of a scalar. -/
def Scalar.display : Scalar → String
  | .text s => s
  | .date d => d.display
  | .moment t => t.display
  | s => s.literal

/-- Whole numbers from here on are too long to be written. -/
def Scalar.writableBound : Nat := Nat.pow 10 Decimal.digitLimit

/-- The scalar is no whole number, or one that is not too long to be written. -/
def Scalar.isWritable : Scalar → Bool
  | .int n => n.natAbs < writableBound
  | _ => true

namespace Value

mutual

/-- The literal form; `around` lists the names of the knots around the value, with the ellipsis
that stands for each. -/
def literalIn (around : List (Nat × String)) : Value → String
  | scalar s => s.literal
  | sequence xs => "[" ++ ", ".intercalate (literalItems around xs) ++ "]"
  | mapping es => "\x7b" ++ ", ".intercalate (literalEntries around es) ++ "\x7d"
  | members [] => "set()"
  | members ks => "\x7b" ++ ", ".intercalate (ks.map Scalar.literal) ++ "\x7d"
  | pair k v => "(" ++ literalIn around k ++ ", " ++ literalIn around v ++ ")"
  | knot n b =>
    let ellipsis := match b with
      | sequence _ => "[...]"
      | pair .. => "(...)"
      | _ => "\x7b...\x7d"
    literalIn ((n, ellipsis) :: around) b
  | again n => (around.lookup n).getD "..."

/-- The literal forms of items. -/
def literalItems (around : List (Nat × String)) : List Value → List String
  | [] => []
  | x :: xs => literalIn around x :: literalItems around xs

/-- The literal forms of entries. -/
def literalEntries (around : List (Nat × String)) : List (Scalar × Value) → List String
  | [] => []
  | (k, v) :: es => (k.literal ++ ": " ++ literalIn around v) :: literalEntries around es

end

/-- The literal form of a value. -/
def literal (v : Value) : String := literalIn [] v

/-- The display form of a value. -/
def display : Value → String
  | scalar s => s.display
  | v => v.literal

/-! ### Numbers that are too long -/

mutual

/-- No whole number in the value is too long to be written. -/
def isWritable : Value → Bool
  | scalar s => s.isWritable
  | sequence xs => areWritable xs
  | mapping es => haveWritable es
  | members ks => ks.all Scalar.isWritable
  | pair k v => isWritable k && isWritable v
  | knot _ b => isWritable b
  | again _ => true

/-- `isWritable` for every item. -/
def areWritable : List Value → Bool
  | [] => true
  | x :: xs => isWritable x && areWritable xs

/-- `isWritable` for every key and value. -/
def haveWritable : List (Scalar × Value) → Bool
  | [] => true
  | (k, v) :: es => k.isWritable && isWritable v && haveWritable es

end

/-- The display form of a value, in which no whole number may be too long. -/
def shown (v : Value) : Except Fault String :=
  if v.isWritable then .ok v.display else .error .tooManyDigits

end Value

end ClientGen
