import ClientGen.Decimal.Reader

/-!
# Kinds of YAML nodes

A tag names the kind of a node. A plain scalar without a tag gets its kind from its text: the
words for truth values and null, the forms of numbers and timestamps, and the marks of merging
and of default values are recognised, and everything else is text.

## Main definitions

* `ClientGen.Yaml.Kind` : the kinds.
* `ClientGen.Yaml.Kind.ofTag` : the kind that a tag names.
* `ClientGen.Yaml.Kind.ofText` : the kind of a plain scalar.
-/

namespace ClientGen.Yaml

/-- The kinds of nodes. -/
inductive Kind where
  /-- No value. -/
  | null
  /-- A truth value. -/
  | bool
  /-- A whole number. -/
  | int
  /-- A floating-point number. -/
  | float
  /-- A byte string in the base64 notation. -/
  | binary
  /-- A date, or a time of day on a date. -/
  | timestamp
  /-- An ordered list of entries with distinct keys. -/
  | omap
  /-- A list of entries. -/
  | pairs
  /-- A set. -/
  | set
  /-- A text. -/
  | text
  /-- A list of nodes. -/
  | sequence
  /-- Entries. -/
  | mapping
  /-- The mark for entries that are taken from elsewhere. -/
  | merge
  /-- The mark for the default value of a mapping. -/
  | default
  /-- A kind that nothing is known about. -/
  | unknown
  deriving DecidableEq

namespace Kind

/-- What the tags of the common kinds start with. -/
def commonTags : String := "tag:yaml.org,2002:"

/-- The common kinds, by the end of their tags. -/
def table : List (String × Kind) :=
  [("null", null), ("bool", bool), ("int", int), ("float", float), ("binary", binary),
    ("timestamp", timestamp), ("omap", omap), ("pairs", pairs), ("set", set), ("str", text),
    ("seq", sequence), ("map", mapping), ("merge", merge), ("value", default)]

/-- The kind that a tag names. -/
def ofTag (tag : String) : Kind :=
  ((table.find? fun e => commonTags ++ e.1 == tag).map (·.2)).getD unknown

/-! ### The forms of plain scalars -/

open Decimal (isAsciiDigit splitSign)

/-- A decimal digit or an underscore. -/
def isDigitOrGap (c : Char) : Bool := isAsciiDigit c || c == '_'

/-- Digits in the base, or underscores; at least one. -/
def allDigits (base : Nat) (cs : List Char) : Bool :=
  !cs.isEmpty && cs.all fun c => c == '_' || (Decimal.digitValue? base c).isSome

/-- A colon and a number below 60 with at most two digits, with what follows it. -/
def sixtieth? : List Char → Option (List Char)
  | ':' :: a :: b :: rest =>
    if '0' ≤ a ∧ a ≤ '5' ∧ isAsciiDigit b then some rest
    else if isAsciiDigit a then some (b :: rest) else none
  | [':', a] => if isAsciiDigit a then some [] else none
  | _ => none

/-- What follows numbers below 60, each with a colon before it. -/
def dropSixtieths (fuel : Nat) (cs : List Char) : List Char :=
  match fuel, sixtieth? cs with
  | fuel + 1, some rest => dropSixtieths fuel rest
  | _, _ => cs

/-- The form of a whole number: in base two, eight, ten, sixteen or sixty. -/
def isInt (cs : List Char) : Bool :=
  let body := (splitSign cs).2
  match body with
  | ['0'] => true
  | '0' :: 'b' :: ds => allDigits 2 ds
  | '0' :: 'x' :: ds => allDigits 16 ds
  | '0' :: ds => allDigits 8 ds
  | d :: ds =>
    let rest := ds.dropWhile isDigitOrGap
    isAsciiDigit d && (rest.isEmpty || (dropSixtieths rest.length rest).isEmpty)
  | [] => false

/-- Nothing, or an `e` with a sign and digits. -/
def isPower : List Char → Bool
  | [] => true
  | e :: s :: ds =>
    (e == 'e' || e == 'E') && (s == '+' || s == '-') && !ds.isEmpty && ds.all isAsciiDigit
  | _ => false

/-- The form of a floating-point number: with a point, of base ten or sixty, infinite or no
number at all. -/
def isFloat (cs : List Char) : Bool :=
  let body := (splitSign cs).2
  match body with
  | '.' :: rest =>
    (rest == ['i', 'n', 'f'] || rest == ['I', 'n', 'f'] || rest == ['I', 'N', 'F']) ||
      (body.length == cs.length &&
        (rest == ['n', 'a', 'n'] || rest == ['N', 'a', 'N'] || rest == ['N', 'A', 'N'] ||
          (match rest with
            | d :: ds => isAsciiDigit d && isPower (ds.dropWhile isDigitOrGap)
            | [] => false)))
  | d :: ds =>
    isAsciiDigit d &&
      (match ds.dropWhile isDigitOrGap with
        | '.' :: rest => isPower (rest.dropWhile isDigitOrGap)
        | rest =>
          match sixtieth? rest with
          | none => false
          | some rest =>
            match dropSixtieths rest.length rest with
            | '.' :: rest => rest.all isDigitOrGap
            | _ => false)
  | [] => false

/-- The characters that make up at most `most` digits at the start, at least `least` of them, and
what follows. -/
def someDigits? (least most : Nat) (cs : List Char) : Option (List Char × List Char) :=
  let ds := (cs.take most).takeWhile isAsciiDigit
  if least ≤ ds.length then some (ds, cs.drop ds.length) else none

/-- What follows a character. -/
def after? (x : Char) : List Char → Option (List Char)
  | c :: rest => if c = x then some rest else none
  | [] => none

/-- A blank of timestamps. -/
def isGap (c : Char) : Bool := c == ' ' || c == '\t'

end Kind

/-- The parts of a timestamp, as they are written. -/
structure Stamp where
  /-- Year, month and day. -/
  date : List Char × List Char × List Char
  /-- Hour, minute and second. -/
  clock : Option (List Char × List Char × List Char)
  /-- The digits behind the point of the seconds. -/
  fraction : List Char
  /-- The offset from universal time: negative, hours and minutes. -/
  zone : Option (Bool × List Char × List Char)

namespace Stamp

open Kind (someDigits? after? isGap)

/-- The offset at the end of a timestamp: `Z`, or a sign, hours and perhaps minutes. -/
def zone? (cs : List Char) : Option (Option (Bool × List Char × List Char)) :=
  match cs.dropWhile isGap with
  | [] => if cs.isEmpty then some none else none
  | ['Z'] => some (some (false, [], []))
  | c :: rest =>
    if c = '+' ∨ c = '-' then do
      let (hours, rest) ← someDigits? 1 2 rest
      match rest with
      | [] => return some (c = '-', hours, [])
      | ':' :: rest =>
        let (minutes, rest) ← someDigits? 2 2 rest
        if rest.isEmpty then return some (c = '-', hours, minutes) else failure
      | _ => failure
    else none

/-- The time of day behind the date of a timestamp. -/
def clock? (date : List Char × List Char × List Char) (cs : List Char) : Option Stamp := do
  let cs ← match cs with
    | c :: rest =>
      if c = 'T' ∨ c = 't' then some rest
      else if isGap c then some (rest.dropWhile isGap) else none
    | [] => none
  let (hour, cs) ← someDigits? 1 2 cs
  let (minute, cs) ← someDigits? 2 2 (← after? ':' cs)
  let (second, cs) ← someDigits? 2 2 (← after? ':' cs)
  let (fraction, cs) := match cs with
    | '.' :: rest => (rest.takeWhile Decimal.isAsciiDigit, rest.dropWhile Decimal.isAsciiDigit)
    | _ => ([], cs)
  return { date, clock := some (hour, minute, second), fraction, zone := ← zone? cs }

/-- The parts of a timestamp. -/
def ofText? (cs : List Char) : Option Stamp := do
  let (year, cs) ← someDigits? 4 4 cs
  let (month, cs) ← someDigits? 1 2 (← after? '-' cs)
  let (day, cs) ← someDigits? 1 2 (← after? '-' cs)
  let date := (year, month, day)
  if cs.isEmpty then return { date, clock := none, fraction := [], zone := none }
  else clock? date cs

/-- A plain scalar of this form is a timestamp: a date on its own has two digits for month and
day. -/
def isPlain (t : Stamp) : Bool :=
  t.clock.isSome || (t.date.2.1.length == 2 && t.date.2.2.length == 2)

end Stamp

namespace Kind

/-- The words for truth values. -/
def truthWords : List String :=
  ["yes", "Yes", "YES", "no", "No", "NO", "true", "True", "TRUE", "false", "False", "FALSE",
    "on", "On", "ON", "off", "Off", "OFF"]

/-- The words for null. -/
def nullWords : List String := ["~", "null", "Null", "NULL", ""]

/-- The text without a line feed at its end. -/
def dropLineFeed (cs : List Char) : List Char :=
  if cs.getLast? = some '\n' then cs.dropLast else cs

/-- The kind of a plain scalar. One line feed at the end does not change it. -/
def ofText (s : String) : Kind :=
  if s == "\n" then text
  else
    let cs := dropLineFeed s.toList
    let s := String.ofList cs
    if truthWords.contains s then bool
    else if isFloat cs then float
    else if isInt cs then int
    else if s == "<<" then merge
    else if nullWords.contains s then null
    else if ((Stamp.ofText? cs).map Stamp.isPlain).getD false then timestamp
    else if s == "=" then default
    else if s == "!" || s == "&" || s == "*" then unknown
    else text

end Kind

end ClientGen.Yaml
