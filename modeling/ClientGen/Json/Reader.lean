import ClientGen.Decimal.Reader
import ClientGen.ReadError
import ClientGen.Value.Basic

/-!
# Reading JSON

The reader takes the grammar of JSON and three words more: `NaN`, `Infinity` and `-Infinity`.
Strings may not hold control characters. An object with a repeated key keeps the position of the
first and the value of the last. Reading stops at a depth of `Json.depthLimit` containers, before
the rest of the text is looked at.

## Main definitions

* `ClientGen.Json.read` : the value that a text writes.
-/

namespace ClientGen.Json

/-- The number of containers inside each other that the reader follows. -/
def depthLimit : Nat := 990

/-- The characters that may stand between tokens. -/
def isSpace (c : Char) : Bool := c == ' ' || c == '\t' || c == '\n' || c == '\r'

/-- The text after the blanks at its start. -/
def skip (cs : List Char) : List Char := cs.dropWhile isSpace

/-- The number that four hexadecimal digits write. -/
def hex4? (a b c d : Char) : Option Nat :=
  [a, b, c, d].foldlM (fun n x => (Decimal.digitValue? 16 x).map (16 * n + ·)) 0

/-- The character after a backslash, other than `u`. -/
def escaped? : Char → Option Char
  | '"' => some '"'
  | '\\' => some '\\'
  | '/' => some '/'
  | 'b' => some '\x08'
  | 'f' => some '\x0c'
  | 'n' => some '\n'
  | 'r' => some '\r'
  | 't' => some '\t'
  | _ => none

/-- The code unit is the first half of a pair. -/
def isHighHalf (n : Nat) : Bool := 0xd800 ≤ n && n ≤ 0xdbff

/-- The code unit is the second half of a pair. -/
def isLowHalf (n : Nat) : Bool := 0xdc00 ≤ n && n ≤ 0xdfff

/-- The character of a code unit; a lone half of a pair becomes the replacement character. -/
def unitChar (n : Nat) : Char :=
  if isHighHalf n || isLowHalf n then Char.ofNat 0xfffd else Char.ofNat n

/-- Adds a code unit to the characters read so far, `high` being a first half that waits for its
second one; the result has the half that waits then. -/
def addUnit (high : Option Nat) (done : List Char) (n : Nat) : Option Nat × List Char :=
  match high with
  | some h =>
    if isLowHalf n then (none, Char.ofNat (0x10000 + (h - 0xd800) * 0x400 + (n - 0xdc00)) :: done)
    else if isHighHalf n then (some n, unitChar h :: done)
    else (none, unitChar n :: unitChar h :: done)
  | none => if isHighHalf n then (some n, done) else (none, unitChar n :: done)

/-- The characters read so far, with a waiting half given up. -/
def settle (high : Option Nat) (done : List Char) : List Char :=
  match high with
  | some h => unitChar h :: done
  | none => done

/-- The rest of a string after its opening quote, and the text after its closing one. The
characters read so far are in `done`, in reverse; `high` is the first half of a pair that waits
for its second. -/
def stringTail (high : Option Nat) (done : List Char) :
    List Char → Except ReadError (String × List Char)
  | '"' :: rest => .ok (String.ofList (settle high done).reverse, rest)
  | '\\' :: 'u' :: a :: b :: c :: d :: rest =>
    match hex4? a b c d with
    | none => .error .malformed
    | some n => stringTail (addUnit high done n).1 (addUnit high done n).2 rest
  | '\\' :: c :: rest =>
    match escaped? c with
    | some x => stringTail none (x :: settle high done) rest
    | none => .error .malformed
  | c :: rest =>
    if c.toNat < 0x20 then .error .malformed else stringTail none (c :: settle high done) rest
  | [] => .error .malformed

/-- The digits of a number's fraction, with the text after it; none without a point that a digit
follows. -/
def fraction (cs : List Char) : List Char × List Char :=
  match cs with
  | '.' :: rest =>
    let ds := rest.takeWhile Decimal.isAsciiDigit
    if ds.isEmpty then ([], cs) else (ds, rest.dropWhile Decimal.isAsciiDigit)
  | _ => ([], cs)

/-- The power of ten of a number, with the text after it; none without digits after the `e`. -/
def power (cs : List Char) : Option Int × List Char :=
  match cs with
  | c :: rest =>
    if c = 'e' ∨ c = 'E' then
      let (negative, body) := Decimal.splitSign rest
      let ds := body.takeWhile Decimal.isAsciiDigit
      if ds.isEmpty then (none, cs)
      else
        let n : Int := Decimal.natOf ds
        (some (if negative then -n else n), body.dropWhile Decimal.isAsciiDigit)
    else (none, cs)
  | [] => (none, cs)

/-- A number after its sign: a zero or digits without a leading zero, a fraction, a power. -/
def number (negative : Bool) (cs : List Char) : Except ReadError (Value × List Char) :=
  let whole := match cs with
    | '0' :: _ => ['0']
    | _ => cs.takeWhile Decimal.isAsciiDigit
  if whole.isEmpty then .error .malformed
  else
    let rest := cs.drop whole.length
    let (ds, rest) := fraction rest
    let (e, rest) := power rest
    match ds, e with
    | [], none =>
      if Decimal.digitLimit < whole.length then .error (.fault .malformedNumber)
      else
        let n : Int := Decimal.natOf whole
        .ok (.int (if negative then -n else n), rest)
    | _, _ =>
      .ok (.scalar (.float (Decimal.toFloat negative (Decimal.natOf (whole ++ ds))
        (e.getD 0 - ds.length))), rest)

/-- A value that is neither string nor container. -/
def word (cs : List Char) : Except ReadError (Value × List Char) :=
  match cs with
  | 'n' :: 'u' :: 'l' :: 'l' :: rest => .ok (.null, rest)
  | 't' :: 'r' :: 'u' :: 'e' :: rest => .ok (.bool true, rest)
  | 'f' :: 'a' :: 'l' :: 's' :: 'e' :: rest => .ok (.bool false, rest)
  | 'N' :: 'a' :: 'N' :: rest => .ok (.scalar (.nan .jsonWord), rest)
  | 'I' :: 'n' :: 'f' :: 'i' :: 'n' :: 'i' :: 't' :: 'y' :: rest =>
    .ok (.scalar (.float (1.0 / 0.0)), rest)
  | '-' :: 'I' :: 'n' :: 'f' :: 'i' :: 'n' :: 'i' :: 't' :: 'y' :: rest =>
    .ok (.scalar (.float (-(1.0 / 0.0))), rest)
  | '-' :: rest => number true rest
  | _ => number false cs

mutual

/-- The value at the start of a text, and the text after it. Every step uses up a character, so
a fuel of the text's length suffices. -/
def value (fuel depth : Nat) (cs : List Char) : Except ReadError (Value × List Char) :=
  match fuel with
  | 0 => .error .malformed
  | fuel + 1 =>
    match cs with
    | '"' :: rest => do
      let (s, rest) ← stringTail none [] rest
      return (.text s, rest)
    | '[' :: rest =>
      if depthLimit ≤ depth then .error .tooDeep
      else match skip rest with
        | ']' :: rest => .ok (.sequence [], rest)
        | rest => items fuel (depth + 1) [] rest
    | '{' :: rest =>
      if depthLimit ≤ depth then .error .tooDeep
      else match skip rest with
        | '}' :: rest => .ok (.mapping [], rest)
        | rest => entries fuel (depth + 1) [] rest
    | _ => word cs

/-- The items of an array from an item on; those before are in `done`, in reverse. -/
def items (fuel depth : Nat) (done : List Value) (cs : List Char) :
    Except ReadError (Value × List Char) :=
  match fuel with
  | 0 => .error .malformed
  | fuel + 1 =>
    match value fuel depth cs with
    | .error e => .error e
    | .ok (v, rest) =>
      match skip rest with
      | ']' :: rest => .ok (.sequence (v :: done).reverse, rest)
      | ',' :: rest => items fuel depth (v :: done) (skip rest)
      | _ => .error .malformed

/-- The entries of an object from a key on; those before are in `done`, in reverse. -/
def entries (fuel depth : Nat) (done : List (Scalar × Value)) (cs : List Char) :
    Except ReadError (Value × List Char) :=
  match fuel with
  | 0 => .error .malformed
  | fuel + 1 =>
    match cs with
    | '"' :: rest =>
      match stringTail none [] rest with
      | .error e => .error e
      | .ok (k, rest) =>
        match skip rest with
        | ':' :: rest =>
          match value fuel depth (skip rest) with
          | .error e => .error e
          | .ok (v, rest) =>
            let done := (.text k, v) :: done
            match skip rest with
            | '}' :: rest => .ok (.mapping (Table.ofEntries done.reverse), rest)
            | ',' :: rest => entries fuel depth done (skip rest)
            | _ => .error .malformed
        | _ => .error .malformed
    | _ => .error .malformed

end

/-- The value that a text writes. -/
def read (s : String) : Except ReadError Value :=
  match value (s.length + 1) 0 (skip s.toList) with
  | .error e => .error e
  | .ok (v, rest) => if (skip rest).isEmpty then .ok v else .error .malformed

end ClientGen.Json
