import ClientGen.Fault
import ClientGen.Value.Display

/-!
# Writing JSON

A value is written on one line, or with one item a line and two blanks of indentation for every
level. Values that JSON does not know are written as texts of their display form. Keys may be
texts, numbers, truth values and null; of a key that is none of these nothing can be made.

## Main definitions

* `ClientGen.Json.quote` : a JSON string.
* `ClientGen.Json.Style` : on one line or indented.
* `ClientGen.Json.write` : the JSON text of a value.
-/

namespace ClientGen.Json

/-- A character inside a JSON string: quotes, backslashes and controls are escaped. -/
def escapeChar (c : Char) : List Char :=
  if c = '"' ∨ c = '\\' then ['\\', c]
  else if c = '\n' then ['\\', 'n']
  else if c = '\r' then ['\\', 'r']
  else if c = '\t' then ['\\', 't']
  else if c.toNat = 0x0c then ['\\', 'f']
  else if c.toNat = 0x08 then ['\\', 'b']
  else if c.toNat < 0x20 then '\\' :: 'u' :: paddedHex 4 c.toNat
  else [c]

/-- The text as a JSON string. -/
def quote (s : String) : String := String.ofList ('"' :: s.toList.flatMap escapeChar ++ ['"'])

/-- Numbers in JSON texts: the layout of documents, with long words for what is no number. -/
def numberLayout : Decimal.Layout :=
  { Decimal.document with notANumber := "NaN", infinity := "Infinity" }

/-- Whether a container is written on one line or with one item a line. -/
inductive Style where
  /-- On one line. -/
  | line
  /-- One item a line, two blanks more for every level. -/
  | indented
  deriving DecidableEq

/-- What stands between brackets and items at a depth. -/
def Style.lineBreak (depth : Nat) : Style → String
  | line => ""
  | indented => "\n" ++ String.ofList (List.replicate (2 * depth) ' ')

/-- What stands between two items of a container at a depth. -/
def Style.separator (depth : Nat) : Style → String
  | line => ", "
  | indented => "," ++ Style.lineBreak depth indented

/-- The items of a container inside its brackets; an empty container has only its brackets. -/
def Style.enclose (style : Style) (depth : Nat) (opening closing : String) (items : List String) :
    String :=
  if items.isEmpty then opening ++ closing
  else opening ++ style.lineBreak (depth + 1) ++ (style.separator (depth + 1)).intercalate items
    ++ style.lineBreak depth ++ closing

/-- The JSON text of a scalar. -/
def writeScalar : Scalar → Except Fault String
  | .null => .ok "null"
  | .bool true => .ok "true"
  | .bool false => .ok "false"
  | .int n => (Value.int n).shown
  | .float x => .ok (numberLayout.write x)
  | .nan _ => .ok numberLayout.notANumber
  | s => .ok (quote s.display)

/-- The key of an entry. -/
def writeKey : Scalar → Except Fault String
  | .text s => .ok (quote s)
  | .date _ | .moment _ | .bytes _ => .error .textExpected
  | s => (writeScalar s).map quote

mutual

/-- The JSON text of a value inside containers of the given depth. -/
def writeAt (style : Style) (depth : Nat) : Value → Except Fault String
  | .scalar s => writeScalar s
  | .sequence xs => do
    return style.enclose depth "[" "]" (← writeItems style (depth + 1) xs)
  | .mapping es => do
    return style.enclose depth "\x7b" "\x7d" (← writeEntries style (depth + 1) es)
  | .members ks => (Value.members ks).shown.map quote
  | .pair k v => do
    let k ← writeAt style (depth + 1) k
    let v ← writeAt style (depth + 1) v
    return style.enclose depth "[" "]" [k, v]
  | .knot _ b => writeAt style depth b
  | .again _ => .error .endlessText

/-- The JSON texts of items. -/
def writeItems (style : Style) (depth : Nat) : List Value → Except Fault (List String)
  | [] => .ok []
  | x :: xs => do
    let x ← writeAt style depth x
    return x :: (← writeItems style depth xs)

/-- The JSON texts of entries. -/
def writeEntries (style : Style) (depth : Nat) :
    List (Scalar × Value) → Except Fault (List String)
  | [] => .ok []
  | (k, v) :: es => do
    let k ← writeKey k
    let v ← writeAt style depth v
    return (k ++ ": " ++ v) :: (← writeEntries style depth es)

end

/-- The JSON text of a value. -/
def write (style : Style) (v : Value) : Except Fault String := writeAt style 0 v

end ClientGen.Json
