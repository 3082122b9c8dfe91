import ClientGen.Decimal.Reader
import ClientGen.Fault
import ClientGen.Value.Basic

/-!
# Reading values of a wanted kind

The records of the tool are read from mappings with text keys. A byte string that writes a text
counts as that text. A truth value may be given as a number or a word, and a number as a text.

## Main definitions

* `ClientGen.Fields` : the entries of a mapping with text keys.
* `ClientGen.Value.asText?`, `ClientGen.Value.asBool?`, `ClientGen.Value.asFloat?`,
  `ClientGen.Value.asList?`, `ClientGen.Value.asFields?` : reading a value of a wanted kind.
-/

namespace ClientGen

/-- The entries of a mapping with text keys. -/
abbrev Fields := Table String Value

/-- The text that a scalar writes. -/
def Scalar.asText? : Scalar → Option String
  | .text s => some s
  | .bytes bs => String.fromUTF8? ⟨bs.toArray⟩
  | _ => none

namespace Value

/-- The value as a text. -/
def asText? : Value → Option String
  | scalar s => s.asText?
  | _ => none

/-- The words for true. -/
def trueWords : List String := ["1", "t", "y", "on", "yes", "true"]

/-- The words for false. -/
def falseWords : List String := ["0", "f", "n", "off", "no", "false"]

/-- The truth value that a word writes, in any case of ASCII letters. -/
def boolOfWord? (s : String) : Option Bool :=
  let word := String.ofList (s.toList.map Char.toLower)
  if trueWords.contains word then some true
  else if falseWords.contains word then some false
  else none

/-- The value as a truth value: one itself, the numbers zero and one, or a word. -/
def asBool? : Value → Option Bool
  | scalar (.bool b) => some b
  | scalar (.int n) => if n = 0 then some false else if n = 1 then some true else none
  | scalar (.float x) => if x == 0 then some false else if x == 1 then some true else none
  | v => v.asText?.bind boolOfWord?

/-- Underscores stand only between other characters, one at a time. -/
def hasInnerUnderscores (cs : List Char) : Bool :=
  cs.contains '_' && cs.head? != some '_' && cs.getLast? != some '_' &&
    !(cs.zip (cs.drop 1)).contains ('_', '_')

/-- The floating-point number that a text writes, with blanks around it, or with underscores among
its characters. -/
def floatOfText? (s : String) : Option Float :=
  match Decimal.float? (Text.trimWith Text.isWhiteSpace s.toList) with
  | some x => some x
  | none =>
    if hasInnerUnderscores s.toList then Decimal.float? (s.toList.filter (· != '_')) else none

/-- The floating-point number nearest to a whole number, if there is a finite one. -/
def floatOfInt? (n : Int) : Option Float :=
  let x := Decimal.toFloat (n < 0) n.natAbs 0
  if x.isInf then none else some x

/-- The value as a floating-point number. -/
def asFloat? : Value → Option Float
  | scalar (.float x) => some x
  | scalar (.nan _) => some (0.0 / 0.0)
  | scalar (.bool b) => some (if b then 1 else 0)
  | scalar (.int n) => floatOfInt? n
  | v => v.asText?.bind floatOfText?

/-- The values that a collection without keys holds. -/
def asList? (v : Value) : Option (List Value) :=
  match v.opened with
  | sequence xs => some xs
  | members ks => some (ks.map scalar)
  | pair k w => some [k, w]
  | _ => none

/-- The entries of a mapping whose keys are all texts. -/
def asFields? (v : Value) : Option Fields := do
  let es ← v.entries?
  let es ← es.mapM fun e => e.1.asText?.map (·, e.2)
  return Table.ofEntries es

/-- The value of a field under one of two names; the first name wins. -/
def field? (v : Value) (name other : String) : Option Value :=
  match v.get? name with
  | some x => some x
  | none => v.get? other

end Value

/-- What a record needs, or the fault that it has another shape. -/
def need {α : Type} : Option α → Except Fault α
  | some x => .ok x
  | none => .error .shapeMismatch

end ClientGen
