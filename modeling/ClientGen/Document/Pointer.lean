import ClientGen.Document.Basic
import ClientGen.Failure

/-!
# Pointers into a document

A pointer names a place in a document by the keys and indices on the way to it. In a key a tilde
is written as `~0` and a slash as `~1`.

## Main definitions

* `ClientGen.Pointer.Step` : a key or an index.
* `ClientGen.Pointer.encode` : the pointer of a way.
* `ClientGen.Pointer.follow?` : the value at the end of a way.
* `ClientGen.Pointer.lookup` : the value that a pointer names.
-/

namespace ClientGen.Pointer

/-- A step on the way to a place in a document. -/
inductive Step where
  /-- The value under a key. -/
  | key (k : String)
  /-- The item of an index. -/
  | index (i : Nat)
  deriving DecidableEq

/-- The value that a step leads to. -/
def Step.follow? (v : Value) : Step → Option Value
  | key k => v.get? k
  | index i => v.items?.bind (·[i]?)

/-- The value at the end of a way. -/
def follow? (v : Value) : List Step → Option Value
  | [] => some v
  | s :: ss => (s.follow? v).bind (follow? · ss)

/-- A key with tildes and slashes escaped. -/
def escape : List Char → List Char
  | [] => []
  | '~' :: cs => '~' :: '0' :: escape cs
  | '/' :: cs => '~' :: '1' :: escape cs
  | c :: cs => c :: escape cs

/-- Replaces a tilde with the given digit by a character. -/
def replaceTilde (digit character : Char) : List Char → List Char
  | '~' :: c :: cs =>
    if c = digit then character :: replaceTilde digit character cs
    else '~' :: replaceTilde digit character (c :: cs)
  | c :: cs => c :: replaceTilde digit character cs
  | [] => []

/-- A key without escapes: slashes are restored first, and tildes then. -/
def unescape (cs : List Char) : List Char := replaceTilde '0' '~' (replaceTilde '1' '/' cs)

/-- The segment that writes a step. -/
def Step.segment : Step → List Char
  | key k => escape k.toList
  | index i => Nat.toDigits 10 i

/-- The pointer of a way. -/
def encode (ss : List Step) : String :=
  String.ofList ('#' :: ss.flatMap fun s => '/' :: s.segment)

/-- The segments of a pointer, without escapes. Hash signs at the start and slashes at the ends do
not count. -/
def segments (ref : List Char) : List (List Char) :=
  ((Text.trimWith (· == '/') (ref.dropWhile (· == '#'))).splitOn '/').map unescape

/-- The value that a segment leads to; none if there is none. A segment of digits without a
decimal value is no index at all. -/
def enter (v : Value) (segment : List Char) : Except Problem (Option Value) :=
  match v.items? with
  | none => .ok (v.get? (String.ofList segment))
  | some xs =>
    if segment.isEmpty || !segment.all Text.isDigit then .ok none
    else match Text.decimal? segment with
      | some i =>
        if Decimal.digitLimit < segment.length then .error (.fault .malformedNumber) else .ok xs[i]?
      | none => .error (.fault .malformedNumber)

/-- The value at the end of segments. -/
def walk (ref : String) (v : Value) : List (List Char) → Except Problem Value
  | [] => .ok v
  | s :: ss =>
    match enter v s with
    | .error p => .error p
    | .ok (some w) => walk ref w ss
    | .ok none => .error (.failure (.danglingReference ref (String.ofList s)))

/-- The value that a pointer names. -/
def lookup (root : Value) (ref : String) : Except Problem Value :=
  if ref.toList.head? = some '#' then walk ref root (segments ref.toList)
  else .error (.failure (.externalReference ref))

end ClientGen.Pointer
