import ClientGen.Decimal.Shortest
import ClientGen.Value.Scalar

/-!
# The order of the members of a set

The members of a set are listed in the order of the slots of the table that holds them. Every member
has a code, and the low bits of the code name the slot where the search for a free one begins: over
a short run of neighbours, and then from a slot further on, into which the high bits of the code
enter too. The table is so large that the search always ends.

The codes of numbers follow from their values, so that equal numbers of different kinds have one
code, and the codes of empty texts are zero. No order is to be relied on if other scalars are among
the members; they stay in the order of their first occurrence then.

## Main definitions

* `ClientGen.Scalar.code?` : the code of a scalar.
* `ClientGen.SetOrder.slotOf` : the slot where a code finds its place.
* `ClientGen.Scalar.listed` : the members of a set in the order in which they are listed.
-/

namespace ClientGen

namespace SetOrder

/-- The number that codes of numbers are reduced by: a prime for which twice the power of two below
it is one. -/
def modulus : Nat := Nat.pow 2 61 - 1

/-- The code of a number, given its sign and the residue of its magnitude. The code of minus one is
that of minus two. -/
def signed (negative : Bool) (residue : Nat) : Int :=
  let code := if negative then -(residue : Int) else residue
  if code = -1 then -2 else code

/-- The code of a floating-point number. Dividing by two is multiplying by the sixtieth power of
two, so the exponent counts modulo 61. -/
def codeOfFloat (x : Float) : Int :=
  if x.isInf then (if x < 0 then -314159 else 314159)
  else
    let b := Decimal.Binary.ofFloat x
    signed (x < 0) (b.mantissa * Nat.pow 2 (Int.emod b.exponent 61).toNat % modulus)

/-- The number of slots of a table for `n` members. -/
def capacity (n : Nat) : Nat := if n < 5 then 8 else Nat.pow 2 (Nat.log2 (2 * n) + 1)

/-- The slots that are tried in a row, from slot `i` on. A run does not go round the end. -/
def run (size i : Nat) : List Nat :=
  if i + 9 < size then (List.range 10).map (i + ·) else [i]

/-- The slot where the search from slot `i` ends. `rest` holds the bits of the code that have not
entered yet, and `fuel` bounds the runs. -/
def search (size : Nat) (taken : List Nat) : (fuel rest i : Nat) → Nat
  | 0, _, i => i
  | fuel + 1, rest, i =>
    match (run size i).find? fun j => !taken.contains j with
    | some j => j
    | none => search size taken fuel (rest / 32) ((i * 5 + 1 + rest / 32) % size)

/-- The slot where a code finds its place. Codes are words of 64 bits; once all of these have
entered, after 13 runs, the search comes by every slot. -/
def slotOf (size : Nat) (taken : List Nat) (code : Int) : Nat :=
  let word := (Int.emod code (Nat.pow 2 64)).toNat
  search size taken (13 + size) word (word % size)

/-- Puts members with their codes into the slots of a table, one after the other. -/
def place {α : Type} (size : Nat) (members : List (α × Int)) : List (Nat × α) :=
  members.foldl (fun table m => (slotOf size (table.map (·.1)) m.2, m.1) :: table) []

end SetOrder

namespace Scalar

/-- The code of a scalar, if it is the same in every run. -/
def code? : Scalar → Option Int
  | bool b => some (if b then 1 else 0)
  | int n => some (SetOrder.signed (n < 0) (n.natAbs % SetOrder.modulus))
  | float x => some (SetOrder.codeOfFloat x)
  | text s => if s.isEmpty then some 0 else none
  | bytes bs => if bs.isEmpty then some 0 else none
  | _ => none

/-- The members of a set in the order in which they are listed. -/
def listed (ks : List Scalar) : List Scalar :=
  match ks.mapM fun k => k.code?.map (k, ·) with
  | some ms =>
    ((SetOrder.place (SetOrder.capacity ks.length) ms).mergeSort fun a b => a.1 ≤ b.1).map (·.2)
  | none => ks

end Scalar

end ClientGen
