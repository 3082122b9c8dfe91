import ClientGen.Fault
import ClientGen.Value.Basic

/-!
# The elements of a value

Where a collection is needed, a sequence, a set and a pair give what they hold, a mapping its
keys, a text its characters and a byte string its numbers. Other values are no collections.

## Main definitions

* `ClientGen.Value.elements` : the elements of a value.
* `ClientGen.Value.scalarSet` : the scalars among the elements of a value.
-/

namespace ClientGen.Value

/-- The elements of a value. -/
def elements (v : Value) : Except Fault (List Value) :=
  match v.opened with
  | sequence xs => .ok xs
  | mapping es => .ok (es.map fun e => scalar e.1)
  | members ks => .ok (ks.map scalar)
  | pair k w => .ok [k, w]
  | scalar (.text s) => .ok (s.toList.map fun c => text (String.singleton c))
  | scalar (.bytes bs) => .ok (bs.map fun b => int b.toNat)
  | _ => .error .collectionExpected

/-- The scalar, if the value is one. -/
def scalar? : Value → Option Scalar
  | scalar s => some s
  | _ => none

/-- The scalars among the elements of a value, none of which may be a container that can change.
A value that does not count as present has no elements. -/
def scalarSet (v : Value) : Except Fault (List Scalar) :=
  if v.isFilled then do
    let xs ← v.elements
    if xs.all isMember then return xs.filterMap scalar? else .error .containerAsMember
  else .ok []

end ClientGen.Value
