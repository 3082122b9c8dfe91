import ClientGen.Value.Elements

/-!
# Laying settings over others

A mapping is laid over another one key by key. Where both have mappings under a key, these are laid
over each other; elsewhere the upper one wins. The keys of the lower mapping come first.

Mappings that contain themselves can have no last level in common. The walk stops at a depth that
no pair of other mappings reaches.

## Main definitions

* `ClientGen.Value.overlayWithin` : a mapping laid over another one, down to some depth.
* `ClientGen.Value.overlay` : a mapping laid over another one.
* `ClientGen.Value.merge` : the same for values that may have to be read as mappings first.
-/

namespace ClientGen.Value

/-- A key names an entry of another document. A value that is no number is found there only if a
word for it is the key. -/
def namesAcross (key : Scalar) : Scalar → Bool
  | .nan (.part _) => false
  | other => Scalar.sameKey other key

/-- The value under a key that names the same entry. -/
def under? (es : Table Scalar Value) (key : Scalar) : Option Value :=
  (es.find? fun e => namesAcross key e.1).map (·.2)

/-- The entries whose keys are in none of the others. -/
def newEntries (lower upper : Table Scalar Value) : Table Scalar Value :=
  upper.filter fun e => (under? lower e.1).isNone

/-- The entries of one mapping laid over those of another, down to a depth that the two may not
have in common. -/
def overlayWithin : Nat → Table Scalar Value → Table Scalar Value →
    Except Fault (Table Scalar Value)
  | 0, _, _ => .error .depthExceeded
  | depth + 1, lower, upper => do
    let kept ← lower.mapM fun (k, v) =>
      match under? upper k with
      | none => .ok (k, v)
      | some u =>
        match v.entries?, u.entries? with
        | some ls, some us => (overlayWithin depth ls us).map fun es => (k, mapping es)
        | _, _ => .ok (k, u)
    return kept ++ newEntries lower upper

/-- The depth that mappings which contain themselves may have in common. -/
def commonDepth : Nat := 900

/-- The entries of one mapping laid over those of another. -/
def overlay (lower upper : Table Scalar Value) : Except Fault (Table Scalar Value) :=
  overlayWithin (max (mapping lower).nesting commonDepth) lower upper

/-- The key and the value that an element of a collection gives. -/
def asPair (v : Value) : Except Fault (Scalar × Value) := do
  match ← v.elements with
  | [k, w] =>
    match k.scalar? with
    | some k => return (k, w)
    | none => throw .containerAsMember
  | _ => throw .pairExpected

/-- The entries of a mapping, or those that a collection of pairs gives. -/
def asEntries (v : Value) : Except Fault (Table Scalar Value) :=
  match v.entries? with
  | some es => .ok es
  | none => do
    let ps ← (← v.elements).mapM asPair
    return Table.ofEntriesWith Scalar.sameKey ps

/-- A mapping laid over a value that is read as one. -/
def merge (base upper : Value) : Except Fault Value := do
  let lower ← base.asEntries
  match upper.entries? with
  | some us => return mapping (← overlay lower us)
  | none => throw .mappingExpected

end ClientGen.Value
