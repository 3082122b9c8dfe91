import ClientGen.Api.Schema
import ClientGen.Document.Pointer
import ClientGen.Document.Reference

/-!
# Resolving references

The walk over a document replaces references and definitions of parameters. A reference to a
parameter and a definition become the record of a primitive parameter, if it is one; a parameter
that is not primitive stays as it is, with the reference replaced by its definition. Any other
reference becomes a handle. The walk does not enter what it puts in place. It fails when it comes
back to a container that it is still inside of, and when it is too deep.

## Main definitions

* `ClientGen.Document.visit` : the walk over a value.
* `ClientGen.Document.resolve` : the document with references replaced.
-/

namespace ClientGen.Document

/-- The number of containers inside each other that the walk may enter, with three calls for
each. -/
def walkLimit : Nat := callLimit / 3

/-- A value that is put in place as it is, where the walk may still enter `budget` containers. The
value is copied, with two calls for each container inside the others. -/
def copied (budget : Nat) (v : Value) : Except Problem Value :=
  if 3 * budget < 2 * v.nesting then .error (.failure .tooDeepToResolve) else .ok v

/-- A definition of a parameter, with the name under which it was referred to. -/
def replaceParameter (budget : Nat) (definition : Value) (name : Option String) :
    Except Problem Value := do
  match ← Fault.lift (PrimitiveParameter.describe? definition name) with
  | some p => return p.node
  | none => copied budget definition

/-- What a reference is replaced by. -/
def replaceReference (root : Value) (budget : Nat) (ref : String) : Except Problem Value :=
  match Reference.kind ref with
  | .parameter => do
    let target ← Pointer.lookup root ref
    replaceParameter budget target (some (Reference.name ref))
  | kind => .ok (SchemaHandle.named (some (Reference.name ref)) kind true).node

mutual

/-- The walk over a value of the document `root`; `budget` is the number of containers that it may
still enter inside each other. `outer` has the containers around the value that can be met again,
and `whole` the value itself with them written out, if that is known already. -/
def visit (root : Value) (budget : Nat) (outer : List (Nat × Value)) (whole : Option Value) :
    Value → Except Problem Value
  | .scalar s => .ok (.scalar s)
  | .members ks => .ok (.members ks)
  | .pair k v => .ok (whole.getD ((Value.pair k v).close outer []))
  | .sequence xs =>
    if budget = 0 then .error (.failure .tooDeepToResolve)
    else (visitItems root (budget - 1) outer xs).map .sequence
  | .mapping es =>
    let here := whole.getD ((Value.mapping es).close outer [])
    match Node.classify here with
    | .reference r => replaceReference root budget r
    | .parameter => replaceParameter budget here none
    | _ =>
      if budget = 0 then .error (.failure .tooDeepToResolve)
      else (visitEntries root (budget - 1) outer es).map .mapping
  | .knot n b =>
    let here := (Value.knot n b).close outer []
    visit root budget ((n, here) :: outer) (some here) b
  | .again _ => .error (.failure .cyclic)

/-- The walk over items. -/
def visitItems (root : Value) (budget : Nat) (outer : List (Nat × Value)) :
    List Value → Except Problem (List Value)
  | [] => .ok []
  | x :: xs => do
    let x ← visit root budget outer none x
    return x :: (← visitItems root budget outer xs)

/-- The walk over the values of entries. -/
def visitEntries (root : Value) (budget : Nat) (outer : List (Nat × Value)) :
    List (Scalar × Value) → Except Problem (List (Scalar × Value))
  | [] => .ok []
  | (k, v) :: es => do
    let v ← visit root budget outer none v
    return (k, v) :: (← visitEntries root budget outer es)

end

/-- The document with references replaced. -/
def resolve (d : Document) : Except Problem Document := do
  let tree ← visit d.tree walkLimit [] none d.tree
  Fault.lift (need (ofTree? tree))

end ClientGen.Document
