import ClientGen.Api.Parameter
import ClientGen.Document.Basic

/-!
# Handles of schemas

In a resolved document a reference to a schema is replaced by a handle with the name of the
schema. The handle stands as a mapping in the document. A schema for an array whose items are
given by a handle counts as a handle too.

## Main definitions

* `ClientGen.SchemaHandle` : handles, and arrays of them.
* `ClientGen.SchemaHandle.node`, `ClientGen.SchemaHandle.ofNode?` : the handle as a mapping.
-/

namespace ClientGen

/-- A handle of a schema, or an array of what a handle stands for. -/
inductive SchemaHandle where
  /-- What a reference names. -/
  | named (name : Option String) (kind : ReferenceKind) (isReference : Bool)
  /-- An array. -/
  | arrayOf (items : SchemaHandle)
  deriving DecidableEq

namespace SchemaHandle

/-- The fields that every handle shows. -/
def shownFields (name : Option String) (kind : ReferenceKind) (isReference : Bool) : Fields :=
  (name.map fun n => ("modelName", Value.text n)).toList ++
    [("refType", .text kind.word), ("isReference", .bool isReference)]

/-- The handle as a mapping. -/
def node : SchemaHandle → Value
  | named name kind isReference => .ofFields (shownFields name kind isReference)
  | arrayOf items =>
    .ofFields (shownFields none .schema false ++ [("type", .text "array"), ("items", items.node)])

/-- The kind that a mapping shows, if it is one of those that handles have. -/
def kind? (v : Value) : Option ReferenceKind :=
  match (v.field "refType").text? with
  | some "schema" => some .schema
  | some "other" => some .other
  | _ => none

/-- The handle that a mapping shows, looking at most `depth` schemas deep, with one call for each;
none for any other value. The name, if there is one, has to be a text. -/
def ofNodeWithin (depth : Nat) (v : Value) : Except Fault (Option SchemaHandle) :=
  match depth with
  | 0 => .error .depthExceeded
  | depth + 1 =>
    if !v.isMapping then .ok none
    else match kind? v with
      | some kind => do
        let name ← need (PrimitiveParameter.textOrNull? (v.field "modelName"))
        return some (named name kind (((v.get? "isReference").getD (.bool true)).isFilled))
      | none =>
        if v.field "type" = .text "array" then do
          return (← ofNodeWithin depth (v.field "items")).map arrayOf
        else .ok none

/-- The handle that a mapping shows; none for any other value. -/
def ofNode? (v : Value) : Except Fault (Option SchemaHandle) := ofNodeWithin callLimit v

end SchemaHandle

end ClientGen
