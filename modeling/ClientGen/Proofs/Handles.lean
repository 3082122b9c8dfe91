import ClientGen.Api.Schema
import ClientGen.Proofs.Outcome

/-!
# Handles that are written and read back

A handle that a mapping shows is written as a mapping again. What a reference names is read back
from there. An array is not: its mapping has the kind and the mark of a reference beside its items,
though an array has neither, and so it is read as a reference without a name. Without these two
fields arrays would be read back as well, however deep they are nested.

## Main definitions

* `ClientGen.SchemaHandle.schemaNode` : a handle as a mapping in which arrays have no fields of
  references.

## Main results

* `ClientGen.SchemaHandle.ofNodeWithin_node_named`,
  `ClientGen.SchemaHandle.ofNodeWithin_node_arrayOf` : what is read back from the mappings of
  handles.
* `ClientGen.SchemaHandle.ofNodeWithin_schemaNode` : handles of any depth are read back where arrays
  have no fields of references.
* `ClientGen.SchemaHandle.ofNode?_node_eq_iff` : the handles that are read back.
-/

namespace ClientGen.SchemaHandle

variable {depth : Nat} {v : Value} {handle items : SchemaHandle} {name : Option String}
  {kind : ReferenceKind} {isReference : Bool}

/-! ### Handles that a mapping shows -/

theorem ne_parameter_of_kind? (h : kind? v = some kind) : kind ≠ .parameter := by
  unfold kind? at h
  split at h <;> cases h <;> decide

/-- A handle that a mapping shows is a reference of a kind that handles have, or an array of a
handle that is shown by the items. -/
theorem ofNodeWithin_eq_ok (h : ofNodeWithin depth v = .ok (some handle)) :
    (∃ name kind isReference, kind ≠ .parameter ∧ handle = .named name kind isReference) ∨
      ∃ shallower items, depth = shallower + 1 ∧ handle = .arrayOf items ∧
        ofNodeWithin shallower (v.field "items") = .ok (some items) := by
  cases depth with
  | zero => cases h
  | succ depth =>
    unfold ofNodeWithin at h
    split at h
    · cases h
    · split at h
      · rename_i kind hkind
        obtain ⟨name, -, h⟩ := Except.bind_eq_ok.mp h
        have hhandle := Option.some.inj (Except.pure_eq_ok.mp h)
        exact .inl ⟨name, kind, _, ne_parameter_of_kind? hkind, hhandle.symm⟩
      · split at h
        · obtain ⟨found, hfound, h⟩ := Except.bind_eq_ok.mp h
          obtain ⟨items, rfl, rfl⟩ := Option.map_eq_some_iff.mp (Except.pure_eq_ok.mp h)
          exact .inr ⟨depth, items, rfl, rfl, hfound⟩
        · cases h

/-! ### Reading back -/

/-- What a reference names is read back from its mapping. -/
theorem ofNodeWithin_node_named (hkind : kind ≠ .parameter) :
    ofNodeWithin (depth + 1) (node (.named name kind isReference)) =
      .ok (some (.named name kind isReference)) := by
  cases kind with
  | parameter => exact absurd rfl hkind
  | schema | other => cases name <;> rfl

/-- An array is read back as a reference without a name. -/
theorem ofNodeWithin_node_arrayOf (depth : Nat) (items : SchemaHandle) :
    ofNodeWithin (depth + 1) (node (.arrayOf items)) = .ok (some (.named none .schema false)) :=
  rfl

/-- The handle as a mapping, in which arrays have no fields of references. -/
def schemaNode : SchemaHandle → Value
  | named name kind isReference => node (named name kind isReference)
  | arrayOf items => .ofFields [("type", .text "array"), ("items", schemaNode items)]

/-- Handles are read back from mappings in which arrays have no fields of references. -/
theorem ofNodeWithin_schemaNode (h : ofNodeWithin depth v = .ok (some handle)) :
    ofNodeWithin depth handle.schemaNode = .ok (some handle) := by
  induction depth generalizing v handle with
  | zero => cases h
  | succ depth ih =>
    rcases ofNodeWithin_eq_ok h with ⟨name, kind, isReference, hkind, rfl⟩ |
      ⟨shallower, items, hdepth, rfl, hitems⟩
    · exact ofNodeWithin_node_named hkind
    · obtain rfl := Nat.succ.inj hdepth
      have hstep : ofNodeWithin (depth + 1) (schemaNode (.arrayOf items)) =
          (do return (← ofNodeWithin depth items.schemaNode).map arrayOf) := rfl
      rw [hstep, ih hitems]
      rfl

/-- **Handles that are read back.** A handle that a mapping shows is read back from the mapping that
it is written as exactly if it is no array. An array loses its items; it would not in a mapping
without the fields of references. -/
theorem ofNode?_node_eq_iff (h : ofNode? v = .ok (some handle)) :
    (ofNode? handle.node = .ok (some handle) ↔ ∀ items, handle ≠ .arrayOf items) ∧
      (∀ items, handle = .arrayOf items →
        ofNode? handle.node = .ok (some (.named none .schema false))) ∧
      ofNode? handle.schemaNode = .ok (some handle) := by
  refine ⟨⟨fun hread items harray => ?_, fun hnone => ?_⟩, fun items harray => ?_,
    ofNodeWithin_schemaNode h⟩
  · rw [harray] at hread
    cases hread
  · rcases ofNodeWithin_eq_ok h with ⟨name, kind, isReference, hkind, rfl⟩ |
      ⟨-, items, -, harray, -⟩
    · exact ofNodeWithin_node_named hkind
    · exact absurd harray (hnone items)
  · rw [harray]
    exact ofNodeWithin_node_arrayOf _ items

/-- The schema of a list of lists of pets, in a resolved document. -/
def petLists : Value :=
  .ofFields [("type", .text "array"), ("items", .ofFields [("type", .text "array"),
    ("items", node (.named (some "Pet") .schema true))])]

/-- The handle that `petLists` shows. -/
def petListsHandle : SchemaHandle := .arrayOf (.arrayOf (.named (some "Pet") .schema true))

theorem ofNode?_node_eq_iff_petLists :
    ofNode? petLists = .ok (some petListsHandle) ∧
      ofNode? petListsHandle.node = .ok (some (.named none .schema false)) ∧
      ofNode? petListsHandle.schemaNode = .ok (some petListsHandle) := by
  have hshown : ofNode? petLists = .ok (some petListsHandle) := rfl
  obtain ⟨-, hlost, hread⟩ := ofNode?_node_eq_iff hshown
  exact ⟨hshown, hlost _ rfl, hread⟩

/-- A handle that a mapping shows need not be read back. -/
theorem not_ofNode?_node_eq :
    ¬ ∀ (v : Value) (handle : SchemaHandle), ofNode? v = .ok (some handle) →
      ofNode? handle.node = .ok (some handle) := by
  intro h
  have hread := h petLists petListsHandle rfl
  cases hread

end ClientGen.SchemaHandle
