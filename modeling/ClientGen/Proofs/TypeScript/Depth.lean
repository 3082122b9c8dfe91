import ClientGen.Proofs.TypeScript.Faults

/-!
# Depth of schemas

Types and handles are looked for up to some depth. Looking deeper changes nothing that has been
found, nor any fault but that of depth, and that fault comes up only in values with at least as many
containers inside each other.

## Main definitions

* `ClientGen.Extends` : a step that ends like another one, or ends where that one is too deep.
* `ClientGen.Yields` : what a step gives, and the faults that it ends in.
* `ClientGen.TooDeep` : the fault of depth, for a value with many containers inside each other.

## Main results

* `ClientGen.SchemaHandle.extends_ofNodeWithin`, `ClientGen.TypeScript.extends_typeWithin` : looking
  one schema deeper.
* `ClientGen.SchemaHandle.tooDeep_of_ofNodeWithin` : handles that are too deep.
-/

namespace ClientGen

variable {α β : Type} {v w : Value} {depth : Nat}

/-! ### Steps that go deeper -/

/-- The second step ends like the first one, or the first one is too deep. -/
def Extends (x y : Except Fault α) : Prop := x = y ∨ x = .error .depthExceeded

namespace Extends

variable {x y : Except Fault α}

theorem refl (x : Except Fault α) : Extends x x := .inl rfl

theorem trans {z : Except Fault α} (hxy : Extends x y) (hyz : Extends y z) : Extends x z := by
  rcases hxy with rfl | hxy
  · exact hyz
  · exact .inr hxy

theorem bind {f g : α → Except Fault β} (h : Extends x y) (hfg : ∀ a, Extends (f a) (g a)) :
    Extends (x >>= f) (y >>= g) := by
  rcases h with rfl | rfl
  · cases x with
    | error e => exact .refl _
    | ok a => exact hfg a
  · exact .inr rfl

theorem mapM {f g : α → Except Fault β} (h : ∀ a, Extends (f a) (g a)) (xs : List α) :
    Extends (xs.mapM f) (xs.mapM g) := by
  induction xs with
  | nil => exact .refl _
  | cons a xs ih =>
    rw [List.mapM_cons, List.mapM_cons]
    exact .bind (h a) fun _ => .bind ih fun _ => .refl _

theorem ite {c : Prop} [Decidable c] {x' y' : Except Fault α} (h : Extends x y)
    (h' : Extends x' y') : Extends (if c then x else x') (if c then y else y') := by
  split
  · exact h
  · exact h'

theorem eq_ok {a : α} (h : Extends x y) (hx : x = .ok a) : y = .ok a := by
  rcases h with rfl | h
  · exact hx
  · cases hx.symm.trans h

end Extends

theorem SchemaHandle.extends_ofNodeWithin :
    Extends (ofNodeWithin depth v) (ofNodeWithin (depth + 1) v) := by
  induction depth generalizing v with
  | zero => exact .inr rfl
  | succ depth ih =>
    rw [ofNodeWithin, ofNodeWithin]
    refine .ite (.refl _) ?_
    split
    · exact .refl _
    · exact .ite (.bind ih fun _ => .refl _) (.refl _)

theorem SchemaHandle.extends_ofNodeWithin_of_le {limit : Nat} (h : depth ≤ limit) :
    Extends (ofNodeWithin depth v) (ofNodeWithin limit v) := by
  induction h with
  | refl => exact .refl _
  | step _ ih => exact ih.trans extends_ofNodeWithin

namespace TypeScript

variable {limit : Nat}

/-- What is no handle is none when looking deeper. -/
theorem Structured.of_le (h : Structured depth v) (hdepth : depth ≤ limit) :
    Structured limit v where
  mapping := h.mapping
  handle := (SchemaHandle.extends_ofNodeWithin_of_le hdepth).eq_ok h.handle

theorem Typed.of_le (h : Typed depth v) (hdepth : depth ≤ limit) : Typed limit v where
  toStructured := h.toStructured.of_le hdepth
  enum := h.enum

theorem Composed.of_le (h : Composed depth v) (hdepth : depth ≤ limit) : Composed limit v where
  toTyped := h.toTyped.of_le hdepth
  array := h.array
  member := h.member
  primitive := h.primitive

end TypeScript

/-- A type that is found is found by looking deeper as well. -/
theorem TypeScript.extends_typeWithin :
    Extends (typeWithin depth v) (typeWithin (depth + 1) v) := by
  induction depth using Nat.strongRecOn generalizing v with | ind depth ih
  cases depth with
  | zero => exact .inr rfl
  | succ depth =>
    have hmember {w : Value} : Extends (memberWithin depth w) (memberWithin (depth + 1) w) := by
      cases depth with
      | zero => exact .inr rfl
      | succ depth => exact ih depth (by omega)
    rw [typeWithin, typeWithin]
    refine .ite (.refl _) (.bind SchemaHandle.extends_ofNodeWithin fun found => ?_)
    cases found with
    | some handle => exact .refl _
    | none =>
      dsimp only
      split
      · exact .refl _
      · refine .ite (.bind (ih depth (by omega)) fun _ => .refl _) (.ite (.refl _) ?_)
        split
        · exact .refl _
        · split
          · refine .bind (.refl _) fun required => .bind (.mapM (fun e => ?_) _) fun _ => .refl _
            exact .bind (.refl _) fun name => .bind hmember fun _ => .refl _
          · exact .ite (.bind (ih depth (by omega)) fun _ => .refl _) (.refl _)

theorem TypeScript.extends_typeWithin_of_le {limit : Nat} (h : depth ≤ limit) :
    Extends (typeWithin depth v) (typeWithin limit v) := by
  induction h with
  | refl => exact .refl _
  | step _ ih => exact ih.trans extends_typeWithin

/-! ### What steps give -/

/-- What the step gives has the first property, and a fault that it ends in has the second one. -/
def Yields (P : α → Prop) (Q : Fault → Prop) : Except Fault α → Prop
  | .ok a => P a
  | .error f => Q f

namespace Yields

variable {P P' : α → Prop} {R : β → Prop} {Q Q' : Fault → Prop} {x : Except Fault α}

theorem pure {a : α} (h : P a) : Yields P Q (Pure.pure a : Except Fault α) := h

theorem mono (h : Yields P Q x) (hP : ∀ a, P a → P' a) (hQ : ∀ f, Q f → Q' f) :
    Yields P' Q' x := by
  cases x with
  | ok a => exact hP a h
  | error f => exact hQ f h

theorem bind {g : α → Except Fault β} (h : Yields P Q x) (hg : ∀ a, P a → Yields R Q (g a)) :
    Yields R Q (x >>= g) := by
  cases x with
  | ok a => exact hg a h
  | error f => exact h

theorem mapM {S : α → β → Prop} {g : α → Except Fault β} {xs : List α}
    (h : ∀ a ∈ xs, Yields (S a) Q (g a)) : Yields (List.Forall₂ S xs) Q (xs.mapM g) := by
  induction xs with
  | nil => exact .pure .nil
  | cons a xs ih =>
    obtain ⟨ha, hxs⟩ := List.forall_mem_cons.mp h
    rw [List.mapM_cons]
    exact ha.bind fun b hb => (ih hxs).bind fun bs hbs => .pure (.cons hb hbs)

end Yields

/-! ### Containers inside each other -/

namespace Value

/-- The parts of a value have fewer containers inside each other. -/
theorem nesting_lt_of_mem_parts (hv : v.Plain) (hw : w ∈ v.parts) : w.nesting < v.nesting := by
  cases v with
  | scalar s | members ks | again n => cases hw
  | knot n b => exact absurd hv not_plain_knot
  | sequence xs =>
    rw [nesting, Nat.lt_succ_iff]
    exact nesting_le_nestingItems hw
  | mapping es =>
    rw [nesting, nestingEntries_eq, Nat.lt_succ_iff]
    exact nesting_le_nestingItems hw
  | pair k u =>
    rw [nesting]
    rcases List.mem_pair.mp hw with rfl | rfl <;> omega

theorem nesting_lt_of_mem_entries {es : List (Scalar × Value)} {e : Scalar × Value}
    (hv : v.Plain) (hes : v.entries? = some es) (he : e ∈ es) : e.2.nesting < v.nesting :=
  nesting_lt_of_mem_parts hv (parts_of_entries? hes ▸ List.mem_map_of_mem he)

theorem plain_of_mem_entries {es : List (Scalar × Value)} {e : Scalar × Value}
    (hv : v.Plain) (hes : v.entries? = some es) (he : e ∈ es) : e.2.Plain :=
  plain_of_mem_parts hv (parts_of_entries? hes ▸ List.mem_map_of_mem he)

/-- What stands under a key is a part of the value, or there is nothing. -/
theorem field_eq_null_or_mem_parts (v : Value) (key : String) :
    v.field key = .null ∨ v.field key ∈ v.parts := by
  cases hw : v.get? key with
  | none => exact .inl (by rw [field, hw]; rfl)
  | some w =>
    rw [field, hw]
    exact .inr (mem_parts_of_get? hw)

theorem plain_field (hv : v.Plain) (key : String) : (v.field key).Plain := by
  rcases v.field_eq_null_or_mem_parts key with h | h
  · exact h ▸ plain_scalar _
  · exact plain_of_mem_parts hv h

theorem nesting_field_lt (hv : v.Plain) (hmapping : v.isMapping = true) (key : String) :
    (v.field key).nesting < v.nesting := by
  rcases v.field_eq_null_or_mem_parts key with h | h
  · obtain ⟨es, hes⟩ := Option.isSome_iff_exists.mp hmapping
    have hopened := entries?_eq_some.mp hes
    rw [opened_of_plain hv] at hopened
    rw [h, hopened]
    exact Nat.succ_pos _
  · exact nesting_lt_of_mem_parts hv h

end Value

/-- The fault is that of depth, and the value has at least as many containers inside each other. -/
def TooDeep (depth : Nat) (v : Value) (f : Fault) : Prop := f = .depthExceeded ∧ depth ≤ v.nesting

theorem Yields.ok_or_depthExceeded {P : α → Prop} {x : Except Fault α}
    (h : Yields P (TooDeep depth v) x) :
    (∃ a, x = .ok a ∧ P a) ∨ x = .error .depthExceeded ∧ depth ≤ v.nesting := by
  cases x with
  | ok a => exact .inl ⟨a, rfl, h⟩
  | error f =>
    obtain ⟨rfl, hdeep⟩ := h
    exact .inr ⟨rfl, hdeep⟩

/-- A handle that is looked for up to some depth is found, or there is none, or its name is no text,
or the value is too deep. -/
theorem SchemaHandle.tooDeep_of_ofNodeWithin {f : Fault} (hv : v.Plain)
    (h : ofNodeWithin depth v = .error f) : Misnamed depth v ∨ TooDeep depth v f := by
  by_cases hf : f = .depthExceeded
  · refine .inr ⟨hf, ?_⟩
    induction depth generalizing v with
    | zero => exact Nat.zero_le _
    | succ depth ih =>
      rw [ofNodeWithin] at h
      split at h
      · cases h
      · rename_i hmapping
        split at h
        · rcases Except.bind_eq_error.mp h with h | ⟨name, -, h⟩
          · cases hf.symm.trans (need_eq_error.mp h).2
          · cases h
        · split at h
          · rcases Except.bind_eq_error.mp h with h | ⟨found, -, h⟩
            · have hdeep := ih (Value.plain_field hv _) h
              have hless := Value.nesting_field_lt hv (by simpa using hmapping) "items"
              omega
            · cases h
          · cases h
  · exact .inl (breaks_ofNodeWithin.mp ⟨h, hf⟩).2

end ClientGen
