import ClientGen.Proofs.Value.Parts
import ClientGen.Value.Display

/-!
# JSON values

A JSON value is null, a truth value, a number, a text, a list of JSON values, or a mapping from
texts to JSON values. It can always be shown as text, and every mapping among its parts can be read
as fields.

## Main definitions

* `ClientGen.Value.IsJson` : JSON values.

## Main results

* `ClientGen.Value.hereditary_isJson` : the parts of a JSON value are JSON values.
* `ClientGen.Value.IsJson.shown_eq_ok` : JSON values can be shown.
* `ClientGen.Value.IsJson.exists_asFields?` : JSON mappings have fields.
-/

namespace ClientGen

/-- The scalar is null, a truth value, a number that is not too long to be written, or a text. -/
def Scalar.IsJson : Scalar → Prop
  | .null | .bool _ | .float _ | .nan _ | .text _ => True
  | .int n => (Scalar.int n).isWritable = true
  | .date _ | .moment _ | .bytes _ => False

namespace Value

/-- JSON values. -/
inductive IsJson : Value → Prop
  /-- An undivided value. -/
  | scalar {s : Scalar} (h : s.IsJson) : IsJson (.scalar s)
  /-- A list. -/
  | sequence {xs : List Value} (h : ∀ x ∈ xs, IsJson x) : IsJson (.sequence xs)
  /-- A mapping from texts. -/
  | ofFields {fs : Fields} (h : ∀ f ∈ fs, IsJson f.2) : IsJson (.ofFields fs)

variable {v w : Value}

@[simp]
theorem isJson_null : null.IsJson := .scalar trivial

@[simp]
theorem isJson_text (s : String) : (text s).IsJson := .scalar trivial

@[simp]
theorem isJson_bool (b : Bool) : (bool b).IsJson := .scalar trivial

@[simp]
theorem isJson_sequence {xs : List Value} : (sequence xs).IsJson ↔ ∀ x ∈ xs, x.IsJson := by
  refine ⟨fun h => ?_, .sequence⟩
  cases h with
  | sequence h => exact h

@[simp]
theorem isJson_ofFields {fs : Fields} : (ofFields fs).IsJson ↔ ∀ f ∈ fs, f.2.IsJson := by
  refine ⟨fun h => ?_, .ofFields⟩
  generalize hv : ofFields fs = v at h
  cases h with
  | scalar _ | sequence _ => cases hv
  | ofFields h => rwa [ofFields_injective hv]

/-- A JSON mapping has texts for its keys. -/
theorem IsJson.exists_fields (h : v.IsJson) (hm : v.isMapping = true) :
    ∃ fs, v = .ofFields fs ∧ ∀ f ∈ fs, f.2.IsJson := by
  cases h with
  | scalar h => cases hm
  | sequence h => cases hm
  | @ofFields fs h => exact ⟨fs, rfl, h⟩

theorem IsJson.of_mem_parts (h : v.IsJson) (hw : w ∈ v.parts) : w.IsJson := by
  cases h with
  | scalar h => cases hw
  | sequence h => exact h w hw
  | ofFields h =>
    rw [parts_ofFields] at hw
    obtain ⟨f, hf, rfl⟩ := List.mem_map.mp hw
    exact h f hf

theorem hereditary_isJson : Hereditary IsJson where
  of_mem_parts := IsJson.of_mem_parts
  null := isJson_null
  text := isJson_text
  sequence := .sequence
  ofFields := .ofFields

theorem IsJson.plain (h : v.IsJson) : v.Plain := by
  induction h with
  | scalar h => exact plain_scalar _
  | sequence _ ih => exact plain_sequence.mpr ih
  | ofFields _ ih => exact plain_ofFields ih

theorem Holds.isJson (h : v.Holds w) (hv : v.IsJson) : w.IsJson :=
  hereditary_isJson.of_holds hv h

/-! ### Reading JSON values -/

theorem areWritable_iff : (xs : List Value) → areWritable xs = true ↔ ∀ x ∈ xs, x.isWritable = true
  | [] => by simp [areWritable]
  | x :: xs => by rw [areWritable, Bool.and_eq_true, areWritable_iff xs, List.forall_mem_cons]

theorem haveWritable_iff : (es : List (Scalar × Value)) →
    haveWritable es = true ↔ ∀ e ∈ es, e.1.isWritable = true ∧ e.2.isWritable = true
  | [] => by simp [haveWritable]
  | (k, v) :: es => by
    rw [haveWritable, Bool.and_eq_true, Bool.and_eq_true, haveWritable_iff es,
      List.forall_mem_cons]

theorem IsJson.isWritable (h : v.IsJson) : v.isWritable = true := by
  induction h with
  | @scalar s h =>
    cases s with
    | int n => exact h
    | _ => rfl
  | sequence _ ih => exact (areWritable_iff _).mpr ih
  | ofFields _ ih =>
    refine (haveWritable_iff _).mpr (List.forall_mem_map.mpr fun f hf => ?_)
    exact ⟨rfl, ih f hf⟩

/-- A JSON value can be shown. -/
theorem IsJson.shown_eq_ok (h : v.IsJson) : v.shown = .ok v.display := by
  rw [shown, if_pos h.isWritable]

/-- A JSON mapping has fields. -/
theorem IsJson.exists_asFields? (h : v.IsJson) (hm : v.isMapping = true) :
    ∃ fs, v.asFields? = some fs := by
  obtain ⟨fs, rfl, -⟩ := h.exists_fields hm
  exact ⟨_, asFields?_ofFields fs⟩

theorem isMapping_of_asFields? {fs : Fields} (h : v.asFields? = some fs) : v.isMapping = true := by
  obtain ⟨es, -, hes, -⟩ := asFields?_eq_some.mp h
  rw [isMapping, hes]
  rfl

/-- Only the containers of JSON cannot be members of a set. -/
theorem IsJson.isMember_eq_false_iff (h : v.IsJson) :
    v.isMember = false ↔ v.isMapping = true ∨ v.isSequence = true := by
  cases h with
  | scalar h => simp [isMember, isMapping, isSequence, entries?, items?, opened]
  | sequence h => simp [isMember, isSequence, items?, opened]
  | ofFields h => simp [isMember, isMapping, entries?, opened, Value.ofFields]

end Value

end ClientGen
