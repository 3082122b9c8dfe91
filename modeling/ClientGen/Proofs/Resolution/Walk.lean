import Mathlib.Data.List.Forall2
import Mathlib.Logic.Relation
import ClientGen.Document.Resolution
import ClientGen.Proofs.Outcome
import ClientGen.Proofs.Value.Parts

/-!
# The walk over a document

The walk that replaces references enters the mappings and sequences that are neither references nor
definitions of parameters, and meets their parts. This file says what a value is classified as,
which values the walk meets, and what the walk over the parts of a container gives.

## Main definitions

* `ClientGen.Node.IsEntered` : the walk goes on to the parts.
* `ClientGen.Document.Enters`, `ClientGen.Document.Meets` : the values that the walk meets.
* `ClientGen.Document.met` : the values that the walk meets, as a list.
* `ClientGen.Document.IsRejected` : definitions of parameters that are not primitive.

## Main results

* `ClientGen.Node.classify_eq_reference_iff`, `ClientGen.Node.classify_eq_parameter_iff`,
  `ClientGen.Node.classify_eq_mapping_iff` : the kinds of mappings.
* `ClientGen.Document.visitItems_eq_ok_iff`, `ClientGen.Document.visitItems_eq_error_iff` : the
  walk over items.
* `ClientGen.Document.visit_sequence_eq_ok`, `ClientGen.Document.visit_mapping_eq_ok` : what the
  walk gives for a container.
-/

namespace ClientGen

open Relation

/-! ### Kinds of values -/

namespace Value

/-- The text under which a mapping refers to another place. -/
def reference? (v : Value) : Option String := (v.field "$ref").text?

theorem get?_of_isMapping_field {v : Value} {key : String} (h : (v.field key).isMapping = true) :
    v.get? key = some (v.field key) := by
  cases hget : v.get? key with
  | none =>
    rw [field, hget] at h
    cases h
  | some w => rw [field, hget, Option.getD_some]

theorem isMapping_eq_false_of_isSequence {v : Value} (h : v.isSequence = true) :
    v.isMapping = false := by
  obtain ⟨xs, hxs⟩ := Option.isSome_iff_exists.mp h
  rw [isMapping, entries?, items?_eq_some.mp hxs]
  rfl

theorem items?_of_isMapping {v : Value} (h : v.isMapping = true) : v.items? = none := by
  obtain ⟨es, hes⟩ := Option.isSome_iff_exists.mp h
  rw [items?, entries?_eq_some.mp hes]

theorem reference?_of_isMapping_eq_false {v : Value} (h : v.isMapping = false) :
    v.reference? = none := by
  rw [reference?, field_of_isMapping_eq_false h]
  rfl

theorem isMapping_of_reference? {v : Value} {r : String} (h : v.reference? = some r) :
    v.isMapping = true := by
  by_contra hno
  rw [reference?, field_of_isMapping_eq_false (by simpa using hno)] at h
  cases h

end Value

theorem PrimitiveParameter.isMapping_of_isDefinition {v : Value}
    (h : PrimitiveParameter.isDefinition v = true) : v.isMapping = true := by
  by_contra hno
  rw [isDefinition, Value.field_of_isMapping_eq_false (by simpa using hno) "in"] at h
  cases h

namespace Node

/-- The walk goes on to the parts of values of that kind. -/
def IsEntered (n : Node) : Prop := n = .mapping ∨ n = .sequence

instance (n : Node) : Decidable n.IsEntered := inferInstanceAs (Decidable (_ ∨ _))

theorem not_isEntered_scalar : ¬ IsEntered .scalar := by decide

theorem not_isEntered_parameter : ¬ IsEntered .parameter := by decide

theorem not_isEntered_reference (r : String) : ¬ IsEntered (.reference r) := by
  rintro (h | h) <;> cases h

variable {v : Value}

theorem classify_of_isSequence (h : v.isSequence = true) : classify v = .sequence := by
  rw [classify, if_pos h]

theorem classify_of_isMapping (h : v.isMapping = true) :
    classify v = match v.reference? with
      | some r => .reference r
      | none => if PrimitiveParameter.isDefinition v then .parameter else .mapping := by
  have hno : ¬ v.isSequence = true := fun hs => by
    rw [Value.isMapping_eq_false_of_isSequence hs] at h
    cases h
  rw [classify, if_neg hno, if_pos h]
  rfl

theorem classify_of_scalar (hs : v.isSequence = false) (hm : v.isMapping = false) :
    classify v = .scalar := by
  rw [classify, hs, hm]
  rfl

theorem classify_ne_scalar (h : v.isMapping = true) : classify v ≠ .scalar := by
  rw [classify_of_isMapping h]
  intro hscalar
  split at hscalar
  · cases hscalar
  · split at hscalar <;> cases hscalar

/-- A mapping that is entered is neither a reference nor a parameter. -/
theorem classify_of_isEntered (h : v.isMapping = true) (hv : (classify v).IsEntered) :
    classify v = .mapping := by
  rcases hv with hv | hv
  · exact hv
  · rw [classify_of_isMapping h] at hv
    split at hv
    · cases hv
    · split at hv <;> cases hv

/-- A value that is classified as a scalar has no parts, unless it is a pair. -/
theorem isPair_of_mem_parts {w : Value} (h : classify v = .scalar) (hw : w ∈ v.parts) :
    v.IsPair := by
  unfold Value.parts at hw
  split at hw
  · rename_i xs hxs
    have hs : v.isSequence = true := by
      rw [Value.isSequence, Value.items?_eq_some.mpr hxs]
      rfl
    cases (classify_of_isSequence hs).symm.trans h
  · rename_i es hes
    have hm : v.isMapping = true := by
      rw [Value.isMapping, Value.entries?_eq_some.mpr hes]
      rfl
    exact absurd h (classify_ne_scalar hm)
  · rename_i k x hkx
    exact ⟨k, x, hkx⟩
  · cases hw

/-- Values with the same children are classified alike. -/
theorem classify_congr {w : Value} (h : v.opened = w.opened) : classify v = classify w := by
  have hentries : v.entries? = w.entries? := by rw [Value.entries?, Value.entries?, h]
  have hitems : v.items? = w.items? := by rw [Value.items?, Value.items?, h]
  have hfield (key : String) : v.field key = w.field key := by
    rw [Value.field, Value.field, Value.get?, Value.get?, hentries]
  rw [classify, classify, Value.isSequence, Value.isSequence, Value.isMapping, Value.isMapping,
    hentries, hitems, PrimitiveParameter.isDefinition, PrimitiveParameter.isDefinition]
  simp only [hfield]

theorem classify_eq_reference_iff {r : String} :
    classify v = .reference r ↔ v.reference? = some r := by
  constructor
  · intro h
    cases hs : v.isSequence with
    | true => simp [classify_of_isSequence hs] at h
    | false =>
      cases hm : v.isMapping with
      | false => simp [classify_of_scalar hs hm] at h
      | true =>
        rw [classify_of_isMapping hm] at h
        split at h
        · rename_i r' hr
          rw [hr, reference.inj h]
        · split at h <;> cases h
  · intro h
    rw [classify_of_isMapping (Value.isMapping_of_reference? h), h]

theorem classify_eq_parameter_iff :
    classify v = .parameter ↔
      v.reference? = none ∧ PrimitiveParameter.isDefinition v = true := by
  constructor
  · intro h
    cases hs : v.isSequence with
    | true => simp [classify_of_isSequence hs] at h
    | false =>
      cases hm : v.isMapping with
      | false => simp [classify_of_scalar hs hm] at h
      | true =>
        rw [classify_of_isMapping hm] at h
        split at h
        · cases h
        · rename_i hr
          split at h
          · rename_i hd
            exact ⟨hr, hd⟩
          · cases h
  · rintro ⟨hr, hd⟩
    rw [classify_of_isMapping (PrimitiveParameter.isMapping_of_isDefinition hd), hr]
    exact if_pos hd

theorem classify_eq_mapping_iff :
    classify v = .mapping ↔ v.isMapping = true ∧ v.reference? = none ∧
      PrimitiveParameter.isDefinition v = false := by
  constructor
  · intro h
    cases hs : v.isSequence with
    | true => simp [classify_of_isSequence hs] at h
    | false =>
      cases hm : v.isMapping with
      | false => simp [classify_of_scalar hs hm] at h
      | true =>
        rw [classify_of_isMapping hm] at h
        split at h
        · cases h
        · rename_i hr
          split at h
          · cases h
          · rename_i hd
            exact ⟨rfl, hr, by simpa using hd⟩
  · rintro ⟨hm, hr, hd⟩
    rw [classify_of_isMapping hm, hr, hd]
    rfl

/-- A mapping is a reference, a parameter or another mapping. -/
theorem classify_mapping (es : List (Scalar × Value)) :
    (∃ r, classify (.mapping es) = .reference r) ∨ classify (.mapping es) = .parameter ∨
      classify (.mapping es) = .mapping := by
  rw [classify_of_isMapping rfl]
  split
  · exact .inl ⟨_, rfl⟩
  · split
    · exact .inr (.inl rfl)
    · exact .inr (.inr rfl)

/-- A mapping with neither a reference nor a location is entered. -/
theorem classify_ofFields {fs : Fields} (href : fs.lookup "$ref" = none)
    (hin : fs.lookup "in" = none) : classify (.ofFields fs) = .mapping := by
  refine classify_eq_mapping_iff.mpr ⟨rfl, ?_, ?_⟩
  · rw [Value.reference?, Value.field, Value.get?_ofFields, href]
    rfl
  · rw [PrimitiveParameter.isDefinition, Value.field, Value.get?_ofFields, hin]
    rfl

end Node

namespace Document

/-! ### What the walk meets -/

/-- The walk enters the value and goes on to one of its parts. -/
def Enters (v w : Value) : Prop := (Node.classify v).IsEntered ∧ w ∈ v.parts

/-- The walk over the value meets another one. -/
def Meets : Value → Value → Prop := ReflTransGen Enters

/-- The value is a definition of a parameter that is not primitive. -/
def IsRejected (v : Value) : Prop :=
  Node.classify v = .parameter ∧ PrimitiveParameter.describe? v none = .ok none

theorem Meets.holds {v w : Value} (h : Meets v w) : v.Holds w := by
  induction h with
  | refl => exact .refl
  | tail _ hstep ih => exact ih.tail hstep.2

theorem meets_sequence {xs : List Value} {x : Value} (hx : x ∈ xs) : Meets (.sequence xs) x :=
  .single ⟨.inr rfl, hx⟩

/-- The values that the walk over a plain value meets. -/
def met (v : Value) : List Value := v.within fun w => (Node.classify w).IsEntered

theorem mem_met {v w : Value} (hplain : v.Plain) (h : Meets v w) : w ∈ met v := by
  refine Value.mem_within hplain ?_
  induction h with
  | refl => exact .refl
  | tail _ hstep ih => exact ih.tail ⟨decide_eq_true hstep.1, hstep.2⟩

/-- The references that the walk meets. -/
def metReferences (v : Value) : List String := (met v).filterMap Value.reference?

theorem mem_metReferences {v w : Value} {r : String} (hplain : v.Plain) (h : Meets v w)
    (hr : w.reference? = some r) : r ∈ metReferences v :=
  List.mem_filterMap.mpr ⟨w, mem_met hplain h, hr⟩

/-! ### The walk over containers -/

variable {root : Value} {budget : Nat} {outer : List (Nat × Value)} {p : Problem}

theorem visitItems_eq_ok_iff {xs ys : List Value} :
    visitItems root budget outer xs = .ok ys ↔
      List.Forall₂ (fun x y => visit root budget outer none x = .ok y) xs ys := by
  induction xs generalizing ys with
  | nil => simp [visitItems, eq_comm]
  | cons x xs ih =>
    simp only [visitItems, Except.bind_eq_ok, Except.pure_eq_ok, List.forall₂_cons_left_iff, ih]
    constructor
    · rintro ⟨y, hy, zs, hzs, rfl⟩
      exact ⟨y, zs, hy, hzs, rfl⟩
    · rintro ⟨y, zs, hy, hzs, rfl⟩
      exact ⟨y, hy, zs, hzs, rfl⟩

theorem visitItems_eq_error_iff {xs : List Value} :
    visitItems root budget outer xs = .error p ↔
      ∃ before x after, xs = before ++ x :: after ∧
        (∀ y ∈ before, ∃ z, visit root budget outer none y = .ok z) ∧
        visit root budget outer none x = .error p := by
  induction xs with
  | nil => simp [visitItems]
  | cons x xs ih =>
    constructor
    · intro h
      simp only [visitItems, Except.bind_eq_error] at h
      rcases h with h | ⟨z, hz, h | ⟨zs, -, h⟩⟩
      · exact ⟨[], x, xs, rfl, by simp, h⟩
      · obtain ⟨before, y, after, rfl, hbefore, hy⟩ := ih.mp h
        exact ⟨x :: before, y, after, rfl, List.forall_mem_cons.mpr ⟨⟨z, hz⟩, hbefore⟩, hy⟩
      · cases h
    · rintro ⟨before, y, after, hxs, hbefore, hy⟩
      simp only [visitItems, Except.bind_eq_error]
      cases before with
      | nil =>
        obtain ⟨rfl, -⟩ := List.cons.inj hxs
        exact .inl hy
      | cons b before =>
        obtain ⟨rfl, rfl⟩ := List.cons.inj hxs
        obtain ⟨⟨z, hz⟩, hbefore⟩ := List.forall_mem_cons.mp hbefore
        exact .inr ⟨z, hz, .inl (ih.mpr ⟨before, y, after, rfl, hbefore, hy⟩)⟩

theorem visitEntries_eq_ok_iff {es fs : List (Scalar × Value)} :
    visitEntries root budget outer es = .ok fs ↔
      List.Forall₂ (fun e f => e.1 = f.1 ∧ visit root budget outer none e.2 = .ok f.2) es fs := by
  induction es generalizing fs with
  | nil => simp [visitEntries, eq_comm]
  | cons e es ih =>
    obtain ⟨k, v⟩ := e
    simp only [visitEntries, Except.bind_eq_ok, Except.pure_eq_ok, List.forall₂_cons_left_iff, ih]
    constructor
    · rintro ⟨w, hw, gs, hgs, rfl⟩
      exact ⟨(k, w), gs, ⟨rfl, hw⟩, hgs, rfl⟩
    · rintro ⟨⟨l, w⟩, gs, ⟨rfl, hw⟩, hgs, rfl⟩
      exact ⟨w, hw, gs, hgs, rfl⟩

/-- The walk over entries fails where the walk over their values does. -/
theorem visitEntries_eq_error_iff {es : List (Scalar × Value)} :
    visitEntries root budget outer es = .error p ↔
      visitItems root budget outer (es.map (·.2)) = .error p := by
  induction es with
  | nil => simp [visitEntries, visitItems]
  | cons e es ih =>
    obtain ⟨k, v⟩ := e
    simp only [List.map_cons, visitEntries, visitItems, Except.bind_eq_error, ih]
    simp [pure, Except.pure]

theorem visit_pair (k v : Value) :
    visit root budget [] none (.pair k v) = .ok (.pair k v) := by
  rw [visit, Option.getD_none, Value.close_nil]

/-- The walk over a mapping that no container around it can be met again from. -/
theorem visit_mapping (es : List (Scalar × Value)) :
    visit root budget [] none (.mapping es) =
      match Node.classify (.mapping es) with
      | .reference r => replaceReference root budget r
      | .parameter => replaceParameter budget (.mapping es) none
      | _ =>
        if budget = 0 then .error (.failure .tooDeepToResolve)
        else (visitEntries root (budget - 1) [] es).map .mapping := by
  have hself : (none : Option Value).getD ((Value.mapping es).close [] []) = .mapping es :=
    Value.close_nil _ _
  rw [visit]
  generalize (none : Option Value).getD ((Value.mapping es).close [] []) = here at hself ⊢
  subst hself
  rfl

/-- A list keeps its length, and its items are walked over one by one. -/
theorem visit_sequence_eq_ok {xs : List Value} {w : Value}
    (h : visit root budget [] none (.sequence xs) = .ok w) :
    ∃ ys, w = .sequence ys ∧
      List.Forall₂ (fun x y => visit root (budget - 1) [] none x = .ok y) xs ys := by
  rw [visit] at h
  split at h
  · cases h
  · obtain ⟨ys, hys, rfl⟩ := Except.map_eq_ok.mp h
    exact ⟨ys, rfl, visitItems_eq_ok_iff.mp hys⟩

/-- A mapping is replaced as a reference or as a parameter, or it keeps its keys and the values
under them are walked over one by one. -/
theorem visit_mapping_eq_ok {es : List (Scalar × Value)} {w : Value}
    (h : visit root budget [] none (.mapping es) = .ok w) :
    (∃ r, Node.classify (.mapping es) = .reference r ∧ replaceReference root budget r = .ok w) ∨
      (Node.classify (.mapping es) = .parameter ∧
        replaceParameter budget (.mapping es) none = .ok w) ∨
      Node.classify (.mapping es) = .mapping ∧ ∃ fs, w = .mapping fs ∧
        List.Forall₂ (fun e f => e.1 = f.1 ∧ visit root (budget - 1) [] none e.2 = .ok f.2)
          es fs := by
  rw [visit_mapping] at h
  rcases Node.classify_mapping es with ⟨r, hclass⟩ | hclass | hclass
  · rw [hclass] at h
    exact .inl ⟨r, hclass, h⟩
  · rw [hclass] at h
    exact .inr (.inl ⟨hclass, h⟩)
  · rw [hclass] at h
    simp only at h
    split at h
    · cases h
    · obtain ⟨fs, hfs, rfl⟩ := Except.map_eq_ok.mp h
      exact .inr (.inr ⟨hclass, fs, rfl, visitEntries_eq_ok_iff.mp hfs⟩)

end Document

end ClientGen
