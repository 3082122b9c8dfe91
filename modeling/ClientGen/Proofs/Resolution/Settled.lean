import ClientGen.Proofs.Resolution.Walk
import ClientGen.Proofs.Value.Pointers

/-!
# Settled values

A value is settled if the walk meets no reference in it and no parameter that it would describe.
The walk leaves settled values as they are, and what it gives is settled, as far as the targets
of the references that it replaces are.

## Main definitions

* `ClientGen.Document.Settled` : there is nothing to replace.
* `ClientGen.Document.Fits` : a target that is described or settled.
* `ClientGen.Value.Resembles` : values that count alike where containers are classified.

## Main results

* `ClientGen.Document.visit_of_settled` : the walk leaves a settled value as it is, or is too deep.
* `ClientGen.Document.resembles_of_visit` : what is replaced counts like what replaces it.
* `ClientGen.Document.settled_of_visit` : the walk gives a settled value.
-/

namespace ClientGen

open Relation

namespace Document

/-- The walk meets no reference in the value and no parameter that it would describe. -/
def Settled (v : Value) : Prop :=
  ∀ w, Meets v w → w.reference? = none ∧
    (Node.classify w = .parameter → IsRejected w)

/-- What a reference to a parameter names is described, or a settled container. -/
def Fits (ref : String) (target : Value) : Prop :=
  (∃ p, PrimitiveParameter.describe? target (some (Reference.name ref)) = .ok (some p)) ∨
    (target.isMapping = true ∨ target.isSequence = true) ∧ Settled target

/-- All references to parameters that the walk over a value of the document `root` meets have
targets that fit. -/
def TargetsFit (root v : Value) : Prop :=
  ∀ w, Meets v w → ∀ r, w.reference? = some r → Reference.kind r = .parameter →
    ∀ t, Pointer.lookup root r = .ok t → Fits r t

variable {root v w : Value} {budget : Nat}

/-! ### Settled values -/

theorem Settled.of_meets (h : Settled v) (hw : Meets v w) : Settled w :=
  fun u hu => h u (hw.trans hu)

theorem TargetsFit.of_meets (h : TargetsFit root v) (hw : Meets v w) : TargetsFit root w :=
  fun u hu => h u (hw.trans hu)

/-- A value is settled if it needs no replacement itself and its parts are settled, as far as the
walk enters it. -/
theorem settled_of_parts (hr : v.reference? = none)
    (hp : Node.classify v = .parameter → IsRejected v)
    (hparts : (Node.classify v).IsEntered → ∀ w ∈ v.parts, Settled w) : Settled v := by
  intro w hw
  rcases hw.cases_head with rfl | ⟨u, hu, huw⟩
  · exact ⟨hr, hp⟩
  · exact hparts hu.1 u hu.2 w huw

theorem settled_of_scalar (h : Node.classify v = .scalar) : Settled v := by
  have hm : v.reference? = none := by
    cases hr : v.reference? with
    | none => rfl
    | some r => cases (Node.classify_eq_reference_iff.mpr hr).symm.trans h
  refine settled_of_parts hm (fun hp => ?_) fun he => ?_
  · cases h.symm.trans hp
  · exact absurd (h ▸ he) Node.not_isEntered_scalar

theorem settled_sequence {xs : List Value} (h : ∀ x ∈ xs, Settled x) :
    Settled (.sequence xs) := by
  have hs : Node.classify (.sequence xs) = .sequence := rfl
  refine settled_of_parts (Value.reference?_of_isMapping_eq_false rfl) (fun hp => ?_) fun _ => h
  cases hs.symm.trans hp

/-- A mapping without a reference, without a location and with nothing but scalars is settled. -/
theorem settled_ofFields {fs : Fields} (href : fs.lookup "$ref" = none)
    (hin : fs.lookup "in" = none) (hscalar : ∀ f ∈ fs, ∃ s, f.2 = .scalar s) :
    Settled (.ofFields fs) := by
  have hclass := Node.classify_ofFields href hin
  have href := (Node.classify_eq_mapping_iff.mp hclass).2.1
  refine settled_of_parts href (fun hp => ?_) fun _ w hw => ?_
  · cases hclass.symm.trans hp
  · rw [Value.parts_ofFields] at hw
    obtain ⟨f, hf, rfl⟩ := List.mem_map.mp hw
    obtain ⟨s, hs⟩ := hscalar f hf
    rw [hs]
    exact settled_of_scalar rfl

theorem settled_handle (name : Option String) (kind : ReferenceKind) (isReference : Bool) :
    Settled (SchemaHandle.named name kind isReference).node := by
  cases name <;> exact settled_ofFields rfl rfl (by simp [SchemaHandle.shownFields])

theorem settled_node (p : PrimitiveParameter) : Settled p.node := by
  have hscalar (s : Option String) : ∃ t, PrimitiveParameter.optionalText s = .scalar t := by
    cases s <;> exact ⟨_, rfl⟩
  exact settled_ofFields rfl rfl (by simp [hscalar])

/-! ### Depth -/

theorem copied_eq_ok {u : Value} :
    copied budget v = .ok u ↔ u = v ∧ 2 * v.nesting ≤ 3 * budget := by
  unfold copied
  split
  · simp; omega
  · simp [eq_comm]; omega

/-! ### The second walk -/

/-- The walk leaves the value as it is, unless the value is deeper than the budget. -/
def Left (root : Value) (budget : Nat) (v : Value) : Prop :=
  visit root budget [] none v = .ok v ∨
    visit root budget [] none v = .error (.failure .tooDeepToResolve) ∧ budget < v.nesting

theorem visitItems_of_left {xs : List Value} (h : ∀ x ∈ xs, Left root budget x) :
    visitItems root budget [] xs = .ok xs ∨
      visitItems root budget [] xs = .error (.failure .tooDeepToResolve) ∧
        budget < Value.nestingItems xs := by
  induction xs with
  | nil => exact .inl rfl
  | cons x xs ih =>
    obtain ⟨hx, hxs⟩ := List.forall_mem_cons.mp h
    simp only [visitItems, Value.nestingItems]
    rcases hx with hx | ⟨hx, hdeep⟩
    · rcases ih hxs with hxs | ⟨hxs, hdeep⟩
      · left
        rw [hx, hxs]
        rfl
      · right
        rw [hx, hxs]
        exact ⟨rfl, by omega⟩
    · right
      rw [hx]
      exact ⟨rfl, by omega⟩

theorem visitEntries_of_left {es : List (Scalar × Value)} (h : ∀ e ∈ es, Left root budget e.2) :
    visitEntries root budget [] es = .ok es ∨
      visitEntries root budget [] es = .error (.failure .tooDeepToResolve) ∧
        budget < Value.nestingEntries es := by
  have hitems : ∀ x ∈ es.map (·.2), Left root budget x := List.forall_mem_map.mpr h
  rcases visitItems_of_left hitems with hok | ⟨herror, hdeep⟩
  · left
    rw [visitItems_eq_ok_iff, List.forall₂_same] at hok
    rw [visitEntries_eq_ok_iff, List.forall₂_same]
    exact fun e he => ⟨rfl, hok e.2 (List.mem_map_of_mem he)⟩
  · right
    rw [Value.nestingEntries_eq]
    exact ⟨visitEntries_eq_error_iff.mpr herror, hdeep⟩

/-- The walk leaves a settled value as it is, or is too deep. -/
theorem visit_of_settled {v : Value} (hplain : v.Plain) (h : Settled v) : Left root budget v := by
  induction v generalizing budget with
  | scalar s => exact .inl rfl
  | members ks => exact .inl rfl
  | pair k v => exact .inl (visit_pair k v)
  | knot n b => exact absurd hplain Value.not_plain_knot
  | again n => exact absurd hplain Value.not_plain_again
  | sequence xs ih =>
    unfold Left
    rw [visit, Value.nesting]
    by_cases hzero : budget = 0
    · rw [if_pos hzero]
      exact .inr ⟨rfl, by omega⟩
    · have hparts : ∀ x ∈ xs, Left root (budget - 1) x := fun x hx =>
        ih x hx (Value.plain_sequence.mp hplain x hx) (h.of_meets (meets_sequence hx))
      rw [if_neg hzero]
      rcases visitItems_of_left hparts with hok | ⟨herror, hdeep⟩
      · left
        rw [hok]
        rfl
      · right
        rw [herror]
        exact ⟨rfl, by omega⟩
  | mapping es ih =>
    unfold Left
    obtain ⟨href, hparam⟩ := h _ .refl
    rcases Node.classify_mapping es with ⟨r, hclass⟩ | hclass | hclass
    · cases (Node.classify_eq_reference_iff.mp hclass).symm.trans href
    · rw [visit_mapping, hclass]
      simp only [replaceParameter, (hparam hclass).2, Fault.lift, bind, Except.bind, copied]
      split
      · exact .inr ⟨rfl, by omega⟩
      · exact .inl rfl
    · rw [visit_mapping, hclass, Value.nesting]
      simp only
      by_cases hzero : budget = 0
      · rw [if_pos hzero]
        exact .inr ⟨rfl, by omega⟩
      · have hparts : ∀ e ∈ es, Left root (budget - 1) e.2 := fun e he =>
          ih e he (Value.plain_mapping.mp hplain e he)
            (h.of_meets (.single ⟨.inl hclass, List.mem_map_of_mem he⟩))
        rw [if_neg hzero]
        rcases visitEntries_of_left hparts with hok | ⟨herror, hdeep⟩
        · left
          rw [hok]
          rfl
        · right
          rw [herror]
          exact ⟨rfl, by omega⟩

end Document

/-! ### What a replacement counts as -/

namespace Value

/-- The other value is no text where the value is none, and counts as missing where it does. -/
def Resembles (v w : Value) : Prop :=
  (v.text? = none → w.text? = none) ∧ (v.isFilled = false → w.isFilled = false)

theorem Resembles.refl (v : Value) : Resembles v v := ⟨id, id⟩

theorem text?_of_isMapping {v : Value} (h : v.isMapping = true) : v.text? = none := by
  cases v with
  | scalar s => cases h
  | _ => rfl

theorem text?_of_isSequence {v : Value} (h : v.isSequence = true) : v.text? = none := by
  cases v with
  | scalar s => cases h
  | _ => rfl

/-- Tables with the same keys and related values have related values under each key. -/
theorem rel_lookup {R : Value → Value → Prop} {es fs : List (Scalar × Value)}
    (h : List.Forall₂ (fun e f => e.1 = f.1 ∧ R e.2 f.2) es fs) (k : Scalar) :
    Option.Rel R (es.lookup k) (fs.lookup k) := by
  induction h with
  | nil => exact .none
  | @cons e f es fs hef _ ih =>
    rw [List.lookup_cons, List.lookup_cons, ← hef.1]
    cases hk : k == e.1 with
    | true => exact .some hef.2
    | false => exact ih

variable {es fs : List (Scalar × Value)}

theorem rel_field {R : Value → Value → Prop} (hnull : R null null)
    (h : List.Forall₂ (fun e f => e.1 = f.1 ∧ R e.2 f.2) es fs) (key : String) :
    R ((mapping es).field key) ((mapping fs).field key) := by
  have hrel := rel_lookup h (.text key)
  change R ((es.lookup (.text key)).getD null) ((fs.lookup (.text key)).getD null)
  generalize es.lookup (.text key) = v, fs.lookup (.text key) = w at hrel
  cases hrel with
  | none => exact hnull
  | some hvw => exact hvw

/-- A mapping whose values are replaced by values that resemble them is no reference and no
parameter if it was none before. -/
theorem classify_of_resembles (h : List.Forall₂ (fun e f => e.1 = f.1 ∧ Resembles e.2 f.2) es fs)
    (hes : Node.classify (mapping es) = .mapping) : Node.classify (mapping fs) = .mapping := by
  obtain ⟨-, href, hdef⟩ := Node.classify_eq_mapping_iff.mp hes
  have hfield := rel_field (.refl null) h
  have hempty (key : String) (hkey : ((mapping es).field key).isFilled = false) :
      ((mapping fs).field key).isFilled = false := (hfield key).2 hkey
  refine Node.classify_eq_mapping_iff.mpr ⟨rfl, ?_, ?_⟩
  · exact (hfield "$ref").1 href
  · simp only [PrimitiveParameter.isDefinition, Bool.and_eq_false_iff] at hdef ⊢
    rcases hdef with (hdef | hdef) | hdef
    · exact .inl (.inl (hempty "in" hdef))
    · exact .inl (.inr (hempty "name" hdef))
    · exact .inr (hempty "schema" hdef)

end Value

/-! ### What the walk gives -/

namespace Document

variable {root v w : Value} {budget : Nat}

theorem replaceParameter_eq_ok {name : Option String} (h : replaceParameter budget v name = .ok w) :
    (∃ p, PrimitiveParameter.describe? v name = .ok (some p) ∧ w = p.node) ∨
      PrimitiveParameter.describe? v name = .ok none ∧ w = v := by
  unfold replaceParameter at h
  obtain ⟨found, hfound, h⟩ := Except.bind_eq_ok.mp h
  rw [Fault.lift_eq_ok] at hfound
  cases found with
  | some p =>
    left
    exact ⟨p, hfound, (Except.pure_eq_ok.mp h).symm⟩
  | none => exact .inr ⟨hfound, (copied_eq_ok.mp h).1⟩

theorem replaceReference_eq_ok {ref : String} (h : replaceReference root budget ref = .ok w) :
    (Reference.kind ref ≠ .parameter ∧
        w = (SchemaHandle.named (some (Reference.name ref)) (Reference.kind ref) true).node) ∨
      Reference.kind ref = .parameter ∧ ∃ t, Pointer.lookup root ref = .ok t ∧
        replaceParameter budget t (some (Reference.name ref)) = .ok w := by
  unfold replaceReference at h
  split at h
  · rename_i hkind
    obtain ⟨t, ht, h⟩ := Except.bind_eq_ok.mp h
    exact .inr ⟨hkind, t, ht, h⟩
  · rename_i hkind
    exact .inl ⟨hkind, (Except.ok.inj h).symm⟩

/-- What replaces a reference is settled and no text. -/
theorem settled_of_replaceReference {ref : String}
    (hfit : Reference.kind ref = .parameter → ∀ t, Pointer.lookup root ref = .ok t → Fits ref t)
    (h : replaceReference root budget ref = .ok w) : Settled w ∧ w.text? = none := by
  rcases replaceReference_eq_ok h with ⟨-, rfl⟩ | ⟨hkind, t, ht, hw⟩
  · exact ⟨settled_handle _ _ _, rfl⟩
  · rcases replaceParameter_eq_ok hw with ⟨p, -, rfl⟩ | ⟨hnone, rfl⟩
    · exact ⟨settled_node p, rfl⟩
    · rcases hfit hkind w ht with ⟨p, hp⟩ | ⟨hcontainer, hsettled⟩
      · cases hp.symm.trans hnone
      · exact ⟨hsettled, hcontainer.elim Value.text?_of_isMapping Value.text?_of_isSequence⟩

/-- What replaces a parameter is settled and no text. -/
theorem settled_of_replaceParameter (hv : Node.classify v = .parameter)
    (h : replaceParameter budget v none = .ok w) : Settled w ∧ w.text? = none := by
  rcases replaceParameter_eq_ok h with ⟨p, -, rfl⟩ | ⟨hnone, rfl⟩
  · exact ⟨settled_node p, rfl⟩
  · obtain ⟨href, hdef⟩ := Node.classify_eq_parameter_iff.mp hv
    refine ⟨settled_of_parts href (fun _ => ⟨hv, hnone⟩) fun he => ?_, ?_⟩
    · exact absurd (hv ▸ he) Node.not_isEntered_parameter
    · exact Value.text?_of_isMapping (PrimitiveParameter.isMapping_of_isDefinition hdef)

theorem isFilled_of_classify {es : List (Scalar × Value)} {n : Node}
    (h : Node.classify (.mapping es) = n) (hn : n ≠ .mapping) :
    (Value.mapping es).isFilled = true := by
  cases es with
  | nil => exact absurd h.symm hn
  | cons e es => rfl

/-- What is replaced counts like what replaces it. -/
theorem resembles_of_visit (hplain : v.Plain) (hfit : TargetsFit root v)
    (h : visit root budget [] none v = .ok w) : Value.Resembles v w := by
  have hreplaced {u : Value} (hfilled : v.isFilled = true) (hu : u.text? = none) :
      Value.Resembles v u := ⟨fun _ => hu, fun hno => by rw [hfilled] at hno; cases hno⟩
  cases v with
  | scalar s => exact Except.ok.inj h ▸ .refl _
  | members ks => exact Except.ok.inj h ▸ .refl _
  | pair k v =>
    rw [visit_pair] at h
    exact Except.ok.inj h ▸ .refl _
  | knot n b => exact absurd hplain Value.not_plain_knot
  | again n => exact absurd hplain Value.not_plain_again
  | sequence xs =>
    obtain ⟨ys, rfl, hys⟩ := visit_sequence_eq_ok h
    refine ⟨fun _ => rfl, fun hempty => ?_⟩
    cases xs with
    | nil => cases hys; rfl
    | cons x xs => cases hempty
  | mapping es =>
    rcases visit_mapping_eq_ok h with ⟨r, hclass, hw⟩ | ⟨hclass, hw⟩ | ⟨-, fs, rfl, hfs⟩
    · have hfilled := isFilled_of_classify hclass (by simp)
      have hr := Node.classify_eq_reference_iff.mp hclass
      exact hreplaced hfilled (settled_of_replaceReference (hfit _ .refl r hr) hw).2
    · have hfilled := isFilled_of_classify hclass (by simp)
      exact hreplaced hfilled (settled_of_replaceParameter hclass hw).2
    · refine ⟨fun _ => rfl, fun hempty => ?_⟩
      cases es with
      | nil => cases hfs; rfl
      | cons e es => cases hempty

/-- The walk gives a settled value. -/
theorem settled_of_visit {v w : Value} (hplain : v.Plain) (hfit : TargetsFit root v)
    (h : visit root budget [] none v = .ok w) : Settled w := by
  induction v generalizing budget w with
  | scalar s => exact Except.ok.inj h ▸ settled_of_scalar rfl
  | members ks => exact Except.ok.inj h ▸ settled_of_scalar rfl
  | pair k v =>
    rw [visit_pair] at h
    exact Except.ok.inj h ▸ settled_of_scalar rfl
  | knot n b => exact absurd hplain Value.not_plain_knot
  | again n => exact absurd hplain Value.not_plain_again
  | sequence xs ih =>
    obtain ⟨ys, rfl, hys⟩ := visit_sequence_eq_ok h
    refine settled_sequence fun y hy => ?_
    obtain ⟨x, hx, hxy⟩ := exists_of_forall₂ hys hy
    exact ih x hx (Value.plain_sequence.mp hplain x hx) (hfit.of_meets (meets_sequence hx)) hxy
  | mapping es ih =>
    rcases visit_mapping_eq_ok h with ⟨r, hclass, hw⟩ | ⟨hclass, hw⟩ | ⟨hclass, fs, rfl, hfs⟩
    · have hr := Node.classify_eq_reference_iff.mp hclass
      exact (settled_of_replaceReference (hfit _ .refl r hr) hw).1
    · exact (settled_of_replaceParameter hclass hw).1
    · have hentry {e : Scalar × Value} (he : e ∈ es) : e.2.Plain ∧ TargetsFit root e.2 :=
        ⟨Value.plain_mapping.mp hplain e he,
          hfit.of_meets (.single ⟨.inl hclass, List.mem_map_of_mem he⟩)⟩
      have hresembles : List.Forall₂ (fun e f => e.1 = f.1 ∧ Value.Resembles e.2 f.2) es fs :=
        forall₂_of_mem hfs fun e he f hf =>
          ⟨hf.1, resembles_of_visit (hentry he).1 (hentry he).2 hf.2⟩
      have hmapping := Value.classify_of_resembles hresembles hclass
      refine settled_of_parts (Node.classify_eq_mapping_iff.mp hmapping).2.1 (fun hp => ?_) ?_
      · cases hmapping.symm.trans hp
      · intro _ y hy
        obtain ⟨f, hf, rfl⟩ := List.mem_map.mp hy
        obtain ⟨e, he, -, hef⟩ := exists_of_forall₂ hfs hf
        exact ih e he (hentry he).1 (hentry he).2 hef

end Document

end ClientGen
