import ClientGen.Proofs.Resolution.Idempotence

/-!
# References below the schemas

A schema is walked like everything else. A mapping of properties with the names `in`, `name` and
`schema` counts as a parameter, and is put in place as it is. In a document that does not refer to
parameters this, and pairs, are the only way for a reference to be left below the schemas.

## Main definitions

* `ClientGen.Value.HoldsReference` : a reference stands somewhere in the value.
* `ClientGen.Document.Keeps` : a reference stands in something that the walk keeps.
* `ClientGen.Document.schemas` : the schemas of a document.

## Main results

* `ClientGen.Document.holdsReference_iff_keeps` : the references that the walk leaves.
* `ClientGen.Document.holdsReference_schemas_iff` : the references left below the schemas.
-/

namespace ClientGen

open Relation

namespace Value

variable {v w : Value}

/-- A reference stands somewhere in the value. -/
def HoldsReference (v : Value) : Prop := ∃ w, v.Holds w ∧ w.reference? ≠ none

/-- A reference stands in a value if the value is one, or if it stands in a part. -/
theorem holdsReference_iff :
    v.HoldsReference ↔ v.reference? ≠ none ∨ ∃ w ∈ v.parts, w.HoldsReference := by
  constructor
  · rintro ⟨w, hw, href⟩
    rcases hw.cases_head with rfl | ⟨u, hu, huw⟩
    · exact .inl href
    · exact .inr ⟨u, hu, w, huw, href⟩
  · rintro (href | ⟨u, hu, w, huw, href⟩)
    · exact ⟨v, .refl, href⟩
    · exact ⟨w, .head hu huw, href⟩

theorem holdsReference_sequence_iff {xs : List Value} :
    (sequence xs).HoldsReference ↔ ∃ x ∈ xs, x.HoldsReference := by
  have hnone : (sequence xs).reference? = none := reference?_of_isMapping_eq_false rfl
  rw [holdsReference_iff, hnone, parts_sequence]
  simp

theorem holdsReference_mapping_iff {es : List (Scalar × Value)}
    (h : (mapping es).reference? = none) :
    (mapping es).HoldsReference ↔ ∃ e ∈ es, e.2.HoldsReference := by
  rw [holdsReference_iff, h, parts_mapping]
  simp only [ne_eq, not_true_eq_false, false_or, List.mem_map, exists_exists_and_eq_and]

theorem not_holdsReference_scalar (s : Scalar) : ¬ (scalar s).HoldsReference := by
  rw [holdsReference_iff]
  rintro (href | ⟨w, hw, -⟩)
  · exact href (reference?_of_isMapping_eq_false rfl)
  · cases hw

theorem not_holdsReference_members (ks : List Scalar) : ¬ (members ks).HoldsReference := by
  rw [holdsReference_iff]
  rintro (href | ⟨w, hw, -⟩)
  · exact href (reference?_of_isMapping_eq_false rfl)
  · cases hw

/-- No reference stands in a mapping without one that holds nothing but scalars. -/
theorem not_holdsReference_ofFields {fs : Fields} (href : fs.lookup "$ref" = none)
    (hscalar : ∀ f ∈ fs, ∃ s, f.2 = scalar s) : ¬ (ofFields fs).HoldsReference := by
  have hnone : (ofFields fs).reference? = none := by
    rw [reference?, field, get?_ofFields, href]
    rfl
  rw [holdsReference_iff, hnone, parts_ofFields]
  rintro (hno | ⟨w, hw, hheld⟩)
  · exact hno rfl
  · obtain ⟨f, hf, rfl⟩ := List.mem_map.mp hw
    obtain ⟨s, hs⟩ := hscalar f hf
    exact not_holdsReference_scalar s (hs ▸ hheld)

end Value

namespace Document

variable {root v w : Value} {budget : Nat} {d d' : Document}

theorem not_holdsReference_handle (name : Option String) (kind : ReferenceKind)
    (isReference : Bool) : ¬ (SchemaHandle.named name kind isReference).node.HoldsReference := by
  cases name <;>
    exact Value.not_holdsReference_ofFields rfl (by simp [SchemaHandle.shownFields])

theorem not_holdsReference_node (p : PrimitiveParameter) : ¬ p.node.HoldsReference := by
  have hscalar (s : Option String) : ∃ t, PrimitiveParameter.optionalText s = .scalar t := by
    cases s <;> exact ⟨_, rfl⟩
  exact Value.not_holdsReference_ofFields rfl (by simp [hscalar])

/-! ### References that are left -/

/-- The walk meets something in the value that it keeps, and a reference stands there. -/
def Keeps (v : Value) : Prop := ∃ w, Meets v w ∧ IsKept w ∧ w.HoldsReference

/-- The walk keeps a reference in a value if it keeps the value, or if it goes on to a part in
which it keeps one. -/
theorem keeps_iff : Keeps v ↔ IsKept v ∧ v.HoldsReference ∨
    (Node.classify v).IsEntered ∧ ∃ w ∈ v.parts, Keeps w := by
  constructor
  · rintro ⟨w, hw, hkept⟩
    rcases hw.cases_head with rfl | ⟨u, ⟨hentered, hu⟩, huw⟩
    · exact .inl hkept
    · exact .inr ⟨hentered, u, hu, w, huw, hkept⟩
  · rintro (hkept | ⟨hentered, u, hu, w, huw, hkept⟩)
    · exact ⟨v, .refl, hkept⟩
    · exact ⟨w, .head ⟨hentered, hu⟩ huw, hkept⟩

theorem not_isKept_of_isEntered (h : (Node.classify v).IsEntered) : ¬ IsKept v := by
  rintro (⟨hparameter, -⟩ | ⟨k, w, hpair⟩)
  · exact Node.not_isEntered_parameter (hparameter ▸ h)
  · have hscalar : Node.classify v = .scalar := by
      refine Node.classify_of_scalar ?_ ?_
      · rw [Value.isSequence, Value.items?, hpair]
        rfl
      · rw [Value.isMapping, Value.entries?, hpair]
        rfl
    exact Node.not_isEntered_scalar (hscalar ▸ h)

theorem keeps_iff_of_isEntered (h : (Node.classify v).IsEntered) :
    Keeps v ↔ ∃ w ∈ v.parts, Keeps w := by
  rw [keeps_iff]
  simp only [not_isKept_of_isEntered h, false_and, false_or, h, true_and]

theorem keeps_iff_of_not_isEntered {n : Node} (hv : Node.classify v = n) (hn : ¬ n.IsEntered) :
    Keeps v ↔ IsKept v ∧ v.HoldsReference := by
  rw [keeps_iff, hv]
  simp only [hn, false_and, or_false]

theorem exists_iff_of_forall₂ {α β : Type} {R : α → β → Prop} {P : α → Prop} {Q : β → Prop}
    {xs : List α} {ys : List β} (h : List.Forall₂ R xs ys)
    (hiff : ∀ x ∈ xs, ∀ y, R x y → (Q y ↔ P x)) : (∃ y ∈ ys, Q y) ↔ ∃ x ∈ xs, P x := by
  induction h with
  | nil => simp
  | cons hxy _ ih =>
    rw [List.exists_mem_cons_iff, List.exists_mem_cons_iff, hiff _ List.mem_cons_self _ hxy,
      ih fun x hx => hiff x (List.mem_cons_of_mem _ hx)]

/-- Where no reference to a parameter is met, the references that the walk leaves are those in what
it keeps. -/
theorem holdsReference_iff_keeps {v w : Value} (hplain : v.Plain)
    (hkind : ∀ u, Meets v u → ∀ r, u.reference? = some r → Reference.kind r ≠ .parameter)
    (h : visit root budget [] none v = .ok w) : w.HoldsReference ↔ Keeps v := by
  induction v generalizing budget w with
  | knot n b => exact absurd hplain Value.not_plain_knot
  | again n => exact absurd hplain Value.not_plain_again
  | scalar s =>
    obtain rfl := Except.ok.inj h
    rw [keeps_iff_of_not_isEntered (v := .scalar s) rfl Node.not_isEntered_scalar]
    simp only [Value.not_holdsReference_scalar, and_false]
  | members ks =>
    obtain rfl := Except.ok.inj h
    rw [keeps_iff_of_not_isEntered (v := .members ks) rfl Node.not_isEntered_scalar]
    simp only [Value.not_holdsReference_members, and_false]
  | pair k v =>
    rw [visit_pair] at h
    obtain rfl := Except.ok.inj h
    have hkept : IsKept (.pair k v) := .inr ⟨k, v, rfl⟩
    rw [keeps_iff_of_not_isEntered (v := .pair k v) rfl Node.not_isEntered_scalar]
    simp only [hkept, true_and]
  | sequence xs ih =>
    obtain ⟨ys, rfl, hys⟩ := visit_sequence_eq_ok h
    rw [Value.holdsReference_sequence_iff, keeps_iff_of_isEntered (.inr rfl), Value.parts_sequence]
    refine exists_iff_of_forall₂ hys fun x hx y hxy => ?_
    have hx' : Meets (.sequence xs) x := meets_sequence hx
    exact ih x hx (Value.plain_sequence.mp hplain x hx) (fun u hu => hkind u (hx'.trans hu)) hxy
  | mapping es ih =>
    rcases visit_mapping_eq_ok h with ⟨r, hclass, hw⟩ | ⟨hclass, hw⟩ | ⟨hclass, fs, rfl, hfs⟩
    · have hr := Node.classify_eq_reference_iff.mp hclass
      have hkept : ¬ IsKept (.mapping es) := by
        rintro (⟨hparameter, -⟩ | ⟨k, w, hpair⟩)
        · cases hclass.symm.trans hparameter
        · cases hpair
      rw [keeps_iff_of_not_isEntered hclass (Node.not_isEntered_reference r)]
      rcases replaceReference_eq_ok hw with ⟨-, rfl⟩ | ⟨hparameter, -⟩
      · simp only [not_holdsReference_handle, hkept, false_and]
      · exact absurd hparameter (hkind _ .refl r hr)
    · rw [keeps_iff_of_not_isEntered hclass Node.not_isEntered_parameter]
      rcases replaceParameter_eq_ok hw with ⟨p, hp, rfl⟩ | ⟨hnone, rfl⟩
      · have hkept : ¬ IsKept (.mapping es) := by
          rintro (⟨-, hrejected⟩ | ⟨k, w, hpair⟩)
          · cases hp.symm.trans hrejected
          · cases hpair
        simp only [not_holdsReference_node, hkept, false_and]
      · have hkept : IsKept (.mapping es) := .inl ⟨hclass, hnone⟩
        simp only [hkept, true_and]
    · have hentry {e : Scalar × Value} (he : e ∈ es) : Meets (.mapping es) e.2 :=
        .single ⟨.inl hclass, List.mem_map_of_mem he⟩
      have hmapping : Node.classify (.mapping fs) = .mapping := by
        refine Value.classify_of_resembles (forall₂_of_mem hfs fun e he f hf => ?_) hclass
        have hfit : TargetsFit root e.2 := fun u hu r hr hparameter =>
          absurd hparameter (hkind u ((hentry he).trans hu) r hr)
        exact ⟨hf.1, resembles_of_visit (Value.plain_mapping.mp hplain e he) hfit hf.2⟩
      rw [Value.holdsReference_mapping_iff (Node.classify_eq_mapping_iff.mp hmapping).2.1,
        keeps_iff_of_isEntered (.inl hclass), Value.parts_mapping]
      simp only [List.mem_map, exists_exists_and_eq_and]
      refine exists_iff_of_forall₂ hfs fun e he f hef => ?_
      exact ih e he (Value.plain_mapping.mp hplain e he)
        (fun u hu => hkind u ((hentry he).trans hu)) hef.2

/-! ### The schemas of a document -/

/-- The schemas below the components. -/
def schemas (d : Document) : Value := (Value.ofFields d.components).field "schemas"

theorem meets_field {es : List (Scalar × Value)} (h : Node.classify (.mapping es) = .mapping)
    (key : String) : (Value.mapping es).field key = .null ∨
      Meets (.mapping es) ((Value.mapping es).field key) := by
  cases hw : (Value.mapping es).get? key with
  | none =>
    left
    rw [Value.field, hw]
    rfl
  | some w =>
    right
    rw [Value.field, hw]
    exact .single ⟨.inl h, Value.mem_parts_of_get? hw⟩

/-- **References below the schemas.** In a resolved document that did not refer to parameters, a
reference is left below the schemas exactly if one stood there in something that the walk keeps, or
if the components as a whole look like a parameter that is not primitive. -/
theorem holdsReference_schemas_iff {raw : Value} (hraw : raw.Plain)
    (hversion : raw.get? "swagger" = none) (hnormal : normalize raw = .ok d)
    (hkind : ∀ w, Meets d.tree w → ∀ r, w.reference? = some r → Reference.kind r ≠ .parameter)
    (h : d.resolve = .ok d') :
    d'.schemas.HoldsReference ↔
      Node.classify (.ofFields d.components) = .mapping ∧ Keeps d.schemas ∨
        IsRejected (.ofFields d.components) ∧ d.schemas.HoldsReference := by
  have hplain : (Value.ofFields d.components).Plain :=
    (meets_section (by simp [sections])).holds.plain (plain_tree_of_normalize hraw hversion hnormal)
  have hcomponents : Meets d.tree (.ofFields d.components) := meets_section (by simp [sections])
  obtain ⟨-, -, -, components, -, -, -, -, -, ⟨⟨budget, hbudget, hvisit⟩, hread⟩, -⟩ :=
    resolve_eq_ok h
  have hrecord : components.IsRecord :=
    isRecord_of_walked (tabular_of_normalize hnormal _ (by simp [sections]))
      (fun r t hr hparameter => absurd hparameter (hkind _ hcomponents r hr))
      ⟨budget, hbudget, hvisit⟩
  rw [schemas, Value.ofFields_of_asFields? hrecord hread]
  have hnull : ¬ Value.null.HoldsReference := Value.not_holdsReference_scalar _
  rcases visit_mapping_eq_ok hvisit with ⟨r, hclass, hw⟩ | ⟨hclass, hw⟩ | ⟨hclass, -⟩
  · have hr := Node.classify_eq_reference_iff.mp hclass
    rcases replaceReference_eq_ok hw with ⟨-, rfl⟩ | ⟨hparameter, -⟩
    · have hnone : ((SchemaHandle.named (some (Reference.name r)) (Reference.kind r)
          true).node.field "schemas") = .null := rfl
      simp only [hnone, hnull, Value.ofFields, hclass, IsRejected]
      simp
    · exact absurd hparameter (hkind _ hcomponents r hr)
  · rcases replaceParameter_eq_ok hw with ⟨p, hp, rfl⟩ | ⟨hnone, rfl⟩
    · have hfield : p.node.field "schemas" = .null := rfl
      simp only [hfield, hnull, Value.ofFields, hclass, IsRejected, hp]
      simp
    · simp only [schemas, Value.ofFields, hclass, IsRejected, hnone]
      simp
  · obtain ⟨fs, rfl, hfs⟩ := walked_mapping hclass ⟨budget, hbudget, hvisit⟩
    have hwalked : Walked d.tree d.schemas ((Value.mapping fs).field "schemas") :=
      Value.rel_field ⟨0, Nat.zero_le _, rfl⟩ hfs "schemas"
    obtain ⟨budget, -, hvisit⟩ := hwalked
    have hkind' : ∀ u, Meets d.schemas u → ∀ r, u.reference? = some r →
        Reference.kind r ≠ .parameter := by
      intro u hu r hr
      rcases meets_field hclass "schemas" with hnull | hmeets
      · rw [schemas, Value.ofFields, hnull] at hu
        rcases hu.cases_head with rfl | ⟨w, ⟨-, hw⟩, -⟩
        · cases hr
        · cases hw
      · exact hkind u (hcomponents.trans (hmeets.trans hu)) r hr
    have hmapping : Node.classify (.ofFields d.components) = .mapping := hclass
    have hrejected : ¬ IsRejected (.ofFields d.components) := fun hrejected => by
      cases hclass.symm.trans hrejected.1
    have hschemas := hereditary_field Value.hereditary_plain hplain "schemas"
    rw [holdsReference_iff_keeps hschemas hkind' hvisit]
    simp only [hmapping, hrejected, true_and, false_and, or_false]
    rfl

/-- A schema has the properties `in`, `name` and `schema`, and the last one refers to a schema. -/
def searchSchemas : Value :=
  .ofFields [("A", .ofFields [("properties", .ofFields
    [("in", .ofFields [("type", .text "string")]), ("name", .ofFields [("type", .text "string")]),
      ("schema", pointerTo "#/components/schemas/B")])])]

/-- The description of an interface with `searchSchemas`. -/
def searchInterface : Value :=
  .ofFields [("openapi", .text "3.0.0"), ("components", .ofFields [("schemas", searchSchemas)])]

/-- The canonical form of `searchInterface`. -/
def searchDocument : Document where
  openapi := "3.0.0"
  components := [("schemas", searchSchemas)]

theorem holdsReference_schemas_iff_searchDocument :
    normalize searchInterface = .ok searchDocument ∧
      searchDocument.resolve = .ok searchDocument ∧
      (searchDocument.schemas.HoldsReference ↔ Keeps searchDocument.schemas) := by
  have hkind (w : Value) (hw : Meets searchDocument.tree w) (r : String)
      (hr : w.reference? = some r) : Reference.kind r ≠ .parameter := by
    cases mem_metReferences (v := searchDocument.tree) rfl hw hr
  have hnormal : normalize searchInterface = .ok searchDocument := rfl
  have hresolve : searchDocument.resolve = .ok searchDocument := rfl
  have hplain : searchInterface.Plain := rfl
  have hiff := holdsReference_schemas_iff hplain rfl hnormal hkind hresolve
  have hmapping : Node.classify (.ofFields searchDocument.components) = .mapping := rfl
  have hrejected : ¬ IsRejected (.ofFields searchDocument.components) := fun h => by cases h.1
  refine ⟨hnormal, hresolve, ?_⟩
  simpa only [hmapping, hrejected, true_and, false_and, or_false] using hiff

/-- A document that refers to schemas only, and in which a reference is left. -/
theorem holdsReference_schemas_searchDocument :
    searchInterface.Plain ∧ searchInterface.get? "swagger" = none ∧
      (∀ w, searchInterface.Holds w → ∀ r, w.reference? = some r →
        Reference.kind r ≠ .parameter) ∧
      normalize searchInterface = .ok searchDocument ∧
      searchDocument.resolve = .ok searchDocument ∧ searchDocument.schemas.HoldsReference := by
  refine ⟨rfl, rfl, fun w hw r hr => ?_, rfl, rfl, pointerTo "#/components/schemas/B", ?_, nofun⟩
  · have hall : (searchInterface.within fun _ => true).filterMap Value.reference? =
        ["#/components/schemas/B"] := rfl
    have hplain : searchInterface.Plain := rfl
    have hmem := List.mem_filterMap.mpr ⟨w, Value.mem_within_of_holds hplain hw, hr⟩
    rw [hall, List.mem_singleton] at hmem
    rw [hmem]
    decide
  · refine .head List.mem_cons_self (.head List.mem_cons_self (.single ?_))
    exact List.mem_cons_of_mem _ (List.mem_cons_of_mem _ List.mem_cons_self)

end Document

end ClientGen
