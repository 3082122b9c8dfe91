import ClientGen.Proofs.Resolution.Idempotence
import ClientGen.Proofs.TypeScript.Names

/-!
# Handles in a resolved document

The handles of schemas in a resolved document come from the references to schemas that the walk
meets, if the document has nothing that looks like a handle of its own.

## Main definitions

* `ClientGen.Document.IsWritten` : something of the document becomes a handle by itself.

## Main results

* `ClientGen.Document.exists_reference_of_visit` : where the handles of a walked value come from.
* `ClientGen.Document.keysOf_of_walked` : the walk keeps the keys of a mapping.
-/

namespace ClientGen.Document

variable {root v w x : Value} {budget : Nat} {name n : String}

open Value (Names)

/-- The value is the kind of handles of schemas, or a reference to a parameter that names it. -/
def IsKind (root v : Value) : Prop :=
  v = .text "schema" ∨ ∃ ref, v.reference? = some ref ∧ Reference.kind ref = .parameter ∧
    Pointer.lookup root ref = .ok (.text "schema")

/-- The value has the kind of a handle of its own. -/
def IsWritten (root v : Value) : Prop := IsKind root (v.field "refType")

theorem IsWritten.of_isHandleOf (h : v.IsHandleOf name) : IsWritten root v := .inl h.1

/-! ### Handles that are put in place -/

/-- A value with nothing but scalars shows a handle only itself. -/
theorem eq_of_isHandleOf {fs : Fields} (hscalar : ∀ f ∈ fs, ∃ s, f.2 = .scalar s)
    (hx : (Value.ofFields fs).Holds x) (h : x.IsHandleOf name) : x = .ofFields fs := by
  rcases hx.cases_head with rfl | ⟨u, hu, hux⟩
  · rfl
  · rw [Value.parts_ofFields] at hu
    obtain ⟨f, hf, rfl⟩ := List.mem_map.mp hu
    obtain ⟨s, hs⟩ := hscalar f hf
    rw [hs] at hux
    exact absurd ⟨x, name, hux, h, rfl⟩ (Value.not_names_scalar s)

/-- A handle that replaces a reference is that of a schema. -/
theorem isHandleOf_handle {kind : ReferenceKind}
    (hx : (SchemaHandle.named (some n) kind true).node.Holds x) (h : x.IsHandleOf name) :
    kind = .schema ∧ name = n := by
  have hself := eq_of_isHandleOf (by simp [SchemaHandle.shownFields]) hx h
  rw [hself] at h
  have hkind : Value.text kind.word = .text "schema" := h.1
  have hname : n = name := Option.some.inj h.2
  refine ⟨?_, hname.symm⟩
  cases kind with
  | schema => rfl
  | parameter | other => exact absurd hkind (by decide)

theorem not_isHandleOf_node {p : PrimitiveParameter} (hword : p.refType ≠ .schema)
    (hx : p.node.Holds x) : ¬ x.IsHandleOf name := by
  intro h
  have hscalar (s : Option String) : ∃ t, PrimitiveParameter.optionalText s = .scalar t := by
    cases s <;> exact ⟨_, rfl⟩
  have hself := eq_of_isHandleOf (by simp [hscalar]) hx h
  rw [hself] at h
  have hkind : Value.text p.refType.word = .text "schema" := h.1
  cases htype : p.refType with
  | schema => exact hword htype
  | parameter | other =>
    rw [htype] at hkind
    exact absurd hkind (by decide)

theorem refType_of_describe? {definition : Value} {modelName : Option String}
    {p : PrimitiveParameter}
    (h : PrimitiveParameter.describe? definition modelName = .ok (some p)) :
    p.refType = .parameter := by
  unfold PrimitiveParameter.describe? at h
  simp only at h
  split at h
  · cases h
  · split at h
    · cases h
    · split at h
      · split at h
        · obtain ⟨shown, -, h⟩ := Except.bind_eq_ok.mp h
          obtain rfl := Option.some.inj (Except.pure_eq_ok.mp h)
          rfl
        · cases h
      · cases h

/-! ### Handles in what the walk gives -/

/-- What replaces a parameter shows a handle only if the parameter holds one. -/
theorem holds_of_replaceParameter {modelName : Option String}
    (h : replaceParameter budget v modelName = .ok w) (hx : w.Holds x) (hname : x.IsHandleOf name) :
    v.Holds x := by
  rcases replaceParameter_eq_ok h with ⟨p, hp, rfl⟩ | ⟨-, rfl⟩
  · have hword : p.refType ≠ .schema := by simp [refType_of_describe? hp]
    exact absurd hname (not_isHandleOf_node hword hx)
  · exact hx

/-- What replaces a reference shows the handle that the reference stands for, or one that the
document holds. -/
theorem isHandleOf_of_replaceReference {ref : String} (h : replaceReference root budget ref = .ok w)
    (hx : w.Holds x) (hname : x.IsHandleOf name) :
    (Reference.kind ref = .schema ∧ name = Reference.name ref) ∨ root.Holds x := by
  rcases replaceReference_eq_ok h with ⟨-, rfl⟩ | ⟨-, t, ht, hw⟩
  · exact .inl (isHandleOf_handle hx hname)
  · exact .inr ((Pointer.holds_of_lookup ht).trans (holds_of_replaceParameter hw hx hname))

/-- The walk gives the kind of a handle only where the kind stood, or a reference to it. -/
theorem isKind_of_visit (hv : v.Plain)
    (h : visit root budget [] none v = .ok (.text "schema")) : IsKind root v := by
  cases v with
  | scalar s => exact .inl (Except.ok.inj h)
  | members ks => cases Except.ok.inj h
  | pair k v =>
    rw [visit_pair] at h
    cases Except.ok.inj h
  | knot n b => exact absurd hv Value.not_plain_knot
  | again n => exact absurd hv Value.not_plain_again
  | sequence xs =>
    obtain ⟨ys, hys, -⟩ := visit_sequence_eq_ok h
    cases hys
  | mapping es =>
    rcases visit_mapping_eq_ok h with ⟨ref, hclass, hw⟩ | ⟨hclass, hw⟩ | ⟨-, fs, hfs, -⟩
    · right
      refine ⟨ref, Node.classify_eq_reference_iff.mp hclass, ?_⟩
      rcases replaceReference_eq_ok hw with ⟨-, hhandle⟩ | ⟨hkind, t, ht, hw⟩
      · cases hhandle
      · refine ⟨hkind, ?_⟩
        rcases replaceParameter_eq_ok hw with ⟨p, -, hnode⟩ | ⟨-, rfl⟩
        · cases hnode
        · exact ht
    · rcases replaceParameter_eq_ok hw with ⟨p, -, hnode⟩ | ⟨-, hcopied⟩
      · cases hnode
      · cases hcopied
    · cases hfs

/-- A mapping that becomes a handle while it is walked had the kind of one before. -/
theorem isWritten_of_isHandleOf {es fs : List (Scalar × Value)} (hv : (Value.mapping es).Plain)
    (hfs : List.Forall₂ (fun e f => e.1 = f.1 ∧ visit root budget [] none e.2 = .ok f.2) es fs)
    (h : (Value.mapping fs).IsHandleOf name) : IsWritten root (.mapping es) := by
  have hkinds : List.Forall₂ (fun e f => e.1 = f.1 ∧ (f.2 = .text "schema" → IsKind root e.2))
      es fs := forall₂_of_mem hfs fun e he f hef =>
    ⟨hef.1, fun hf => isKind_of_visit (Value.plain_mapping.mp hv e he) (hf ▸ hef.2)⟩
  exact Value.rel_field (R := fun u y => y = .text "schema" → IsKind root u) nofun hkinds
    "refType" h.1

/-- The handles in what the walk gives come from references to schemas that the walk meets, if the
document has none of its own. -/
theorem exists_reference_of_visit (hv : v.Plain) (hheld : root.Holds v)
    (hwritten : ∀ u, root.Holds u → ¬ IsWritten root u)
    (h : visit root budget [] none v = .ok w) (hx : w.Holds x) (hname : x.IsHandleOf name) :
    ∃ u ref, Meets v u ∧ u.reference? = some ref ∧ Reference.kind ref = .schema ∧
      name = Reference.name ref := by
  -- A handle that stands in the document as it is would have been written there.
  have hown {u : Value} (hu : root.Holds u) (hux : u.Holds x) : False :=
    hwritten x (hu.trans hux) (.of_isHandleOf hname)
  induction v generalizing budget w with
  | scalar s => exact (hown hheld (Except.ok.inj h ▸ hx)).elim
  | members ks => exact (hown hheld (Except.ok.inj h ▸ hx)).elim
  | pair k v =>
    rw [visit_pair] at h
    exact (hown hheld (Except.ok.inj h ▸ hx)).elim
  | knot n b => exact absurd hv Value.not_plain_knot
  | again n => exact absurd hv Value.not_plain_again
  | sequence xs ih =>
    obtain ⟨ys, rfl, hys⟩ := visit_sequence_eq_ok h
    rcases hx.cases_head with rfl | ⟨y, hy, hyx⟩
    · cases hname.1
    · obtain ⟨z, hz, hzy⟩ := exists_of_forall₂ hys hy
      obtain ⟨u, ref, hu, href⟩ := ih z hz (Value.plain_sequence.mp hv z hz)
        (hheld.tail hz) hzy hyx
      exact ⟨u, ref, (meets_sequence hz).trans hu, href⟩
  | mapping es ih =>
    rcases visit_mapping_eq_ok h with ⟨ref, hclass, hw⟩ | ⟨-, hw⟩ | ⟨hclass, fs, rfl, hfs⟩
    · rcases isHandleOf_of_replaceReference hw hx hname with ⟨hkind, hname⟩ | hroot
      · exact ⟨_, ref, .refl, Node.classify_eq_reference_iff.mp hclass, hkind, hname⟩
      · exact (hown .refl hroot).elim
    · exact (hown hheld (holds_of_replaceParameter hw hx hname)).elim
    · rcases hx.cases_head with rfl | ⟨y, hy, hyx⟩
      · exact (hwritten _ hheld (isWritten_of_isHandleOf hv hfs hname)).elim
      · obtain ⟨f, hf, rfl⟩ := List.mem_map.mp hy
        obtain ⟨e, he, -, hef⟩ := exists_of_forall₂ hfs hf
        have hmem : e.2 ∈ (Value.mapping es).parts := List.mem_map_of_mem he
        obtain ⟨u, ref, hu, href⟩ := ih e he (Value.plain_mapping.mp hv e he) (hheld.tail hmem)
          hef hyx
        exact ⟨u, ref, .head ⟨.inl hclass, hmem⟩ hu, href⟩

/-! ### Keys -/

/-- The keys of a mapping; none for any other value. -/
def keysOf (v : Value) : List Scalar := Table.keys (v.entries?.getD [])

/-- The walk keeps the keys of what it neither replaces nor describes. -/
theorem keysOf_of_walked (hv : v.Plain) (href : v.reference? = none)
    (hdescribed : isDescribed v = false) (h : Walked root v w) : keysOf w = keysOf v := by
  obtain ⟨budget, -, h⟩ := h
  cases v with
  | scalar s | members ks => rw [Except.ok.inj h]
  | pair k v =>
    rw [visit_pair] at h
    rw [Except.ok.inj h]
  | knot n b => exact absurd hv Value.not_plain_knot
  | again n => exact absurd hv Value.not_plain_again
  | sequence xs =>
    obtain ⟨ys, rfl, -⟩ := visit_sequence_eq_ok h
    rfl
  | mapping es =>
    rcases visit_mapping_eq_ok h with ⟨ref, hclass, -⟩ | ⟨-, hw⟩ | ⟨-, fs, rfl, hfs⟩
    · cases href.symm.trans (Node.classify_eq_reference_iff.mp hclass)
    · rcases replaceParameter_eq_ok hw with ⟨p, hp, -⟩ | ⟨-, rfl⟩
      · simp [isDescribed, hp] at hdescribed
      · rfl
    · have hkeys : List.Forall₂ (· = ·) (es.map (·.1)) (fs.map (·.1)) := by
        rw [List.forall₂_map_left_iff, List.forall₂_map_right_iff]
        exact hfs.imp fun _ _ hef => hef.1
      exact (List.forall₂_eq_eq_eq ▸ hkeys).symm

end ClientGen.Document
