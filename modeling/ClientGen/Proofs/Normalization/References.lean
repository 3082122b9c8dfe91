import ClientGen.Proofs.Resolution.Sections

/-!
# Moving references

Moving the references of a value keeps its containers and their keys; only a text under `$ref` may
change. A document in the older form has the sections that move below its components, with their
references moved.

## Main definitions

* `ClientGen.Document.movedUnder` : what stands under a key after references have moved.
* `ClientGen.Document.movedComponents` : the components of a document in the older form.

## Main results

* `ClientGen.Document.get?_moveReferences`, `ClientGen.Document.items?_moveReferences` : the
  children of a plain value with its references moved.
* `ClientGen.Document.components_of_normalizeLegacy` : where the sections have moved to.
-/

namespace ClientGen.Document

variable {outer : List (Nat × Value)} {raw v : Value} {d : Document}

/-! ### Children -/

theorem moveItems_eq_map : (xs : List Value) → moveItems outer xs = xs.map (moveIn outer)
  | [] => rfl
  | x :: xs => by rw [moveItems, moveItems_eq_map xs, List.map_cons]

/-- What stands under a key after references have moved. -/
def movedUnder (outer : List (Nat × Value)) (k : Scalar) (v : Value) : Value :=
  match k, v with
  | .text "$ref", .scalar (.text r) => .text (movePointer r)
  | _, v => moveIn outer v

theorem moveEntries_cons (k : Scalar) (v : Value) (es : List (Scalar × Value)) :
    moveEntries outer ((k, v) :: es) = (k, movedUnder outer k v) :: moveEntries outer es := by
  unfold movedUnder
  split
  · rw [moveEntries]
  · rename_i hother
    rw [moveEntries]
    exact hother

theorem moveEntries_eq_map : (es : List (Scalar × Value)) →
    moveEntries outer es = es.map fun e => (e.1, movedUnder outer e.1 e.2)
  | [] => rfl
  | (k, v) :: es => by rw [moveEntries_cons, moveEntries_eq_map es, List.map_cons]

/-- Only a text may stand for something else under a key than elsewhere. -/
theorem movedUnder_eq (k : Scalar) (v : Value) :
    movedUnder outer k v = moveIn outer v ∨
      ∃ r, v = .text r ∧ movedUnder outer k v = .text (movePointer r) := by
  unfold movedUnder
  split
  · exact .inr ⟨_, rfl, rfl⟩
  · exact .inl rfl

theorem movedUnder_of_not {k : Scalar} {v : Value} (h : k ≠ .text "$ref" ∨ v.text? = none) :
    movedUnder outer k v = moveIn outer v := by
  unfold movedUnder
  split
  · rcases h with h | h
    · exact absurd rfl h
    · cases h
  · rfl

theorem moveReferences_sequence (xs : List Value) :
    moveReferences (.sequence xs) = .sequence (xs.map moveReferences) :=
  congrArg Value.sequence (moveItems_eq_map xs)

theorem moveReferences_mapping (es : List (Scalar × Value)) :
    moveReferences (.mapping es) = .mapping (es.map fun e => (e.1, movedUnder [] e.1 e.2)) :=
  congrArg Value.mapping (moveEntries_eq_map es)

theorem moveReferences_pair (k v : Value) : moveReferences (.pair k v) = .pair k v :=
  Value.close_nil _ _

theorem moveReferences_ofFields {fs : Fields} (h : ∀ f ∈ fs, f.1 ≠ "$ref") :
    moveReferences (.ofFields fs) = .ofFields (fs.map fun f => (f.1, moveReferences f.2)) := by
  rw [Value.ofFields, moveReferences_mapping, Value.ofFields, List.map_map, List.map_map]
  refine congrArg Value.mapping (List.map_congr_left fun f hf => ?_)
  have hkey : Scalar.text f.1 ≠ .text "$ref" := fun hkey => h f hf (Scalar.text.inj hkey)
  exact congrArg (Prod.mk _) (movedUnder_of_not (.inl hkey))

/-- A plain value stays plain. -/
theorem plain_moveReferences (h : v.Plain) : (moveReferences v).Plain := by
  induction v with
  | scalar s | members ks => exact h
  | knot n b => exact absurd h Value.not_plain_knot
  | again n => exact absurd h Value.not_plain_again
  | pair k v => rwa [moveReferences_pair]
  | sequence xs ih =>
    rw [moveReferences_sequence]
    refine Value.plain_sequence.mpr (List.forall_mem_map.mpr fun x hx => ?_)
    exact ih x hx (Value.plain_sequence.mp h x hx)
  | mapping es ih =>
    rw [moveReferences_mapping]
    refine Value.plain_mapping.mpr (List.forall_mem_map.mpr fun e he => ?_)
    rcases @movedUnder_eq [] e.1 e.2 with hsame | ⟨r, -, hmoved⟩
    · rw [hsame]
      exact ih e he (Value.plain_mapping.mp h e he)
    · rw [hmoved]
      exact Value.plain_scalar _

/-- The canonical form of a plain value is plain. -/
theorem plain_of_normalize (hraw : raw.Plain) (h : normalize raw = .ok d) : d.tree.Plain :=
  hereditary_tree_of_normalize Value.hereditary_plain hraw (fun _ _ => plain_moveReferences) h

theorem lookup_map_snd {f : Scalar → Value → Value} {k : Scalar} :
    (es : List (Scalar × Value)) →
      (es.map fun e => (e.1, f e.1 e.2)).lookup k = (es.lookup k).map (f k)
  | [] => rfl
  | (l, v) :: es => by
    rw [List.map_cons, List.lookup_cons, List.lookup_cons, lookup_map_snd es]
    by_cases h : k = l
    · simp [h]
    · have hkey : (k == l) = false := beq_eq_false_iff_ne.mpr h
      rw [hkey]

/-- The value under a key, with its references moved. -/
theorem get?_moveReferences (h : v.Plain) (key : String) :
    (moveReferences v).get? key = (v.get? key).map (movedUnder [] (.text key)) := by
  cases v with
  | mapping es =>
    rw [moveReferences_mapping]
    exact lookup_map_snd es
  | sequence xs => rw [moveReferences_sequence]; rfl
  | pair k v => rw [moveReferences_pair]; rfl
  | knot n b => exact absurd h Value.not_plain_knot
  | again n => exact absurd h Value.not_plain_again
  | _ => rfl

/-- The items of a list, with their references moved. -/
theorem items?_moveReferences (h : v.Plain) :
    (moveReferences v).items? = v.items?.map (List.map moveReferences) := by
  cases v with
  | sequence xs => rw [moveReferences_sequence]; rfl
  | mapping es => rw [moveReferences_mapping]; rfl
  | pair k v => rw [moveReferences_pair]; rfl
  | knot n b => exact absurd h Value.not_plain_knot
  | again n => exact absurd h Value.not_plain_again
  | _ => rfl

theorem isMapping_moveReferences (h : v.Plain) :
    (moveReferences v).isMapping = v.isMapping := by
  cases v with
  | mapping es =>
    rw [moveReferences_mapping]
    rfl
  | pair k v => rw [moveReferences_pair]
  | knot n b => exact absurd h Value.not_plain_knot
  | again n => exact absurd h Value.not_plain_again
  | _ => rfl

/-- Moving references keeps the keys of a mapping. -/
theorem exists_moveReferences_mapping {es : List (Scalar × Value)} (h : v.opened = .mapping es) :
    ∃ fs, moveReferences v = .mapping fs ∧
      List.Forall₂ (fun e f => e.1 = f.1) es fs := by
  cases v with
  | mapping es' =>
    obtain rfl := Value.mapping.inj h
    refine ⟨moveEntries [] es', rfl, ?_⟩
    rw [moveEntries_eq_map, List.forall₂_map_right_iff, List.forall₂_same]
    exact fun _ _ => rfl
  | knot n b =>
    rw [Value.opened] at h
    cases b with
    | mapping es' =>
      rw [Value.close, Value.closeEntries_eq_map] at h
      obtain rfl := Value.mapping.inj h
      refine ⟨moveEntries _ es', rfl, ?_⟩
      rw [moveEntries_eq_map, List.forall₂_map_left_iff, List.forall₂_map_right_iff,
        List.forall₂_same]
      exact fun _ _ => rfl
    | again m =>
      rw [Value.close, List.lookup_cons, List.lookup_nil] at h
      cases hm : m == n <;> simp [hm, Value.fold] at h
    | _ => cases h
  | _ => cases h

theorem isRecord_moveReferences (h : v.opened.IsRecord) : (moveReferences v).IsRecord := by
  obtain ⟨fs, hnodup, hopened⟩ := h
  obtain ⟨es, hmoved, hkeys⟩ := exists_moveReferences_mapping hopened
  obtain ⟨gs, hgs, rfl⟩ := exists_fields hkeys
  rw [hmoved]
  exact Value.isRecord_ofFields (hgs ▸ hnodup)

/-! ### Sections that move -/

/-- The sections below the components, with their references moved. -/
def movedComponents (raw : Value) : Fields :=
  legacySections.map fun s => (s.2, moveReferences (mappingOf (raw.field s.1)))

theorem keys_movedComponents (raw : Value) :
    (movedComponents raw).keys = legacySections.map (·.2) := by
  rw [movedComponents, Table.keys, List.map_map]
  rfl

theorem lookup_movedComponents (raw : Value) : ∀ s ∈ legacySections,
    (movedComponents raw).lookup s.2 = some (moveReferences (mappingOf (raw.field s.1))) := by
  simp [movedComponents, legacySections, List.lookup_cons]

theorem moveReferences_legacyComponents (raw : Value) :
    moveReferences (legacyComponents raw) = .ofFields (movedComponents raw) := by
  rw [legacyComponents, moveReferences_ofFields (by simp [legacySections]), List.map_map]
  rfl

theorem asFields?_movedComponents (raw : Value) :
    (Value.ofFields (movedComponents raw)).asFields? = some (movedComponents raw) := by
  have hnodup : (movedComponents raw).keys.Nodup := by
    rw [keys_movedComponents]
    decide
  rw [Value.asFields?_ofFields, Table.ofEntries_of_nodup hnodup]

/-- The sections of the older form stand below the components. -/
theorem components_of_normalizeLegacy (h : normalizeLegacy raw = .ok d) :
    d.components = movedComponents raw := by
  obtain ⟨version, address, hassemble⟩ := normalizeLegacy_eq_ok h
  obtain ⟨-, -, -, -, hcomponents, -⟩ := assemble_eq_ok hassemble
  rw [moveReferences_legacyComponents, asFields?_movedComponents] at hcomponents
  exact (Option.some.inj hcomponents).symm

/-- The paths of the older form are read with their references moved. -/
theorem paths_of_normalizeLegacy (h : normalizeLegacy raw = .ok d) :
    (moveReferences (mappingOf (raw.field "paths"))).asFields? = some d.paths := by
  obtain ⟨version, address, hassemble⟩ := normalizeLegacy_eq_ok h
  exact (assemble_eq_ok hassemble).2.2.2.1

end ClientGen.Document
