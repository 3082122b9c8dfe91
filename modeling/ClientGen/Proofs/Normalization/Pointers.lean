import ClientGen.Proofs.Normalization.References

/-!
# Pointers into moved sections

A pointer into a section of the older form names the same place as the moved pointer in the
canonical form. The segments after the name of the section stay as they are, and from there on both
pointers are followed in step: the references below have moved, but no pointer goes through the text
of a reference.

## Main definitions

* `ClientGen.Document.LeadsInto` : a pointer into a section that is a mapping.
* `ClientGen.Document.PathsKept` : the canonical form keeps what a pointer into the paths enters.

## Main results

* `ClientGen.Document.walk_moveReferences` : segments are followed where references have moved.
* `ClientGen.Document.lookup_movePointer` : moved pointers keep their meaning.
-/

namespace ClientGen

/-! ### Values below -/

namespace Document

variable {raw v w n : Value} {d : Document} {ref : String}

/-- What a segment leads to has its references moved, unless it is the text of one. -/
theorem enter_moveReferences {segment : List Char} (hv : v.Plain)
    (h : Pointer.enter v segment = .ok (some w)) :
    Pointer.enter (moveReferences v) segment = .ok (some (moveReferences w)) ∨
      ∃ r, w = .text r := by
  cases hitems : v.items? with
  | none =>
    have hmoved : (moveReferences v).items? = none := by rw [items?_moveReferences hv, hitems]; rfl
    rw [Pointer.enter_of_items?_eq_none hitems] at h
    rw [Pointer.enter_of_items?_eq_none hmoved, get?_moveReferences hv, Except.ok.inj h,
      Option.map_some]
    rcases @movedUnder_eq [] (.text (String.ofList segment)) w with hsame | ⟨r, hr, -⟩
    · rw [hsame]
      exact .inl rfl
    · exact .inr ⟨r, hr⟩
  | some xs =>
    left
    have hmoved : (moveReferences v).items? = some (xs.map moveReferences) := by
      rw [items?_moveReferences hv, hitems]
      rfl
    rw [Pointer.enter_of_items? hitems] at h
    obtain ⟨i?, hindex, hi⟩ := Except.map_eq_ok.mp h
    obtain ⟨i, rfl, hx⟩ := Option.bind_eq_some_iff.mp hi
    rw [Pointer.enter_of_items? hmoved, hindex, Except.map_eq_ok]
    refine ⟨some i, rfl, ?_⟩
    rw [Option.bind_some, List.getElem?_map, hx, Option.map_some]

/-- Segments that lead to a container lead to it where references have moved. -/
theorem walk_moveReferences {ref' : String} {segments : List (List Char)}
    (hn : n.isMapping = true ∨ n.isSequence = true) : ∀ {v : Value}, v.Plain →
      Pointer.walk ref v segments = .ok n →
        Pointer.walk ref' (moveReferences v) segments = .ok (moveReferences n) := by
  induction segments with
  | nil =>
    intro v _ h
    rw [Except.ok.inj h]
    rfl
  | cons s ss ih =>
    intro v hv h
    unfold Pointer.walk at h ⊢
    split at h
    · cases h
    · rename_i w hw
      rcases enter_moveReferences hv hw with hmoved | ⟨r, rfl⟩
      · rw [hmoved]
        exact ih (Value.plain_of_mem_parts hv (Pointer.mem_parts_of_enter hw)) h
      · obtain rfl := Pointer.walk_text h
        rcases hn with hn | hn <;> cases hn
    · cases h

/-! ### Sections -/

theorem legacySections_isName :
    ∀ s ∈ legacySections, Pointer.IsName s.1.toList ∧ Pointer.IsName s.2.toList := by
  decide

theorem toList_legacyStart (name : String) :
    legacyStart name = '#' :: '/' :: (name.toList ++ ['/']) := by
  simp [legacyStart]

theorem toList_canonicalStart (name : String) :
    canonicalStart name = '#' :: '/' :: ("components".toList ++ '/' :: (name.toList ++ ['/'])) := by
  simp [canonicalStart]

/-- No way to start a reference into the paths or a section starts another one. -/
theorem eq_of_legacyStart_prefix {a b : String} {cs : List Char}
    (ha : a ∈ "paths" :: legacySections.map (·.1)) (hb : b ∈ "paths" :: legacySections.map (·.1))
    (hacs : legacyStart a <+: cs) (hbcs : legacyStart b <+: cs) : a = b := by
  have hall : ∀ a ∈ "paths" :: legacySections.map (·.1),
      ∀ b ∈ "paths" :: legacySections.map (·.1), legacyStart a <+: legacyStart b → a = b := by
    decide
  rcases List.prefix_or_prefix_of_prefix hacs hbcs with hab | hba
  · exact hall a ha b hb hab
  · exact (hall b hb a ha hba).symm

/-- The pointer leads into the field of that name, which is a mapping. -/
def LeadsInto (raw : Value) (ref name : String) : Prop :=
  legacyStart name <+: ref.toList ∧ (raw.field name).isMapping = true

/-- The canonical form keeps what the pointer enters below the paths. If it names the paths
themselves, their keys are different texts; otherwise the key that it names is written in one way
only. -/
def PathsKept (raw : Value) (ref : String) : Prop :=
  match (Pointer.segments ref.toList).tail with
  | [] => (raw.field "paths").IsRecord
  | s :: _ =>
    let entries := (raw.field "paths").entries?.getD []
    ∀ e ∈ entries, ∀ f ∈ entries, e.1.asText? = some (String.ofList s) →
      f.1.asText? = some (String.ofList s) → e = f

theorem LeadsInto.exists_rest {name : String} (h : LeadsInto raw ref name) :
    ∃ rest, ref.toList = '#' :: '/' :: (name.toList ++ '/' :: rest) ∧
      raw.get? name = some (raw.field name) ∧ mappingOf (raw.field name) = raw.field name := by
  obtain ⟨⟨rest, hrest⟩, hmapping⟩ := h
  refine ⟨rest, ?_, Value.get?_of_isMapping_field hmapping, if_pos hmapping⟩
  rw [← hrest, toList_legacyStart]
  simp

theorem movePointer_eq_self (h : ∀ s ∈ legacySections, ¬ legacyStart s.1 <+: ref.toList) :
    movePointer ref = ref := by
  have hnone : legacySections.find? (fun s => (legacyStart s.1).isPrefixOf ref.toList) = none :=
    List.find?_eq_none.mpr fun s hs hprefix => h s hs (List.isPrefixOf_iff_prefix.mp hprefix)
  rw [movePointer, hnone]

theorem movePointer_of_paths (h : legacyStart "paths" <+: ref.toList) : movePointer ref = ref := by
  refine movePointer_eq_self fun s hs hprefix => ?_
  have hname := eq_of_legacyStart_prefix (List.mem_cons_of_mem _ (List.mem_map_of_mem hs))
    List.mem_cons_self hprefix h
  have hno : ∀ s ∈ legacySections, s.1 ≠ "paths" := by decide
  exact hno s hs hname

/-- A pointer into a section moves with it. -/
theorem toList_movePointer {s : String × String} (hs : s ∈ legacySections) {rest : List Char}
    (h : ref.toList = legacyStart s.1 ++ rest) :
    (movePointer ref).toList = canonicalStart s.2 ++ rest := by
  have hprefix : legacyStart s.1 <+: ref.toList := ⟨rest, h.symm⟩
  have hmem {t : String × String} (ht : t ∈ legacySections) :
      t.1 ∈ "paths" :: legacySections.map (·.1) := List.mem_cons_of_mem _ (List.mem_map_of_mem ht)
  have hsome :
      legacySections.find? (fun s => (legacyStart s.1).isPrefixOf ref.toList) = some s := by
    cases hfound : legacySections.find? (fun s => (legacyStart s.1).isPrefixOf ref.toList) with
    | none =>
      have hnot := List.find?_eq_none.mp hfound s hs
      exact absurd (List.isPrefixOf_iff_prefix.mpr hprefix) hnot
    | some t =>
      have ht := List.mem_of_find?_eq_some hfound
      have hstart : (legacyStart t.1).isPrefixOf ref.toList = true := by
        simpa using List.find?_some hfound
      have htprefix := List.isPrefixOf_iff_prefix.mp hstart
      have hname := eq_of_legacyStart_prefix (hmem ht) (hmem hs) htprefix hprefix
      have hinj : ∀ t ∈ legacySections, ∀ s ∈ legacySections, t.1 = s.1 → t = s := by decide
      rw [hinj t ht s hs hname]
  rw [movePointer, hsome, h]
  simp

/-- Fields with their references moved have the moved value under a key that is written in one way
only. -/
theorem get?_ofFields_of_moved {es : List (Scalar × Value)} {fs : Fields} {key : String} {w : Value}
    (hread : (moveReferences (.mapping es)).asFields? = some fs)
    (hget : (Value.mapping es).get? key = some w)
    (honly : ∀ e ∈ es, e.1.asText? = some key → e = (.text key, w)) :
    (Value.ofFields fs).get? key = some (movedUnder [] (.text key) w) := by
  have hmem : (.text key, w) ∈ es := Value.mem_of_lookup hget
  rw [moveReferences_mapping] at hread
  rw [Value.get?_ofFields]
  refine Value.lookup_of_asFields? hread rfl (List.mem_map.mpr ⟨_, hmem, rfl⟩)
    (List.forall_mem_map.mpr fun e he htext => ?_)
  rw [honly e he htext]

/-- Below the paths the canonical form has what the paths have with their references moved. -/
theorem walk_paths {rest : List Char} {paths : Fields} (hplain : (raw.field "paths").Plain)
    (hmapping : (raw.field "paths").isMapping = true)
    (hread : (moveReferences (raw.field "paths")).asFields? = some paths)
    (href : ref.toList = '#' :: '/' :: ("paths".toList ++ '/' :: rest)) (hkept : PathsKept raw ref)
    (hn : n.isMapping = true ∨ n.isSequence = true)
    (h : Pointer.walk ref (raw.field "paths") (Pointer.following rest) = .ok n) :
    Pointer.walk ref (.ofFields paths) (Pointer.following rest) = .ok (moveReferences n) := by
  have hmoved : Pointer.walk ref (moveReferences (raw.field "paths")) (Pointer.following rest) =
      .ok (moveReferences n) := walk_moveReferences hn hplain h
  have hsegments : (Pointer.segments ref.toList).tail = Pointer.following rest := by
    rw [href, Pointer.segments_of_isName (by decide)]
    rfl
  rw [PathsKept, hsegments] at hkept
  cases hrest : Pointer.following rest with
  | nil =>
    rw [hrest] at hkept hmoved
    have hrecord : (raw.field "paths").opened.IsRecord := by
      obtain ⟨fs, hnodup, hfs⟩ := hkept
      exact ⟨fs, hnodup, by rw [hfs]; rfl⟩
    rwa [Value.ofFields_of_asFields? (isRecord_moveReferences hrecord) hread]
  | cons s ss =>
    rw [hrest] at hkept hmoved
    obtain ⟨es, hes⟩ := Option.isSome_iff_exists.mp hmapping
    have hvalue : raw.field "paths" = .mapping es :=
      (Value.opened_of_plain hplain).symm.trans (Value.entries?_eq_some.mp hes)
    -- both walks enter the same value under the first segment
    rw [hrest, hvalue] at h
    unfold Pointer.walk at h
    split at h
    · cases h
    · rename_i w hw
      have hget : (Value.mapping es).get? (String.ofList s) = some w := Except.ok.inj hw
      rw [hes] at hkept
      have hfields := get?_ofFields_of_moved (hvalue ▸ hread) hget fun e he htext =>
        hkept e he _ (Value.mem_of_lookup hget) htext rfl
      have hmovedGet : (moveReferences (raw.field "paths")).get? (String.ofList s) =
          some (movedUnder [] (.text (String.ofList s)) w) := by
        rw [get?_moveReferences hplain, hvalue, hget, Option.map_some]
      rw [← String.toList_ofList (l := s), Pointer.walk_of_get? hmovedGet] at hmoved
      rw [← String.toList_ofList (l := s), Pointer.walk_of_get? hfields]
      exact hmoved
    · cases h

/-- **Moved pointers keep their meaning.** -/
theorem lookup_movePointer (hraw : raw.Plain) (hversion : (raw.get? "swagger").isSome)
    (hnormal : normalize raw = .ok d)
    (hstart : LeadsInto raw ref "paths" ∧ PathsKept raw ref ∨
      ∃ s ∈ legacySections, LeadsInto raw ref s.1)
    (hn : n.isMapping = true ∨ n.isSequence = true) (h : Pointer.lookup raw ref = .ok n) :
    Pointer.lookup d.tree (movePointer ref) = .ok (moveReferences n) := by
  have hlegacy := normalizeLegacy_of_normalize hversion hnormal
  have hplain (key : String) : (raw.field key).Plain :=
    hereditary_field Value.hereditary_plain hraw key
  rcases hstart with ⟨hleads, hkept⟩ | ⟨s, hs, hleads⟩
  · obtain ⟨rest, href, hget, hsection⟩ := hleads.exists_rest
    have hpaths := paths_of_normalizeLegacy hlegacy
    have htree : d.tree.get? "paths" = some (.ofFields d.paths) := rfl
    rw [hsection] at hpaths
    rw [Pointer.lookup_of_get? (by decide) href hget] at h
    rw [movePointer_of_paths hleads.1, Pointer.lookup_of_get? (by decide) href htree]
    exact walk_paths (hplain "paths") hleads.2 hpaths href hkept hn h
  · obtain ⟨rest, href, hget, hsection⟩ := hleads.exists_rest
    obtain ⟨hold, hnew⟩ := legacySections_isName s hs
    have hmoved : (movePointer ref).toList =
        '#' :: '/' :: ("components".toList ++ '/' :: (s.2.toList ++ '/' :: rest)) := by
      have hold : ref.toList = legacyStart s.1 ++ rest := by rw [href, toList_legacyStart]; simp
      rw [toList_movePointer hs hold, toList_canonicalStart]
      simp
    have htree : d.tree.get? "components" = some (.ofFields d.components) := rfl
    have hcomponent : (Value.ofFields d.components).get? s.2 =
        some (moveReferences (raw.field s.1)) := by
      rw [components_of_normalizeLegacy hlegacy, Value.get?_ofFields, ← hsection]
      exact lookup_movedComponents raw s hs
    rw [Pointer.lookup_of_get? hold href hget] at h
    rw [Pointer.lookup_of_get? (by decide) hmoved htree, Pointer.following_of_isName hnew,
      Pointer.walk_of_get? hcomponent]
    exact walk_moveReferences hn (hplain s.1) h

/-- A document in the older form with a pointer into a definition whose name has a slash. -/
def slashedPets : Value :=
  .ofFields [("swagger", .text "2.0"),
    ("paths", .ofFields [("/pets", .ofFields [("get", .ofFields
      [("schema", .ofFields [("$ref", .text "#/definitions/a~1b")])])])]),
    ("definitions", .ofFields [("a/b", .ofFields
      [("allOf", .sequence [.ofFields [("$ref", .text "#/definitions/Pet")]])])])]

/-- The canonical form of `slashedPets`. -/
def slashedPetsDocument : Document where
  openapi := "3.0.0"
  paths := [("/pets", .ofFields [("get", .ofFields
    [("schema", .ofFields [("$ref", .text "#/components/schemas/a~1b")])])])]
  components := [("schemas", .ofFields [("a/b", .ofFields
      [("allOf", .sequence [.ofFields [("$ref", .text "#/components/schemas/Pet")]])])]),
    ("parameters", .ofFields []), ("responses", .ofFields []), ("securitySchemes", .ofFields [])]

theorem lookup_movePointer_slashedPets :
    normalize slashedPets = .ok slashedPetsDocument ∧
      Pointer.lookup slashedPetsDocument.tree (movePointer "#/paths/~1pets/get/schema") =
        .ok (.ofFields [("$ref", .text "#/components/schemas/a~1b")]) ∧
      Pointer.lookup slashedPetsDocument.tree (movePointer "#/definitions/a~1b/allOf/0/") =
        .ok (.ofFields [("$ref", .text "#/components/schemas/Pet")]) := by
  have hplain : slashedPets.Plain := rfl
  have hversion : (slashedPets.get? "swagger").isSome := rfl
  have hnormal : normalize slashedPets = .ok slashedPetsDocument := rfl
  have hmapping (ref : String) : (Value.ofFields [("$ref", .text ref)]).isMapping = true := rfl
  refine ⟨hnormal, ?_, ?_⟩
  · have hpaths : LeadsInto slashedPets "#/paths/~1pets/get/schema" "paths" := ⟨by decide, rfl⟩
    have hkept : PathsKept slashedPets "#/paths/~1pets/get/schema" := by
      intro e he f hf _ _
      rw [List.mem_singleton.mp he, List.mem_singleton.mp hf]
    have hstart : LeadsInto slashedPets "#/paths/~1pets/get/schema" "paths" ∧
          PathsKept slashedPets "#/paths/~1pets/get/schema" ∨
        ∃ s ∈ legacySections, LeadsInto slashedPets "#/paths/~1pets/get/schema" s.1 :=
      .inl ⟨hpaths, hkept⟩
    have hlookup : Pointer.lookup slashedPets "#/paths/~1pets/get/schema" =
        .ok (.ofFields [("$ref", .text "#/definitions/a~1b")]) := rfl
    have hmoved := lookup_movePointer hplain hversion hnormal hstart (.inl (hmapping _)) hlookup
    exact hmoved
  · have hsection : LeadsInto slashedPets "#/definitions/a~1b/allOf/0/" "definitions" :=
      ⟨by decide, rfl⟩
    have hstart : LeadsInto slashedPets "#/definitions/a~1b/allOf/0/" "paths" ∧
          PathsKept slashedPets "#/definitions/a~1b/allOf/0/" ∨
        ∃ s ∈ legacySections, LeadsInto slashedPets "#/definitions/a~1b/allOf/0/" s.1 :=
      .inr ⟨("definitions", "schemas"), by decide, hsection⟩
    have hlookup : Pointer.lookup slashedPets "#/definitions/a~1b/allOf/0/" =
        .ok (.ofFields [("$ref", .text "#/definitions/Pet")]) := rfl
    have hmoved := lookup_movePointer hplain hversion hnormal hstart (.inl (hmapping _)) hlookup
    exact hmoved

/-- The paths have the key `x`, and once more as a string of bytes. -/
def byteNamed : Value :=
  .ofFields [("swagger", .text "2.0"),
    ("paths", .mapping [(.text "x", .ofFields [("a", .ofFields [])]),
      (.bytes [120], .ofFields [("b", .ofFields [])])])]

/-- The canonical form of `byteNamed` has the value that comes last. -/
def byteNamedDocument : Document where
  openapi := "3.0.0"
  paths := [("x", .ofFields [("b", .ofFields [])])]
  components := legacySections.map fun s => (s.2, .ofFields [])

/-- The only key of the paths is a string of bytes. -/
def byteOnly : Value :=
  .ofFields [("swagger", .text "2.0"), ("paths", .mapping [(.bytes [120], .ofFields [])])]

/-- The canonical form of `byteOnly` has a text for the key. -/
def byteOnlyDocument : Document where
  openapi := "3.0.0"
  paths := [("x", .ofFields [])]
  components := legacySections.map fun s => (s.2, .ofFields [])

/-- Pointers that change their meaning, as strings of bytes among the keys of the paths become
texts. -/
theorem not_lookup_movePointer :
    (byteNamed.Plain ∧ normalize byteNamed = .ok byteNamedDocument ∧
        LeadsInto byteNamed "#/paths/x" "paths" ∧
        ∃ n, Pointer.lookup byteNamed "#/paths/x" = .ok n ∧ n.isMapping = true ∧
          Pointer.lookup byteNamedDocument.tree (movePointer "#/paths/x") ≠
            .ok (moveReferences n)) ∧
      byteOnly.Plain ∧ normalize byteOnly = .ok byteOnlyDocument ∧
        LeadsInto byteOnly "#/paths/" "paths" ∧
        ∃ n, Pointer.lookup byteOnly "#/paths/" = .ok n ∧ n.isMapping = true ∧
          Pointer.lookup byteOnlyDocument.tree (movePointer "#/paths/") ≠
            .ok (moveReferences n) := by
  have hnamed : Pointer.lookup byteNamedDocument.tree (movePointer "#/paths/x") =
      .ok (.ofFields [("b", .ofFields [])]) := rfl
  have honly : Pointer.lookup byteOnlyDocument.tree (movePointer "#/paths/") =
      .ok (.ofFields [("x", .ofFields [])]) := rfl
  refine ⟨⟨rfl, rfl, ⟨by decide, rfl⟩, .ofFields [("a", .ofFields [])], rfl, rfl, ?_⟩,
    rfl, rfl, ⟨by decide, rfl⟩, .mapping [(.bytes [120], .ofFields [])], rfl, rfl, ?_⟩
  · rw [hnamed]
    exact fun h => absurd (Except.ok.inj h) (by decide)
  · rw [honly]
    exact fun h => absurd (Except.ok.inj h) (by decide)

end Document

end ClientGen
