import ClientGen.Document.Normal
import ClientGen.Proofs.Resolution.Settled

/-!
# The walk over the sections of a document

The outermost mapping of a document and the list of its servers are always entered. Resolving a
document walks over its sections one by one and reads them back as the sections of the result.

## Main definitions

* `ClientGen.Document.sections` : the sections that are mappings, and the servers.
* `ClientGen.Document.Walked` : what the walk gives for a value below the root.
* `ClientGen.Document.Tabular` : the keys of every section are different.

## Main results

* `ClientGen.Document.resolve_eq_ok` : the sections of a resolved document.
* `ClientGen.Document.visit_tree_of_resolve` : the resolved document shows what the walk gives.
-/

namespace ClientGen.Document

variable {root v w : Value} {d d' : Document}

/-- The sections that are mappings, and the servers. -/
def sections (d : Document) : List Value :=
  .ofFields d.info :: .ofFields d.paths :: .ofFields d.components :: d.servers.map .ofFields

/-- The walk gives a value for another one. -/
def Walked (root v w : Value) : Prop :=
  ∃ budget ≤ walkLimit, visit root budget [] none v = .ok w

theorem classify_tree (d : Document) : Node.classify d.tree = .mapping :=
  Node.classify_ofFields rfl rfl

theorem meets_tree (h : v ∈ d.tree.parts) : Meets d.tree v :=
  .single ⟨.inl (classify_tree d), h⟩

theorem meets_section {s : Value} (h : s ∈ d.sections) : Meets d.tree s := by
  simp only [sections, List.mem_cons] at h
  rcases h with rfl | rfl | rfl | h
  · exact meets_tree (by simp [tree, Value.parts_ofFields])
  · exact meets_tree (by simp [tree, Value.parts_ofFields])
  · exact meets_tree (by simp [tree, Value.parts_ofFields])
  · have hservers : Meets d.tree (.sequence (d.servers.map .ofFields)) :=
      meets_tree (by simp [tree, Value.parts_ofFields])
    exact hservers.trans (meets_sequence h)

theorem walked_sequence {xs : List Value} (h : Walked root (.sequence xs) w) :
    ∃ ys, w = .sequence ys ∧ List.Forall₂ (Walked root) xs ys := by
  obtain ⟨budget, hbudget, h⟩ := h
  obtain ⟨ys, rfl, hys⟩ := visit_sequence_eq_ok h
  exact ⟨ys, rfl, hys.imp fun x y hxy => ⟨_, by omega, hxy⟩⟩

/-- A mapping that is no reference and no parameter keeps its keys. -/
theorem walked_mapping {es : List (Scalar × Value)}
    (hclass : Node.classify (.mapping es) = .mapping) (h : Walked root (.mapping es) w) :
    ∃ fs, w = .mapping fs ∧ List.Forall₂ (fun e f => e.1 = f.1 ∧ Walked root e.2 f.2) es fs := by
  obtain ⟨budget, hbudget, h⟩ := h
  rcases visit_mapping_eq_ok h with ⟨r, hother, -⟩ | ⟨hother, -⟩ | ⟨-, fs, rfl, hfs⟩
  · cases hclass.symm.trans hother
  · cases hclass.symm.trans hother
  · exact ⟨fs, rfl, hfs.imp fun e f hef => ⟨hef.1, _, by omega, hef.2⟩⟩

theorem walked_scalar {s : Scalar} (h : Walked root (.scalar s) w) : w = .scalar s := by
  obtain ⟨budget, -, h⟩ := h
  exact (Except.ok.inj h).symm

/-- A value with all fields of a document is read field by field. -/
theorem ofTree?_eq_some {o i s p c t : Value}
    (h : ofTree? (.ofFields [("openapi", o), ("info", i), ("servers", s), ("paths", p),
      ("components", c), ("tags", t)]) = some d) :
    o.asText? = some d.openapi ∧ i.asFields? = some d.info ∧
      (∃ xs, s.asList? = some xs ∧ xs.mapM Value.asFields? = some d.servers) ∧
      p.asFields? = some d.paths ∧ c.asFields? = some d.components ∧ t.asList? = some d.tags := by
  simp only [ofTree?, Value.get?_ofFields, List.lookup_cons, String.reduceBEq, beq_self_eq_true,
    Option.bind_eq_bind, Option.bind_eq_some_iff, Option.pure_def, Option.some.injEq,
    exists_eq_left'] at h
  obtain ⟨openapi, ho, info, hi, xs, hs, servers, hxs, paths, hp, components, hc, tags, ht,
    rfl⟩ := h
  exact ⟨ho, hi, ⟨xs, hs, hxs⟩, hp, hc, ht⟩

/-- A value with all fields of a document is read if all its sections can be. -/
theorem exists_ofTree?_eq_some_iff {o : String} {info paths components : Value}
    {servers tags : List Value} :
    (∃ d, ofTree? (.ofFields [("openapi", .text o), ("info", info),
      ("servers", .sequence servers), ("paths", paths), ("components", components),
      ("tags", .sequence tags)]) = some d) ↔
      ∀ s ∈ info :: paths :: components :: servers, ∃ fs, s.asFields? = some fs := by
  simp only [List.forall_mem_cons, ← exists_mapM_eq_some_iff]
  constructor
  · rintro ⟨d, hd⟩
    obtain ⟨-, hinfo, ⟨_, hlist, hservers⟩, hpaths, hcomponents, -⟩ := ofTree?_eq_some hd
    obtain rfl := Option.some.inj hlist
    exact ⟨⟨_, hinfo⟩, ⟨_, hpaths⟩, ⟨_, hcomponents⟩, ⟨_, hservers⟩⟩
  · rintro ⟨⟨i, hinfo⟩, ⟨p, hpaths⟩, ⟨c, hcomponents⟩, ⟨ss, hservers⟩⟩
    have hlist (xs : List Value) : (Value.sequence xs).asList? = some xs := rfl
    have hopenapi : (Value.text o).asText? = some o := rfl
    refine ⟨⟨o, i, ss, p, c, tags⟩, ?_⟩
    simp only [ofTree?, Value.get?_ofFields, List.lookup_cons, String.reduceBEq,
      beq_self_eq_true, hopenapi, hinfo, hlist, hservers, hpaths, hcomponents, Option.bind_eq_bind,
      Option.bind_some, Option.pure_def]

/-- The walk over a document goes over its sections one by one. -/
theorem visit_tree_eq_ok {shown : Value}
    (h : visit d.tree walkLimit [] none d.tree = .ok shown) :
    ∃ info servers paths components tags,
      shown = .ofFields
        [("openapi", .text d.openapi), ("info", info), ("servers", .sequence servers),
          ("paths", paths), ("components", components), ("tags", .sequence tags)] ∧
      Walked d.tree (.ofFields d.info) info ∧
      List.Forall₂ (Walked d.tree) (d.servers.map .ofFields) servers ∧
      Walked d.tree (.ofFields d.paths) paths ∧
      Walked d.tree (.ofFields d.components) components ∧
      List.Forall₂ (Walked d.tree) d.tags tags := by
  obtain ⟨es, rfl, hes⟩ := walked_mapping (classify_tree d) ⟨walkLimit, Nat.le_refl _, h⟩
  simp only [List.map_cons, List.map_nil, List.forall₂_cons_left_iff,
    List.forall₂_nil_left_iff] at hes
  obtain ⟨⟨_, o⟩, _, ⟨rfl, ho⟩, ⟨⟨_, info⟩, _, ⟨rfl, hinfo⟩, ⟨⟨_, s⟩, _, ⟨rfl, hs⟩, ⟨⟨_, paths⟩, _,
    ⟨rfl, hpaths⟩, ⟨⟨_, components⟩, _, ⟨rfl, hcomponents⟩, ⟨⟨_, t⟩, _, ⟨rfl, ht⟩, rfl, rfl⟩, rfl⟩,
    rfl⟩, rfl⟩, rfl⟩, rfl⟩ := hes
  obtain rfl := walked_scalar ho
  obtain ⟨servers, rfl, hservers⟩ := walked_sequence hs
  obtain ⟨tags, rfl, htags⟩ := walked_sequence ht
  exact ⟨info, servers, paths, components, tags, rfl, hinfo, hservers, hpaths, hcomponents, htags⟩

/-- The sections of a resolved document are what the walk gives for those of the document. -/
theorem resolve_eq_ok (h : d.resolve = .ok d') :
    ∃ info servers paths components,
      visit d.tree walkLimit [] none d.tree = .ok (.ofFields
        [("openapi", .text d.openapi), ("info", info), ("servers", .sequence servers),
          ("paths", paths), ("components", components), ("tags", .sequence d'.tags)]) ∧
      d'.openapi = d.openapi ∧
      (Walked d.tree (.ofFields d.info) info ∧ info.asFields? = some d'.info) ∧
      (List.Forall₂ (Walked d.tree) (d.servers.map .ofFields) servers ∧
        servers.mapM Value.asFields? = some d'.servers) ∧
      (Walked d.tree (.ofFields d.paths) paths ∧ paths.asFields? = some d'.paths) ∧
      (Walked d.tree (.ofFields d.components) components ∧
        components.asFields? = some d'.components) ∧
      List.Forall₂ (Walked d.tree) d.tags d'.tags := by
  obtain ⟨shown, hvisit, hread⟩ := Except.bind_eq_ok.mp h
  obtain ⟨info, servers, paths, components, tags, rfl, hinfo, hservers, hpaths, hcomponents,
    htags⟩ := visit_tree_eq_ok hvisit
  rw [Fault.lift_eq_ok, need_eq_ok] at hread
  obtain ⟨hopenapi, hinfo', ⟨_, hlist, hservers'⟩, hpaths', hcomponents', htags'⟩ :=
    ofTree?_eq_some hread
  obtain rfl := Option.some.inj hlist
  obtain rfl := Option.some.inj htags'
  obtain hopenapi := Option.some.inj hopenapi
  exact ⟨info, servers, paths, components, hvisit, hopenapi.symm, ⟨hinfo, hinfo'⟩,
    ⟨hservers, hservers'⟩, ⟨hpaths, hpaths'⟩, ⟨hcomponents, hcomponents'⟩, htags⟩

/-! ### Sections with different keys -/

/-- The keys of every section are different texts. -/
def Tabular (d : Document) : Prop := ∀ s ∈ d.sections, s.IsRecord

theorem isRecord_of_asFields? {fs : Fields} (h : v.asFields? = some fs) :
    (Value.ofFields fs).IsRecord :=
  Value.isRecord_ofFields (Value.nodup_keys_of_asFields? h)

/-- What is put together from sections reads each of them as a mapping with text keys. -/
theorem assemble_eq_ok {openapi : String} {info paths components : Value}
    {servers tags : List Value} (h : assemble openapi info servers paths components tags = .ok d) :
    d.openapi = openapi ∧ info.asFields? = some d.info ∧
      servers.mapM Value.asFields? = some d.servers ∧ paths.asFields? = some d.paths ∧
      components.asFields? = some d.components ∧ d.tags = tags := by
  rw [assemble, Fault.lift_eq_ok, need_eq_ok] at h
  simp only [Option.bind_eq_bind, Option.bind_eq_some_iff, Option.pure_def,
    Option.some.injEq] at h
  obtain ⟨i, hi, s, hs, p, hp, c, hc, rfl⟩ := h
  exact ⟨rfl, hi, hs, hp, hc, rfl⟩

theorem tabular_of_assemble {openapi : String} {info paths components : Value}
    {servers tags : List Value}
    (h : assemble openapi info servers paths components tags = .ok d) : d.Tabular := by
  obtain ⟨-, hinfo, hservers, hpaths, hcomponents, -⟩ := assemble_eq_ok h
  intro s hs
  simp only [sections, List.mem_cons] at hs
  rcases hs with rfl | rfl | rfl | hs
  · exact isRecord_of_asFields? hinfo
  · exact isRecord_of_asFields? hpaths
  · exact isRecord_of_asFields? hcomponents
  · obtain ⟨fs, hfs, rfl⟩ := List.mem_map.mp hs
    obtain ⟨server, -, hserver⟩ := exists_of_forall₂ (mapM_eq_some_iff.mp hservers) hfs
    exact isRecord_of_asFields? hserver

theorem normalizeCurrent_eq_ok {raw : Value} (h : normalizeCurrent raw = .ok d) :
    ∃ version, assemble version (mappingOf (raw.field "info"))
      ((itemsOf (raw.field "servers")).filter Value.isMapping) (mappingOf (raw.field "paths"))
      (mappingOf (raw.field "components")) (itemsOf (raw.field "tags")) = .ok d := by
  obtain ⟨version, -, h⟩ := Except.bind_eq_ok.mp h
  exact ⟨version, h⟩

theorem normalizeLegacy_eq_ok {raw : Value} (h : normalizeLegacy raw = .ok d) :
    ∃ version, ∃ address : Option String, assemble version (mappingOf (raw.field "info"))
      (address.toList.map fun url => .ofFields [("url", .text url)])
      (moveReferences (mappingOf (raw.field "paths"))) (moveReferences (legacyComponents raw))
      (itemsOf (raw.field "tags")) = .ok d := by
  obtain ⟨version, -, h⟩ := Except.bind_eq_ok.mp h
  obtain ⟨address, -, h⟩ := Except.bind_eq_ok.mp h
  simp only at h
  split at h
  · cases h
  · exact ⟨_, _, h⟩

/-- The field `swagger` marks a document in the older form. -/
theorem normalize_of_legacy {raw : Value} (h : (raw.get? "swagger").isSome) :
    normalize raw = normalizeLegacy raw := by
  have hmarked : isMarked raw = true := List.any_eq_true.mpr ⟨"swagger", by decide, h⟩
  rw [normalize, hmarked, if_pos h]
  rfl

/-- The field `openapi` alone marks a document in the present form. -/
theorem normalize_of_current {raw : Value} (hlegacy : raw.get? "swagger" = none)
    (h : (raw.get? "openapi").isSome) : normalize raw = normalizeCurrent raw := by
  have hmarked : isMarked raw = true := List.any_eq_true.mpr ⟨"openapi", by decide, h⟩
  rw [normalize, hmarked, hlegacy]
  rfl

theorem normalizeLegacy_of_normalize {raw : Value} (hversion : (raw.get? "swagger").isSome)
    (h : normalize raw = .ok d) : normalizeLegacy raw = .ok d := by
  rwa [normalize_of_legacy hversion] at h

/-- The sections of a document in its canonical form have different keys. -/
theorem tabular_of_normalize {raw : Value} (h : normalize raw = .ok d) : d.Tabular := by
  unfold normalize at h
  split at h
  · cases h
  · split at h
    · obtain ⟨version, address, h⟩ := normalizeLegacy_eq_ok h
      exact tabular_of_assemble h
    · obtain ⟨version, h⟩ := normalizeCurrent_eq_ok h
      exact tabular_of_assemble h

/-! ### What a document inherits -/

section Hereditary

variable {P : Value → Prop} (hP : Value.Hereditary P)

include hP

theorem hereditary_field (h : P v) (key : String) : P (v.field key) := by
  cases hw : v.get? key with
  | none =>
    rw [Value.field, hw]
    exact hP.null
  | some w =>
    rw [Value.field, hw]
    exact hP.of_mem_parts h (Value.mem_parts_of_get? hw)

theorem hereditary_mappingOf (h : P v) : P (mappingOf v) := by
  unfold mappingOf
  split
  · exact h
  · have hempty : P (.ofFields []) := hP.ofFields fun _ hf => absurd hf List.not_mem_nil
    exact hempty

theorem hereditary_legacyComponents {raw : Value} (h : P raw) : P (legacyComponents raw) := by
  refine hP.ofFields fun f hf => ?_
  obtain ⟨s, -, rfl⟩ := List.mem_map.mp hf
  exact hereditary_mappingOf hP (hereditary_field hP h s.1)

theorem hereditary_of_mem_itemsOf (h : P v) (hw : w ∈ itemsOf v) : P w := by
  cases hitems : v.items? with
  | none =>
    rw [itemsOf, hitems] at hw
    cases hw
  | some xs =>
    rw [itemsOf, hitems] at hw
    exact hP.of_mem_parts h (Value.parts_of_items? hitems ▸ hw)

theorem hereditary_ofFields_of_asFields? {fs : Fields} (hv : P v) (h : v.asFields? = some fs) :
    P (.ofFields fs) :=
  hP.ofFields fun _ hf => hP.of_mem_parts hv (Value.mem_parts_of_asFields? h hf)

/-- A document has what its sections and tags have. -/
theorem hereditary_tree (hsections : ∀ s ∈ d.sections, P s) (htags : ∀ t ∈ d.tags, P t) :
    P d.tree := by
  simp only [sections, List.forall_mem_cons] at hsections
  obtain ⟨hinfo, hpaths, hcomponents, hservers⟩ := hsections
  refine hP.ofFields ?_
  simp only [List.forall_mem_cons, hP.text, hP.sequence hservers, hP.sequence htags, hinfo, hpaths,
    hcomponents, true_and]
  simp

theorem hereditary_servers {servers : List Value} {read : List Fields}
    (hservers : ∀ s ∈ servers, P s) (h : servers.mapM Value.asFields? = some read) :
    ∀ s ∈ read.map Value.ofFields, P s := by
  intro s hs
  obtain ⟨fs, hfs, rfl⟩ := List.mem_map.mp hs
  obtain ⟨server, hserver, hread⟩ := exists_of_forall₂ (mapM_eq_some_iff.mp h) hfs
  exact hereditary_ofFields_of_asFields? hP (hservers server hserver) hread

/-- A document inherits what the values have that it is put together from. -/
theorem hereditary_tree_of_assemble {openapi : String} {info paths components : Value}
    {servers tags : List Value} (hinfo : P info) (hservers : ∀ s ∈ servers, P s)
    (hpaths : P paths) (hcomponents : P components) (htags : ∀ t ∈ tags, P t)
    (h : assemble openapi info servers paths components tags = .ok d) : P d.tree := by
  obtain ⟨-, hinfo', hservers', hpaths', hcomponents', rfl⟩ := assemble_eq_ok h
  refine hereditary_tree hP (List.forall_mem_cons.mpr ⟨?_, ?_⟩) htags
  · exact hereditary_ofFields_of_asFields? hP hinfo hinfo'
  · simp only [List.forall_mem_cons]
    exact ⟨hereditary_ofFields_of_asFields? hP hpaths hpaths',
      hereditary_ofFields_of_asFields? hP hcomponents hcomponents',
      hereditary_servers hP hservers hservers'⟩

/-- A resolved document inherits what the document has, if the walk keeps it. -/
theorem hereditary_tree_of_resolve (hd : P d.tree)
    (hwalk : ∀ v w, P v → Walked d.tree v w → P w) (h : d.resolve = .ok d') : P d'.tree := by
  obtain ⟨info, servers, paths, components, -, -, ⟨hinfo, hinfo'⟩, ⟨hservers, hservers'⟩,
    ⟨hpaths, hpaths'⟩, ⟨hcomponents, hcomponents'⟩, htags⟩ := resolve_eq_ok h
  have hsection {s : Value} (hs : s ∈ d.sections) : P s := hP.of_holds hd (meets_section hs).holds
  have hwalked {s w : Value} (hs : s ∈ d.sections) (hsw : Walked d.tree s w) : P w :=
    hwalk s w (hsection hs) hsw
  refine hereditary_tree hP (List.forall_mem_cons.mpr ⟨?_, ?_⟩) fun t ht => ?_
  · exact hereditary_ofFields_of_asFields? hP (hwalked (by simp [sections]) hinfo) hinfo'
  · simp only [List.forall_mem_cons]
    refine ⟨hereditary_ofFields_of_asFields? hP (hwalked (by simp [sections]) hpaths) hpaths',
      hereditary_ofFields_of_asFields? hP (hwalked (by simp [sections]) hcomponents) hcomponents',
      hereditary_servers hP (fun w hw => ?_) hservers'⟩
    obtain ⟨s, hs, hsw⟩ := exists_of_forall₂ hservers hw
    exact hwalked (by simp [sections, hs]) hsw
  · obtain ⟨u, hu, hut⟩ := exists_of_forall₂ htags ht
    have htagged : P (.sequence d.tags) :=
      hP.of_mem_parts hd (by simp [tree, Value.parts_ofFields])
    exact hwalk u t (hP.of_mem_parts htagged hu) hut

/-- The canonical form inherits what the document has, if moving references keeps it. -/
theorem hereditary_tree_of_normalize {raw : Value} (hraw : P raw)
    (hmove : (raw.get? "swagger").isSome → ∀ v, P v → P (moveReferences v))
    (h : normalize raw = .ok d) : P d.tree := by
  have hsection (key : String) : P (mappingOf (raw.field key)) :=
    hereditary_mappingOf hP (hereditary_field hP hraw key)
  have hitems (key : String) : ∀ x ∈ itemsOf (raw.field key), P x :=
    fun x hx => hereditary_of_mem_itemsOf hP (hereditary_field hP hraw key) hx
  unfold normalize at h
  split at h
  · cases h
  · split at h
    · rename_i hversion
      obtain ⟨version, address, h⟩ := normalizeLegacy_eq_ok h
      have hcomponents : P (legacyComponents raw) := hereditary_legacyComponents hP hraw
      refine hereditary_tree_of_assemble hP (hsection _) (fun s hs => ?_)
        (hmove hversion _ (hsection _)) (hmove hversion _ hcomponents) (hitems _) h
      obtain ⟨url, -, rfl⟩ := List.mem_map.mp hs
      refine hP.ofFields fun f hf => ?_
      rw [List.mem_singleton.mp hf]
      exact hP.text _
    · obtain ⟨version, h⟩ := normalizeCurrent_eq_ok h
      exact hereditary_tree_of_assemble hP (hsection _)
        (fun s hs => hitems _ s (List.mem_filter.mp hs).1) (hsection _) (hsection _) (hitems _) h

end Hereditary

theorem plain_tree_of_normalize {raw : Value} (hraw : raw.Plain)
    (hversion : raw.get? "swagger" = none) (h : normalize raw = .ok d) : d.tree.Plain := by
  refine hereditary_tree_of_normalize Value.hereditary_plain hraw (fun hsome => ?_) h
  rw [hversion] at hsome
  cases hsome

/-! ### Resolved sections -/

theorem isRecord_handle (name : Option String) (kind : ReferenceKind) (isReference : Bool) :
    (SchemaHandle.named name kind isReference).node.IsRecord := by
  cases name <;> exact Value.isRecord_ofFields (by simp [SchemaHandle.shownFields, Table.keys])

theorem isRecord_node (p : PrimitiveParameter) : p.node.IsRecord :=
  Value.isRecord_ofFields (by simp [Table.keys])

/-- Entries with the keys of fields are fields themselves. -/
theorem exists_fields :
    {fs : Fields} → {es : List (Scalar × Value)} →
      List.Forall₂ (fun e f => e.1 = f.1) (fs.map fun f => (.text f.1, f.2)) es →
      ∃ gs : Fields, gs.keys = fs.keys ∧ es = gs.map fun f => (.text f.1, f.2)
  | [], _, .nil => ⟨[], rfl, rfl⟩
  | f :: fs, (k, v) :: es, .cons hfe h => by
    obtain ⟨gs, hgs, rfl⟩ := exists_fields h
    cases hfe
    refine ⟨(f.1, v) :: gs, ?_, rfl⟩
    rw [Table.keys, List.map_cons, ← Table.keys, hgs]
    rfl

theorem map_ofFields_of_mapM {fss : List Fields} :
    {vs : List Value} → (∀ v ∈ vs, v.IsRecord) → vs.mapM Value.asFields? = some fss →
      fss.map Value.ofFields = vs := by
  intro vs hvs h
  rw [mapM_eq_some_iff] at h
  induction h with
  | nil => rfl
  | cons hv _ ih =>
    obtain ⟨hhead, htail⟩ := List.forall_mem_cons.mp hvs
    rw [List.map_cons, Value.ofFields_of_asFields? hhead hv, ih htail]

/-- A section is resolved to a record, unless it refers to a parameter that is not primitive and is
no record. -/
theorem isRecord_of_walked {s : Value} (hs : s.IsRecord)
    (htarget : ∀ r t, s.reference? = some r → Reference.kind r = .parameter →
      Pointer.lookup root r = .ok t →
      PrimitiveParameter.describe? t (some (Reference.name r)) = .ok none → t.IsRecord)
    (h : Walked root s w) : w.IsRecord := by
  obtain ⟨fs, hnodup, rfl⟩ := hs
  obtain ⟨budget, -, h⟩ := h
  rcases visit_mapping_eq_ok h with ⟨r, hclass, hw⟩ | ⟨-, hw⟩ | ⟨-, es, rfl, hes⟩
  · rcases replaceReference_eq_ok hw with ⟨-, rfl⟩ | ⟨hkind, t, ht, hw⟩
    · exact isRecord_handle _ _ _
    · rcases replaceParameter_eq_ok hw with ⟨p, -, rfl⟩ | ⟨hnone, rfl⟩
      · exact isRecord_node p
      · exact htarget r w (Node.classify_eq_reference_iff.mp hclass) hkind ht hnone
  · rcases replaceParameter_eq_ok hw with ⟨p, -, rfl⟩ | ⟨-, rfl⟩
    · exact isRecord_node p
    · exact Value.isRecord_ofFields hnodup
  · obtain ⟨gs, hgs, rfl⟩ := exists_fields (hes.imp fun _ _ hef => hef.1)
    exact Value.isRecord_ofFields (hgs ▸ hnodup)

/-- The resolved document shows what the walk gives, if its sections are resolved to records. -/
theorem visit_tree_of_resolve (h : d.resolve = .ok d')
    (hrecord : ∀ s ∈ d.sections, ∀ w, Walked d.tree s w → w.IsRecord) :
    visit d.tree walkLimit [] none d.tree = .ok d'.tree := by
  obtain ⟨info, servers, paths, components, hvisit, hopenapi, ⟨hinfo, hinfo'⟩,
    ⟨hservers, hservers'⟩, ⟨hpaths, hpaths'⟩, ⟨hcomponents, hcomponents'⟩, -⟩ := resolve_eq_ok h
  have hmem (w : Value) (hw : w ∈ servers) : w.IsRecord := by
    obtain ⟨s, hs, hsw⟩ := exists_of_forall₂ hservers hw
    exact hrecord s (by simp [sections, hs]) w hsw
  rw [hvisit, tree, hopenapi, map_ofFields_of_mapM hmem hservers',
    Value.ofFields_of_asFields? (hrecord _ (by simp [sections]) _ hinfo) hinfo',
    Value.ofFields_of_asFields? (hrecord _ (by simp [sections]) _ hpaths) hpaths',
    Value.ofFields_of_asFields? (hrecord _ (by simp [sections]) _ hcomponents) hcomponents']

end ClientGen.Document
