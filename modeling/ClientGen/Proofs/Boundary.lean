import ClientGen.Proofs.Grouping
import ClientGen.Proofs.Normalization.References
import ClientGen.Proofs.Resolution.Faults
import ClientGen.Source.Client

/-!
# From a JSON value to a client

A JSON value is brought into its canonical form, its references are resolved and its operations are
collected. The first and the last step fail only as foreseen, so that all faults are those of the
resolver.

## Main results

* `ClientGen.Document.normalize_ne_fault` : the canonical form of a JSON value.
* `ClientGen.Projection.exists_client` : the client of a JSON document.
* `ClientGen.Document.outcome_of_isJson` : the failures and the faults on the whole way.
-/

namespace ClientGen

variable {raw v : Value} {d : Document} {f : Fault}

open Value (isJson_text hereditary_isJson)

/-! ### The canonical form -/

namespace Document

theorem isJson_field (h : v.IsJson) (key : String) : (v.field key).IsJson :=
  hereditary_field hereditary_isJson h key

theorem isMapping_mappingOf (v : Value) : (mappingOf v).isMapping = true := by
  unfold mappingOf
  split
  · assumption
  · rfl

theorem isJson_moveReferences (h : v.IsJson) : (moveReferences v).IsJson := by
  induction h with
  | scalar h => exact .scalar h
  | sequence _ ih =>
    rw [moveReferences_sequence]
    exact .sequence (List.forall_mem_map.mpr ih)
  | @ofFields fs _ ih =>
    have hfields : moveReferences (.ofFields fs) =
        .ofFields (fs.map fun g => (g.1, movedUnder [] (.text g.1) g.2)) := by
      rw [Value.ofFields, moveReferences_mapping, Value.ofFields, List.map_map, List.map_map]
      rfl
    rw [hfields]
    refine .ofFields (List.forall_mem_map.mpr fun g hg => ?_)
    rcases movedUnder_eq (.text g.1) g.2 with hmoved | ⟨r, -, hmoved⟩
    · rw [hmoved]
      exact ih g hg
    · rw [hmoved]
      exact isJson_text _

/-- A section of a JSON value can be read. -/
theorem exists_asFields?_mappingOf (h : v.IsJson) : ∃ fs, (mappingOf v).asFields? = some fs :=
  (hereditary_mappingOf hereditary_isJson h).exists_asFields? (isMapping_mappingOf v)

theorem exists_asFields?_moveReferences (h : v.IsJson) (hm : v.isMapping = true) :
    ∃ fs, (moveReferences v).asFields? = some fs :=
  (isJson_moveReferences h).exists_asFields? (by rwa [isMapping_moveReferences h.plain])

theorem exists_assemble_eq_ok {openapi : String} {info paths components : Value}
    {servers tags : List Value} (hinfo : ∃ fs, info.asFields? = some fs)
    (hservers : ∀ s ∈ servers, ∃ fs, s.asFields? = some fs)
    (hpaths : ∃ fs, paths.asFields? = some fs)
    (hcomponents : ∃ fs, components.asFields? = some fs) :
    ∃ d, assemble openapi info servers paths components tags = .ok d := by
  obtain ⟨i, hi⟩ := hinfo
  obtain ⟨ss, hss⟩ := exists_mapM_eq_some_iff.mpr hservers
  obtain ⟨ps, hps⟩ := hpaths
  obtain ⟨cs, hcs⟩ := hcomponents
  rw [assemble, hi, hss, hps, hcs]
  exact ⟨_, rfl⟩

theorem exists_legacyAddress_eq_ok (hraw : raw.IsJson) :
    ∃ address, legacyAddress raw = .ok address := by
  have hscheme : ∀ s ∈ itemsOf (raw.field "schemes"), s.IsJson := fun s hs =>
    hereditary_of_mem_itemsOf hereditary_isJson (isJson_field hraw _) hs
  have hpath : ((raw.field "basePath").orElse (.text "")).IsJson := by
    unfold Value.orElse
    split
    · exact isJson_field hraw _
    · exact isJson_text _
  unfold legacyAddress
  simp only [(isJson_field hraw "host").shown_eq_ok, hpath.shown_eq_ok]
  split
  · split
    · rename_i s ss hs
      rw [(hscheme s (hs ▸ List.mem_cons_self)).shown_eq_ok]
      exact ⟨_, rfl⟩
    · exact ⟨_, rfl⟩
  · exact ⟨_, rfl⟩

theorem normalizeLegacy_outcome (hraw : raw.IsJson) :
    (∃ d, normalizeLegacy raw = .ok d) ∨
      normalizeLegacy raw = .error (.failure .tooDeepToNormalize) := by
  obtain ⟨address, haddress⟩ := exists_legacyAddress_eq_ok hraw
  have hpaths := hereditary_mappingOf hereditary_isJson (isJson_field hraw "paths")
  have hcomponents := hereditary_legacyComponents hereditary_isJson hraw
  unfold normalizeLegacy
  rw [(isJson_field hraw "swagger").shown_eq_ok, haddress]
  simp only [Fault.lift, bind, Except.bind]
  split
  · exact .inr rfl
  · refine .inl (exists_assemble_eq_ok (exists_asFields?_mappingOf (isJson_field hraw _))
      (fun s hs => ?_) (exists_asFields?_moveReferences hpaths (isMapping_mappingOf _))
      (exists_asFields?_moveReferences hcomponents rfl))
    obtain ⟨url, -, rfl⟩ := List.mem_map.mp hs
    exact ⟨_, Value.asFields?_ofFields _⟩

theorem exists_normalizeCurrent_eq_ok (hraw : raw.IsJson) :
    ∃ d, normalizeCurrent raw = .ok d := by
  have hsection (key : String) : ∃ fs, (mappingOf (raw.field key)).asFields? = some fs :=
    exists_asFields?_mappingOf (isJson_field hraw key)
  have hservers : ∀ s ∈ (itemsOf (raw.field "servers")).filter Value.isMapping,
      ∃ fs, s.asFields? = some fs := fun s hs => by
    obtain ⟨hmem, hm⟩ := List.mem_filter.mp hs
    have hjson := hereditary_of_mem_itemsOf hereditary_isJson (isJson_field hraw _) hmem
    exact hjson.exists_asFields? hm
  have hassemble (version : String) : ∃ d, assemble version (mappingOf (raw.field "info"))
      ((itemsOf (raw.field "servers")).filter Value.isMapping) (mappingOf (raw.field "paths"))
      (mappingOf (raw.field "components")) (itemsOf (raw.field "tags")) = .ok d :=
    exists_assemble_eq_ok (hsection _) hservers (hsection _) (hsection _)
  unfold normalizeCurrent
  split
  · exact hassemble ""
  · exact hassemble ""
  · rename_i v _ hv
    have hjson : v.IsJson := hraw.of_mem_parts (Value.mem_parts_of_get? hv)
    rw [hjson.shown_eq_ok]
    exact hassemble _

/-- A JSON value has a canonical form, is no document, or is too deep. -/
theorem normalize_outcome (hraw : raw.IsJson) :
    (∃ d, normalize raw = .ok d) ∨ normalize raw = .error (.failure .notADocument) ∨
      normalize raw = .error (.failure .tooDeepToNormalize) := by
  unfold normalize
  split
  · exact .inr (.inl rfl)
  · split
    · exact (normalizeLegacy_outcome hraw).imp_right .inr
    · exact .inl (exists_normalizeCurrent_eq_ok hraw)

theorem normalize_ne_fault (hraw : raw.IsJson) : normalize raw ≠ .error (.fault f) := by
  rcases normalize_outcome hraw with ⟨d, h⟩ | h | h <;> rw [h] <;> exact nofun

theorem isJson_tree_of_normalize (hraw : raw.IsJson) (h : normalize raw = .ok d) :
    d.tree.IsJson :=
  hereditary_tree_of_normalize hereditary_isJson hraw (fun _ _ => isJson_moveReferences) h

end Document

/-! ### The client -/

namespace Endpoint

variable {e : Endpoint}

theorem isJson_filled? (he : e.operation.IsJson) {key : String} (h : e.filled? key = some v) :
    v.IsJson := by
  unfold filled? at h
  simp only at h
  split at h
  · rw [← Option.some.inj h]
    exact Document.isJson_field he key
  · cases h

theorem exists_firstTag (he : e.operation.IsJson) : ∃ s, e.firstTag = .ok s := by
  unfold firstTag
  split
  · rename_i t ts hitems
    have ht : t.IsJson := (Document.isJson_field he "tags").of_mem_parts
      (Value.parts_of_items? hitems ▸ List.mem_cons_self)
    rw [ht.shown_eq_ok]
    split <;> exact ⟨_, rfl⟩
  · exact ⟨_, rfl⟩

theorem exists_summary (he : e.operation.IsJson) : ∃ s, e.summary = .ok s := by
  unfold summary
  split
  · exact ⟨_, rfl⟩
  · rename_i v hv
    rw [(isJson_filled? he hv).shown_eq_ok]
    exact ⟨_, rfl⟩

theorem exists_responses (he : e.operation.IsJson) : ∃ r, e.responses = .ok r := by
  unfold responses
  split
  · exact ⟨_, rfl⟩
  · rename_i es hes
    obtain ⟨v, hv, hentries⟩ := Option.bind_eq_some_iff.mp hes
    have hm : v.isMapping = true := by
      rw [Value.isMapping, hentries]
      rfl
    obtain ⟨fs, rfl, -⟩ := (isJson_filled? he hv).exists_fields hm
    obtain rfl := Option.some.inj hentries
    have hread : ∀ x ∈ fs.map fun g => (Scalar.text g.1, g.2),
        ∃ y, (do return (← (Value.scalar x.1).shown, x.2) : Except Fault (String × Value)) =
          .ok y := by
      refine List.forall_mem_map.mpr fun g _ => ?_
      simp only [(isJson_text g.1).shown_eq_ok]
      exact ⟨_, rfl⟩
    obtain ⟨ys, hys⟩ := exists_mapM_eq_ok hread
    rw [hys]
    exact ⟨_, rfl⟩

theorem exists_parameters (he : e.operation.IsJson) : ∃ ps, e.parameters = .ok ps := by
  unfold parameters
  split
  · exact ⟨_, rfl⟩
  · rename_i vs hvs
    obtain ⟨v, hv, hitems⟩ := Option.bind_eq_some_iff.mp hvs
    have hread : ∀ x ∈ vs.filter Value.isMapping, ∃ q, Parameter.ofValue? x = some q := by
      intro x hx
      obtain ⟨hmem, hm⟩ := List.mem_filter.mp hx
      have hjson : x.IsJson :=
        (isJson_filled? he hv).of_mem_parts (Value.parts_of_items? hitems ▸ hmem)
      obtain ⟨fs, hfs⟩ := hjson.exists_asFields? hm
      rw [Parameter.ofValue?, if_pos hm, hfs]
      split <;> exact ⟨_, rfl⟩
    obtain ⟨qs, hqs⟩ := exists_mapM_eq_some_iff.mpr hread
    rw [hqs]
    exact ⟨_, rfl⟩

theorem exists_requestBody (he : e.operation.IsJson) : ∃ b, e.requestBody = .ok b := by
  unfold requestBody
  split
  · exact ⟨_, rfl⟩
  · rename_i v hv
    obtain ⟨hv, hm⟩ := Option.filter_eq_some_iff.mp hv
    obtain ⟨fs, hfs⟩ := (isJson_filled? he hv).exists_asFields? hm
    rw [hfs]
    exact ⟨_, rfl⟩

theorem exists_toOperation (he : e.operation.IsJson) (id : String) :
    ∃ o, e.toOperation id = .ok o := by
  obtain ⟨s, hs⟩ := exists_summary he
  obtain ⟨r, hr⟩ := exists_responses he
  obtain ⟨ps, hps⟩ := exists_parameters he
  obtain ⟨b, hb⟩ := exists_requestBody he
  rw [toOperation, hs, hr, hps, hb]
  exact ⟨_, rfl⟩

end Endpoint

namespace Projection

theorem exists_operationsOf (p : Projection) {e : Endpoint} (he : e.operation.IsJson) :
    ∃ os, p.operationsOf e = .ok os := by
  unfold operationsOf
  split
  · exact ⟨_, rfl⟩
  · rename_i id _
    split
    · exact ⟨_, rfl⟩
    · obtain ⟨o, ho⟩ := Endpoint.exists_toOperation he id
      rw [ho]
      exact ⟨_, rfl⟩

theorem exists_controllers (p : Projection) {es : List Endpoint}
    (hes : ∀ e ∈ es, e.operation.IsJson) : ∃ t, p.controllers es = .ok t := by
  refine exists_foldlM_eq_ok (fun e he t => ?_) []
  obtain ⟨tag, htag⟩ := Endpoint.exists_firstTag (hes e he)
  obtain ⟨os, hos⟩ := p.exists_operationsOf (hes e he)
  rw [controllerOf, htag, hos]
  exact ⟨_, rfl⟩

theorem exists_info (hd : d.tree.IsJson) (key : String) : ∃ s, info d key = .ok s := by
  have hinfo : (Value.ofFields d.info).IsJson :=
    (Document.meets_section (by simp [Document.sections])).holds.isJson hd
  have hvalue : ((d.info.get? key).getD .null).IsJson := by
    have hfield := Document.isJson_field hinfo key
    rwa [Value.field, Value.get?_ofFields] at hfield
  unfold info textOf
  split
  · exact ⟨_, rfl⟩
  · exact ⟨_, hvalue.shown_eq_ok⟩

theorem exists_baseUrl (hd : d.tree.IsJson) : ∃ s, baseUrl d = .ok s := by
  unfold baseUrl
  split
  · exact ⟨_, rfl⟩
  · rename_i s ss hservers
    have hserver : (Value.ofFields s).IsJson :=
      (Document.meets_section (by simp [Document.sections, hservers])).holds.isJson hd
    have hurl : (((s.get? "url").getD .null).orElse (.text "")).IsJson := by
      unfold Value.orElse
      split
      · have hfield := Document.isJson_field hserver "url"
        rwa [Value.field, Value.get?_ofFields] at hfield
      · exact isJson_text _
    exact ⟨_, hurl.shown_eq_ok⟩

/-- A JSON document has a client. -/
theorem exists_client (p : Projection) (hd : d.tree.IsJson) : ∃ c, p.client d = .ok c := by
  have hpaths : (Value.ofFields d.paths).IsJson :=
    (Document.meets_section (by simp [Document.sections])).holds.isJson hd
  have hoperations : ∀ e ∈ Endpoint.ofDocument d, e.operation.IsJson := fun e he => by
    obtain ⟨g, hg, hheld⟩ := Endpoint.exists_path_of_mem_ofDocument he
    exact hheld.isJson (Value.isJson_ofFields.mp hpaths g hg)
  obtain ⟨t, ht⟩ := p.exists_controllers hoperations
  obtain ⟨url, hurl⟩ := exists_baseUrl hd
  obtain ⟨title, htitle⟩ := exists_info hd "title"
  obtain ⟨description, hdescription⟩ := exists_info hd "description"
  obtain ⟨version, hversion⟩ := exists_info hd "version"
  rw [client, ht, hurl, htitle, hdescription, hversion]
  exact ⟨_, rfl⟩

end Projection

/-! ### The whole way -/

namespace Document

theorem clientOf_eq_error_iff {p : Projection} {q : Problem} (hd : d.tree.IsJson) :
    clientOf p d = .error q ↔ d.resolve = .error q := by
  rw [clientOf, Except.bind_eq_error, or_iff_left]
  rintro ⟨d', hd', h⟩
  obtain ⟨c, hc⟩ := p.exists_client (isJson_tree_of_resolve hd hd')
  rw [hc] at h
  cases h

/-- **From a JSON value to a client.** The way from a JSON value to its client ends in a failure
that is reported as a matter of validation or of depth, or in a fault of the resolver, or it gives a
client. -/
theorem outcome_of_isJson (p : Projection) (hraw : raw.IsJson) :
    (∀ g, (normalize raw >>= clientOf p) = .error (.failure g) → g.ConcernsDocument) ∧
      ∀ f, (normalize raw >>= clientOf p) = .error (.fault f) ↔
        ∃ d, normalize raw = .ok d ∧ Escapes d f := by
  simp only [Except.bind_eq_error]
  constructor
  · rintro g (h | ⟨d, hd, h⟩)
    · rcases normalize_outcome hraw with ⟨d, hd⟩ | hd | hd
      · cases hd.symm.trans h
      · obtain rfl := Problem.failure.inj (Except.error.inj (hd.symm.trans h))
        exact .inl rfl
      · obtain rfl := Problem.failure.inj (Except.error.inj (hd.symm.trans h))
        exact .inr rfl
    · have hjson := isJson_tree_of_normalize hraw hd
      exact concernsDocument_of_resolve hjson.plain ((clientOf_eq_error_iff hjson).mp h)
  · intro f
    constructor
    · rintro (h | ⟨d, hd, h⟩)
      · exact absurd h (normalize_ne_fault hraw)
      · have hjson := isJson_tree_of_normalize hraw hd
        exact ⟨d, hd, (resolve_eq_fault_iff hjson).mp ((clientOf_eq_error_iff hjson).mp h)⟩
    · rintro ⟨d, hd, h⟩
      have hjson := isJson_tree_of_normalize hraw hd
      exact .inr ⟨d, hd, (clientOf_eq_error_iff hjson).mpr ((resolve_eq_fault_iff hjson).mpr h)⟩

/-- A parameter of the query is a text or null. -/
def nullableQuery : Value :=
  .ofFields [("openapi", .text "3.1.0"), ("paths", .ofFields [("/a", .ofFields [("get", .ofFields
    [("operationId", .text "getA"), ("parameters", .sequence [.ofFields [("in", .text "query"),
      ("name", .text "q"), ("schema", .ofFields
        [("type", .sequence [.text "string", .text "null"])])]])])])])]

theorem isJson_nullableQuery : nullableQuery.IsJson := by simp [nullableQuery]

theorem outcome_of_isJson_nullableQuery :
    nullableQuery.IsJson ∧ ∃ d, normalize nullableQuery = .ok d ∧ Escapes d .containerAsMember :=
  ⟨isJson_nullableQuery, ((outcome_of_isJson {} isJson_nullableQuery).2 _).mp rfl⟩

/-- A document with a value for its tags and one for its paths. -/
def withTags (tags paths : Value) : Value :=
  .ofFields [("openapi", .text "3.0.0"), ("servers", .sequence []), ("tags", tags),
    ("paths", paths)]

/-- A tag refers to a server under a superscript digit. -/
def superscript : Value :=
  withTags (.sequence [.ofFields [("$ref", .text "#/servers/²/parameters")]]) (.ofFields [])

/-- The paths refer to a list among the tags. -/
def listedPaths : Value :=
  withTags (.sequence [.ofFields [("parameters", .sequence [])]])
    (.ofFields [("$ref", .text "#/tags/0/parameters")])

/-- The way from a JSON value to a client may end otherwise than in a client or a declared
failure. -/
theorem not_outcome_of_isJson :
    (nullableQuery.IsJson ∧
      (normalize nullableQuery >>= clientOf {}) = .error (.fault .containerAsMember)) ∧
    (superscript.IsJson ∧
      (normalize superscript >>= clientOf {}) = .error (.fault .malformedNumber)) ∧
    (listedPaths.IsJson ∧
      (normalize listedPaths >>= clientOf {}) = .error (.fault .shapeMismatch)) :=
  ⟨⟨isJson_nullableQuery, rfl⟩, ⟨by simp [superscript, withTags], rfl⟩,
    ⟨by simp [listedPaths, withTags], rfl⟩⟩

end Document

end ClientGen
