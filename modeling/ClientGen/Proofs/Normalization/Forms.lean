import ClientGen.Package.Basic
import ClientGen.Proofs.Normalization.Pointers
import ClientGen.Proofs.Resolution.Idempotence
import ClientGen.Source.Client

/-!
# Both forms of a document

A document in the older form says the same as one in the present form that has its sections below
the components, its references moved with them, and its host among the servers. Both have one
canonical form, and so one client and one package, unless the sections of the older form are too
deep to be moved. Bringing a document into its canonical form once more changes nothing.

## Main definitions

* `ClientGen.Document.PointerMoved`, `ClientGen.Document.Moved` : what moving references does.
* `ClientGen.Document.Served` : the server of a document in the older form.
* `ClientGen.Document.Corresponds` : a document in both forms.

## Main results

* `ClientGen.Document.moved_iff` : the moved value is the only one that fits.
* `ClientGen.Document.normalize_of_corresponds` : both forms of a document have one canonical form,
  which is its own canonical form.
-/

namespace ClientGen.Document

variable {raw current v w : Value} {d : Document}

/-! ### Moved values -/

/-- A pointer into a section of the older form becomes one into the section below the components
that takes its place. Other pointers stay. -/
inductive PointerMoved : String → String → Prop
  /-- The pointer starts with the name of a section. -/
  | section {old new : String} (h : (old, new) ∈ legacySections) (rest : String) :
      PointerMoved ("#/" ++ old ++ "/" ++ rest) ("#/components/" ++ new ++ "/" ++ rest)
  /-- The pointer does not start with the name of a section. -/
  | other {ref : String} (h : ∀ s ∈ legacySections, ¬ ("#/" ++ s.1 ++ "/").toList <+: ref.toList) :
      PointerMoved ref ref

theorem pointerMoved_iff {ref ref' : String} : PointerMoved ref ref' ↔ ref' = movePointer ref := by
  have hsection {old new : String} (h : (old, new) ∈ legacySections) (rest : String) :
      movePointer ("#/" ++ old ++ "/" ++ rest) = "#/components/" ++ new ++ "/" ++ rest := by
    have hstart : ("#/" ++ old ++ "/" ++ rest).toList = legacyStart old ++ rest.toList := by
      simp [legacyStart]
    refine String.toList_injective ?_
    rw [toList_movePointer h hstart]
    simp [canonicalStart]
  constructor
  · rintro (⟨h, rest⟩ | h)
    · exact (hsection h rest).symm
    · exact (movePointer_eq_self h).symm
  · rintro rfl
    by_cases h : ∃ s ∈ legacySections, legacyStart s.1 <+: ref.toList
    · obtain ⟨s, hs, rest, hrest⟩ := h
      have href : ref = "#/" ++ s.1 ++ "/" ++ String.ofList rest := by
        refine String.toList_injective ?_
        rw [← hrest]
        simp [legacyStart]
      rw [href, hsection hs]
      exact .section hs _
    · have hother : ∀ s ∈ legacySections, ¬ legacyStart s.1 <+: ref.toList :=
        fun s hs hprefix => h ⟨s, hs, hprefix⟩
      rw [movePointer_eq_self hother]
      exact .other hother

mutual

/-- Every text under `$ref` is moved, at any depth. The entry of an ordered list of entries stays
as it is. -/
inductive Moved : Value → Value → Prop
  /-- An undivided value. -/
  | scalar (s : Scalar) : Moved (.scalar s) (.scalar s)
  /-- A set. -/
  | members (ks : List Scalar) : Moved (.members ks) (.members ks)
  /-- An entry of an ordered list of entries. -/
  | pair (k v : Value) : Moved (.pair k v) (.pair k v)
  /-- A list. -/
  | sequence {xs ys : List Value} (h : MovedItems xs ys) : Moved (.sequence xs) (.sequence ys)
  /-- A mapping. -/
  | mapping {es fs : List (Scalar × Value)} (h : MovedEntries es fs) :
      Moved (.mapping es) (.mapping fs)

/-- `Moved` for every item. -/
inductive MovedItems : List Value → List Value → Prop
  /-- No items. -/
  | nil : MovedItems [] []
  /-- One more item. -/
  | cons {x y : Value} {xs ys : List Value} (h : Moved x y) (hxs : MovedItems xs ys) :
      MovedItems (x :: xs) (y :: ys)

/-- `Moved` for every entry, apart from texts of references. -/
inductive MovedEntries : List (Scalar × Value) → List (Scalar × Value) → Prop
  /-- No entries. -/
  | nil : MovedEntries [] []
  /-- The text of a reference before other entries. -/
  | reference {ref ref' : String} {es fs : List (Scalar × Value)} (h : PointerMoved ref ref')
      (hes : MovedEntries es fs) :
      MovedEntries ((.text "$ref", .text ref) :: es) ((.text "$ref", .text ref') :: fs)
  /-- Any other entry before other entries. -/
  | entry {k : Scalar} {x y : Value} {es fs : List (Scalar × Value)}
      (hother : k ≠ .text "$ref" ∨ x.text? = none) (h : Moved x y) (hes : MovedEntries es fs) :
      MovedEntries ((k, x) :: es) ((k, y) :: fs)

end

theorem movedItems_iff {xs : List Value}
    (h : ∀ x ∈ xs, ∀ y, Moved x y ↔ y = moveReferences x) :
    ∀ {ys : List Value}, MovedItems xs ys ↔ ys = xs.map moveReferences := by
  induction xs with
  | nil =>
    intro ys
    constructor
    · rintro ⟨⟩
      rfl
    · rintro rfl
      exact .nil
  | cons x xs ih =>
    obtain ⟨hx, hxs⟩ := List.forall_mem_cons.mp h
    intro ys
    constructor
    · rintro (_ | ⟨hy, hys⟩)
      rw [List.map_cons, (hx _).mp hy, (ih hxs).mp hys]
    · rintro rfl
      exact .cons ((hx _).mpr rfl) ((ih hxs).mpr rfl)

theorem movedEntries_iff {es : List (Scalar × Value)}
    (h : ∀ e ∈ es, ∀ y, Moved e.2 y ↔ y = moveReferences e.2) :
    ∀ {fs : List (Scalar × Value)},
      MovedEntries es fs ↔ fs = es.map fun e => (e.1, movedUnder [] e.1 e.2) := by
  induction es with
  | nil =>
    intro fs
    constructor
    · rintro ⟨⟩
      rfl
    · rintro rfl
      exact .nil
  | cons e es ih =>
    obtain ⟨he, hes⟩ := List.forall_mem_cons.mp h
    obtain ⟨k, x⟩ := e
    intro fs
    constructor
    · rintro (_ | ⟨href, hfs⟩ | ⟨hother, hy, hfs⟩)
      · rw [List.map_cons, (ih hes).mp hfs, pointerMoved_iff.mp href]
        rfl
      · rw [List.map_cons, (ih hes).mp hfs, (he _).mp hy, movedUnder_of_not hother]
        rfl
    · rintro rfl
      rw [List.map_cons]
      by_cases hreference : k = .text "$ref" ∧ ∃ ref, x = .text ref
      · obtain ⟨rfl, ref, rfl⟩ := hreference
        exact .reference (pointerMoved_iff.mpr rfl) ((ih hes).mpr rfl)
      · have hother : k ≠ .text "$ref" ∨ x.text? = none := by
          by_contra hno
          push Not at hno
          obtain ⟨ref, href⟩ := Option.ne_none_iff_exists'.mp hno.2
          exact hreference ⟨hno.1, ref, Value.eq_text_of_text? href⟩
        rw [movedUnder_of_not hother]
        exact .entry hother ((he _).mpr rfl) ((ih hes).mpr rfl)

/-- Moving references gives the only value that fits. -/
theorem moved_iff (h : v.Plain) : ∀ {w : Value}, Moved v w ↔ w = moveReferences v := by
  induction v with
  | knot n b => exact absurd h Value.not_plain_knot
  | again n => exact absurd h Value.not_plain_again
  | scalar s =>
    intro w
    constructor
    · rintro ⟨⟩
      rfl
    · rintro rfl
      exact .scalar s
  | members ks =>
    intro w
    constructor
    · rintro ⟨⟩
      rfl
    · rintro rfl
      exact .members ks
  | pair k x =>
    intro w
    rw [moveReferences_pair]
    constructor
    · rintro ⟨⟩
      rfl
    · rintro rfl
      exact .pair k x
  | sequence xs ih =>
    have hitems := @movedItems_iff xs fun x hx y => ih x hx (Value.plain_sequence.mp h x hx)
    intro w
    rw [moveReferences_sequence]
    constructor
    · rintro (_ | _ | _ | hys | _)
      rw [hitems.mp hys]
    · rintro rfl
      exact .sequence (hitems.mpr rfl)
  | mapping es ih =>
    have hentries := @movedEntries_iff es fun e he y => ih e he (Value.plain_mapping.mp h e he)
    intro w
    rw [moveReferences_mapping]
    constructor
    · rintro (_ | _ | _ | _ | hfs)
      rw [hentries.mp hfs]
    · rintro rfl
      exact .mapping (hentries.mpr rfl)

/-! ### The same document in both forms -/

/-- What the address of a document in the older form starts with: the first scheme of a list. -/
def firstScheme (raw : Value) : Value := (itemsOf (raw.field "schemes")).headD (.text "https")

/-- The servers of a document in the older form: one if there is a host, and none otherwise. -/
inductive Served (raw : Value) : List Value → Prop
  /-- There is no host. -/
  | nowhere (h : (raw.field "host").isFilled = false) : Served raw []
  /-- The address has scheme, host and base path. -/
  | host {scheme host path : String} (h : (raw.field "host").isFilled = true)
      (hscheme : (firstScheme raw).shown = .ok scheme) (hhost : (raw.field "host").shown = .ok host)
      (hpath : ((raw.field "basePath").orElse (.text "")).shown = .ok path) :
      Served raw [.ofFields [("url", .text (scheme ++ "://" ++ host ++ path))]]

theorem legacyAddress_of_served {servers : List Value} (h : Served raw servers) :
    ∃ address : Option String, legacyAddress raw = .ok address ∧
      servers = address.toList.map fun url => .ofFields [("url", .text url)] := by
  cases h with
  | nowhere h => exact ⟨none, by rw [legacyAddress, h]; rfl, rfl⟩
  | @host scheme host path h hscheme hhost hpath =>
    refine ⟨some (scheme ++ "://" ++ host ++ path), ?_, rfl⟩
    rw [firstScheme] at hscheme
    rw [legacyAddress, h, if_pos rfl]
    cases hitems : itemsOf (raw.field "schemes") with
    | nil =>
      rw [hitems] at hscheme
      obtain rfl : "https" = scheme := Except.ok.inj hscheme
      simp only [hhost, hpath]
      rfl
    | cons s ss =>
      rw [hitems, List.headD_cons] at hscheme
      simp only [hscheme, hhost, hpath]
      rfl

/-- The present form of a document of version 2.0: the same title and tags, its host among the
servers, its sections below the components, and its references moved. -/
structure Corresponds (raw current : Value) : Prop where
  /-- The older form has the version 2.0. -/
  legacy : (raw.field "swagger").shown = .ok "2.0"
  /-- The present form is not marked as an older one. -/
  notLegacy : current.get? "swagger" = none
  /-- The present form has the version 3.0.0. -/
  openapi : current.get? "openapi" = some (.text "3.0.0")
  /-- Both say the same of themselves. -/
  info : current.field "info" = raw.field "info"
  /-- Both have the same tags. -/
  tags : current.field "tags" = raw.field "tags"
  /-- The servers. -/
  servers : ∃ servers, Served raw servers ∧ current.field "servers" = .sequence servers
  /-- The paths have their references moved. -/
  paths : Moved (raw.field "paths") (current.field "paths")
  /-- The components are the sections with their references moved. -/
  components : Moved (legacyComponents raw) (current.field "components")

/-- The paths or the sections that move are too deep to be moved. -/
def TooDeepToMove (raw : Value) : Prop :=
  moveLimit < max (mappingOf (raw.field "paths")).nesting (legacyComponents raw).nesting

instance (raw : Value) : Decidable (TooDeepToMove raw) := inferInstanceAs (Decidable (_ < _))

theorem isSome_get?_swagger (h : (raw.field "swagger").shown = .ok "2.0") :
    (raw.get? "swagger").isSome := by
  cases hget : raw.get? "swagger" with
  | some v => rfl
  | none =>
    rw [Value.field, hget] at h
    exact absurd (Except.ok.inj h) (by decide)

theorem mappingOf_moveReferences (h : v.Plain) :
    mappingOf (moveReferences v) = moveReferences (mappingOf v) := by
  unfold mappingOf
  rw [isMapping_moveReferences h]
  split
  · rfl
  · rfl

theorem filter_isMapping_of_served {servers : List Value} (h : Served raw servers) :
    servers.filter Value.isMapping = servers := by
  cases h with
  | nowhere h => rfl
  | host h hscheme hhost hpath => rfl

/-- The present form of a document is put together from the same sections as the older form. -/
theorem normalize_eq_of_corresponds (hraw : raw.Plain) (h : Corresponds raw current)
    (hdeep : ¬ TooDeepToMove raw) : normalize raw = normalize current := by
  obtain ⟨servers, hserved, hservers⟩ := h.servers
  obtain ⟨address, haddress, hurl⟩ := legacyAddress_of_served hserved
  have hplain := hereditary_field Value.hereditary_plain hraw "paths"
  have hsections := hereditary_legacyComponents Value.hereditary_plain hraw
  have hpaths : mappingOf (current.field "paths") =
      moveReferences (mappingOf (raw.field "paths")) := by
    rw [(moved_iff hplain).mp h.paths, mappingOf_moveReferences hplain]
  have hcomponents : mappingOf (current.field "components") =
      moveReferences (legacyComponents raw) := by
    rw [(moved_iff hsections).mp h.components, mappingOf_moveReferences hsections]
    rfl
  have hlegacy : normalize raw = assemble "3.0.0" (mappingOf (raw.field "info")) servers
      (moveReferences (mappingOf (raw.field "paths"))) (moveReferences (legacyComponents raw))
      (itemsOf (raw.field "tags")) := by
    rw [TooDeepToMove] at hdeep
    rw [normalize_of_legacy (isSome_get?_swagger h.legacy), normalizeLegacy, h.legacy, haddress,
      hurl]
    simp only [Fault.lift, bind, Except.bind, if_neg hdeep]
    rfl
  have hcurrent : normalize current = assemble "3.0.0" (mappingOf (raw.field "info")) servers
      (moveReferences (mappingOf (raw.field "paths"))) (moveReferences (legacyComponents raw))
      (itemsOf (raw.field "tags")) := by
    have hopenapi : (current.get? "openapi").isSome := by rw [h.openapi]; rfl
    have hitems : itemsOf (Value.sequence servers) = servers := rfl
    rw [normalize_of_current h.notLegacy hopenapi, normalizeCurrent, h.openapi, h.info, h.tags,
      hservers, hitems, filter_isMapping_of_served hserved, hpaths, hcomponents]
    rfl
  rw [hlegacy, hcurrent]

/-- Sections that are too deep are not moved. -/
theorem normalize_of_tooDeepToMove (h : Corresponds raw current) (hdeep : TooDeepToMove raw) :
    normalize raw = .error (.failure .tooDeepToNormalize) := by
  obtain ⟨servers, hserved, -⟩ := h.servers
  obtain ⟨address, haddress, -⟩ := legacyAddress_of_served hserved
  rw [TooDeepToMove] at hdeep
  rw [normalize_of_legacy (isSome_get?_swagger h.legacy), normalizeLegacy, h.legacy, haddress]
  simp only [Fault.lift, bind, Except.bind, if_pos hdeep]

/-! ### The canonical form of a canonical form -/

theorem asFields?_of_mem_sections (hd : d.Tabular) {fs : Fields} (h : .ofFields fs ∈ d.sections) :
    (Value.ofFields fs).asFields? = some fs := by
  obtain ⟨gs, hnodup, hgs⟩ := hd _ h
  obtain rfl := Value.ofFields_injective hgs
  rw [Value.asFields?_ofFields, Table.ofEntries_of_nodup hnodup]

/-- The canonical form of a document is its own canonical form. -/
theorem normalize_tree (hd : d.Tabular) : normalize d.tree = .ok d := by
  have hinfo : (Value.ofFields d.info).asFields? = some d.info :=
    asFields?_of_mem_sections hd (by simp [sections])
  have hpaths : (Value.ofFields d.paths).asFields? = some d.paths :=
    asFields?_of_mem_sections hd (by simp [sections])
  have hcomponents : (Value.ofFields d.components).asFields? = some d.components :=
    asFields?_of_mem_sections hd (by simp [sections])
  have hservers : ((d.servers.map Value.ofFields).filter Value.isMapping).mapM Value.asFields? =
      some d.servers := by
    have hmapping : (d.servers.map Value.ofFields).filter Value.isMapping =
        d.servers.map Value.ofFields :=
      List.filter_eq_self.mpr (List.forall_mem_map.mpr fun _ _ => rfl)
    rw [hmapping, mapM_eq_some_iff, List.forall₂_map_left_iff, List.forall₂_same]
    refine fun fs hfs => asFields?_of_mem_sections hd ?_
    have hserver : Value.ofFields fs ∈ d.servers.map Value.ofFields := List.mem_map_of_mem hfs
    simp only [sections, List.mem_cons, hserver, or_true]
  have hassemble : normalize d.tree = assemble d.openapi (.ofFields d.info)
      ((d.servers.map Value.ofFields).filter Value.isMapping) (.ofFields d.paths)
      (.ofFields d.components) d.tags := rfl
  rw [hassemble, assemble, hinfo, hservers, hpaths, hcomponents]
  rfl

/-- **Both forms of a document.** A document in the older form and its present form have one
canonical form, and so one client and one package, or the same failure. If the paths or the sections
that move are too deep, the older form is rejected. The canonical form of any document is its own
canonical form. -/
theorem normalize_of_corresponds (hraw : raw.Plain) (h : Corresponds raw current) :
    (¬ TooDeepToMove raw → normalize raw = normalize current ∧
      ∀ p, (normalize raw >>= clientOf p) = (normalize current >>= clientOf p) ∧
        ∀ name, (normalize raw >>= clientOf p >>= fun c => Package.ofClient c name) =
          (normalize current >>= clientOf p >>= fun c => Package.ofClient c name)) ∧
      (TooDeepToMove raw → normalize raw = .error (.failure .tooDeepToNormalize)) ∧
      ∀ other d, normalize other = .ok d → normalize d.tree = .ok d := by
  refine ⟨fun hdeep => ?_, normalize_of_tooDeepToMove h,
    fun _ _ hnormal => normalize_tree (tabular_of_normalize hnormal)⟩
  have hsame := normalize_eq_of_corresponds hraw h hdeep
  exact ⟨hsame, fun p => ⟨by rw [hsame], fun name => by rw [hsame]⟩⟩

/-- A description in the older form, with a host, a tag and a reference to a schema. -/
def servedPets : Value :=
  .ofFields [("swagger", .text "2.0"), ("info", .ofFields [("title", .text "Pets")]),
    ("host", .text "pets.example"), ("basePath", .text "/v1"),
    ("schemes", .sequence [.text "http"]), ("tags", .sequence [.text "pets"]),
    ("paths", .ofFields [("/pets", .ofFields [("get", .ofFields
      [("schema", .ofFields [("$ref", .text "#/definitions/Pet")])])])]),
    ("definitions", .ofFields [("Pet", .ofFields [("type", .text "object")])]),
    ("parameters", .sequence [])]

/-- The present form of `servedPets`. -/
def servedPetsCurrent : Value :=
  .ofFields [("openapi", .text "3.0.0"), ("info", .ofFields [("title", .text "Pets")]),
    ("servers", .sequence [.ofFields [("url", .text "http://pets.example/v1")]]),
    ("tags", .sequence [.text "pets"]),
    ("paths", .ofFields [("/pets", .ofFields [("get", .ofFields
      [("schema", .ofFields [("$ref", .text "#/components/schemas/Pet")])])])]),
    ("components", .ofFields [("schemas", .ofFields [("Pet", .ofFields
        [("type", .text "object")])]),
      ("parameters", .mapping []), ("responses", .mapping []), ("securitySchemes", .mapping [])])]

theorem normalize_of_corresponds_servedPets :
    Corresponds servedPets servedPetsCurrent ∧
      normalize servedPets = normalize servedPetsCurrent := by
  have hplain : servedPets.Plain := rfl
  have hserved : Served servedPets [.ofFields [("url", .text ("http" ++ "://" ++ "pets.example" ++
      "/v1"))]] := .host rfl rfl rfl rfl
  have hpaths : Moved (servedPets.field "paths") (servedPetsCurrent.field "paths") :=
    (moved_iff (hereditary_field Value.hereditary_plain hplain _)).mpr rfl
  have hcomponents : Moved (legacyComponents servedPets) (servedPetsCurrent.field "components") :=
    (moved_iff (hereditary_legacyComponents Value.hereditary_plain hplain)).mpr rfl
  have h : Corresponds servedPets servedPetsCurrent :=
    ⟨rfl, rfl, rfl, rfl, rfl, ⟨_, hserved, rfl⟩, hpaths, hcomponents⟩
  exact ⟨h, ((normalize_of_corresponds hplain h).1 (by decide)).1⟩

/-- A description in the older form whose definitions are deeper than sections can be moved. -/
def deepDefinitions : Value :=
  .ofFields [("swagger", .text "2.0"), ("paths", .ofFields []),
    ("definitions", .ofFields [("A", nested 550 .null)])]

/-- A description in the present form with the given schemas. -/
def withSchemas (schemas : Value) : Value :=
  .ofFields [("openapi", .text "3.0.0"), ("servers", .sequence []), ("paths", .ofFields []),
    ("components", .ofFields [("schemas", schemas), ("parameters", .ofFields []),
      ("responses", .ofFields []), ("securitySchemes", .ofFields [])])]

/-- A reference in an entry of an ordered list of entries. -/
def pairedReference (ref : String) : Value :=
  .ofFields [("A", .sequence [.pair (.text "k") (pointerTo ref)])]

/-- A description in the older form with a reference in an entry of an ordered list of entries. -/
def pairedDefinitions : Value :=
  .ofFields [("swagger", .text "2.0"), ("paths", .ofFields []),
    ("definitions", pairedReference "#/definitions/B")]

set_option maxRecDepth 20000 in
/-- Descriptions in both forms with different outcomes: the definitions are too deep for the older
form only, or a reference in an entry of an ordered list of entries has moved in the present form
only. -/
theorem not_normalize_of_corresponds :
    (deepDefinitions.Plain ∧ Corresponds deepDefinitions (withSchemas
          (.ofFields [("A", nested 550 .null)])) ∧
        normalize deepDefinitions = .error (.failure .tooDeepToNormalize) ∧
        ∃ d, normalize (withSchemas (.ofFields [("A", nested 550 .null)])) = .ok d) ∧
      pairedDefinitions.Plain ∧
        ∃ d d', normalize pairedDefinitions = .ok d ∧
          normalize (withSchemas (pairedReference "#/components/schemas/B")) = .ok d' ∧ d ≠ d' := by
  have hplain : deepDefinitions.Plain := rfl
  have hpaths : Moved (deepDefinitions.field "paths") (.ofFields []) :=
    (moved_iff (hereditary_field Value.hereditary_plain hplain _)).mpr rfl
  have hcomponents : Moved (legacyComponents deepDefinitions)
      ((withSchemas (.ofFields [("A", nested 550 .null)])).field "components") :=
    (moved_iff (hereditary_legacyComponents Value.hereditary_plain hplain)).mpr rfl
  refine ⟨⟨hplain, ⟨rfl, rfl, rfl, rfl, rfl, ⟨[], .nowhere rfl, rfl⟩, hpaths, hcomponents⟩,
    rfl, _, rfl⟩, rfl, _, _, rfl, rfl, ?_⟩
  decide

end ClientGen.Document
