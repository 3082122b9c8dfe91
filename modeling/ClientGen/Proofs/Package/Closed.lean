import ClientGen.Proofs.Normalization.References
import ClientGen.Proofs.Operations
import ClientGen.Proofs.Package.Modules
import ClientGen.Proofs.Resolution.Handles
import ClientGen.Proofs.Resolution.SchemaReferences
import ClientGen.Source.Client

/-!
# Closed packages

The modules of a package import and use only names that its module of declarations declares, if the
last segment of every reference to a schema is the name of a schema. A reference whose last segment
is escaped, or that goes on below a schema, names a declaration that is not there.

## Main definitions

* `ClientGen.Package.IsClosed` : the modules use only names that are declared.
* `ClientGen.Document.NamesSchemas` : references to schemas end with the names of schemas.

## Main results

* `ClientGen.Document.exists_schema_of_lookup` : pointers that go straight to schemas.
* `ClientGen.Document.NamesSchemas.mem_names` : the names in a resolved document are declared.
* `ClientGen.Document.isClosed_of_ofClient` : the generated package is closed.
-/

namespace ClientGen

open TypeScript (typeName)

variable {d d' : Document} {v w : Value} {n : String}

/-! ### Names in a resolved document -/

/-- What follows the last slash of a reference is its name. -/
theorem Reference.name_of_toList_eq {ref key : String} {start : List Char} (hkey : '/' ∉ key.toList)
    (href : ref.toList = start ++ '/' :: key.toList) : name ref = key := by
  rw [name, segments, href, List.splitOn_append_cons_self, List.splitOn_eq_singleton hkey]
  simp

namespace Document

open Package

/-- The last segment of every reference to a schema is the name of a schema, up to the characters
that no declaration can have in its name; the schemas stand where they are declared from, and
nothing in the document has the kind of a handle already. -/
structure NamesSchemas (d : Document) : Prop where
  /-- Neither the components nor the schemas are replaced as a whole. -/
  kept : ∀ v ∈ [Value.ofFields d.components, d.schemas],
    v.reference? = none ∧ isDescribed v = false
  /-- References to schemas end with the name of a schema. -/
  named : ∀ v ref, Meets d.tree v → v.reference? = some ref → Reference.kind ref = .schema →
    ∃ key, (d.schemas.get? key).isSome ∧ typeName key = typeName (Reference.name ref)
  /-- Nothing has the kind of a handle. -/
  unwritten : ∀ v, d.tree.Holds v → ¬ IsWritten d.tree v

/-- The names in a resolved section are those of schemas. -/
theorem NamesSchemas.exists_schema (h : d.NamesSchemas) (hplain : d.tree.Plain) {s : Value}
    (hs : s ∈ d.sections) (hw : Walked d.tree s w) (hn : w.Names n) :
    ∃ key, (d.schemas.get? key).isSome ∧ typeName key = n := by
  obtain ⟨x, name, hx, hname, rfl⟩ := hn
  obtain ⟨budget, -, hvisit⟩ := hw
  have hsection := meets_section hs
  obtain ⟨u, ref, hu, href, hkind, rfl⟩ := exists_reference_of_visit
    (hsection.holds.plain hplain) hsection.holds h.unwritten hvisit hx hname
  exact h.named u ref (hsection.trans hu) href hkind

theorem keysOf_of_isFilled_eq_false (h : v.isFilled = false) : keysOf v = [] := by
  cases v with
  | mapping es =>
    obtain rfl : es = [] := by simpa [Value.isFilled] using h
    rfl
  | knot n b => cases h
  | _ => rfl

theorem keysOf_of_schemasOf {components schemas : Value}
    (h : schemasOf components = .ok schemas) :
    keysOf schemas = keysOf (components.field "schemas") := by
  unfold schemasOf at h
  split at h
  · rw [← Except.ok.inj h, Value.orElse]
    split
    · rfl
    · rename_i hfilled
      have hempty : (components.field "schemas").isFilled = false := by simpa using hfilled
      rw [keysOf_of_isFilled_eq_false hempty]
      rfl
  · cases h

theorem names_of_schemasOf {components schemas : Value} (h : schemasOf components = .ok schemas)
    (hn : schemas.Names n) : (components.field "schemas").Names n := by
  unfold schemasOf at h
  split at h
  · rw [← Except.ok.inj h, Value.orElse] at hn
    split at hn
    · exact hn
    · exact absurd hn Value.not_names_nil
  · cases h

theorem mem_keysOf_of_get? {key : String} (h : (v.get? key).isSome) :
    Scalar.text key ∈ keysOf v := by
  obtain ⟨x, hx⟩ := Option.isSome_iff_exists.mp h
  obtain ⟨es, hes, hlookup⟩ := Value.get?_eq_some hx
  rw [keysOf, hes]
  exact List.mem_map_of_mem (Value.mem_of_lookup hlookup)

/-- Resolving a document keeps the names of its schemas. -/
theorem NamesSchemas.keysOf_schemas (h : d.NamesSchemas) (hplain : d.tree.Plain)
    (hd : d.Tabular) (hresolve : d.resolve = .ok d') : keysOf d'.schemas = keysOf d.schemas := by
  obtain ⟨⟨href, hdescribed⟩, hschemas⟩ := List.forall_mem_cons.mp h.kept
  obtain ⟨href', hdescribed'⟩ := List.forall_mem_singleton.mp hschemas
  have hsection : Value.ofFields d.components ∈ d.sections := by simp [sections]
  have hcomponents : (Value.ofFields d.components).Plain :=
    (meets_section hsection).holds.plain hplain
  obtain ⟨-, -, -, components, -, -, -, -, -, ⟨hwalked, hread⟩, -⟩ := resolve_eq_ok hresolve
  have hrecord : components.IsRecord := isRecord_of_walked (hd _ hsection)
    (fun r t hr => by cases href.symm.trans hr) hwalked
  rw [schemas, Value.ofFields_of_asFields? hrecord hread]
  obtain ⟨budget, hbudget, hvisit⟩ := hwalked
  rcases visit_mapping_eq_ok hvisit with ⟨r, hclass, -⟩ | ⟨-, hw⟩ | ⟨-, fs, rfl, hfs⟩
  · cases href.symm.trans (Node.classify_eq_reference_iff.mp hclass)
  · -- components that look like a parameter stay as they are, since none describes them
    rcases replaceParameter_eq_ok hw with ⟨q, hq, -⟩ | ⟨-, rfl⟩
    · have hq : PrimitiveParameter.describe? (.ofFields d.components) none = .ok (some q) := hq
      simp [isDescribed, hq] at hdescribed
    · rfl
  · have hwalked' : Walked d.tree d.schemas ((Value.mapping fs).field "schemas") :=
      Value.rel_field ⟨0, Nat.zero_le _, rfl⟩
        (hfs.imp fun _ _ hef => ⟨hef.1, budget - 1, by omega, hef.2⟩) "schemas"
    have hschemas := hereditary_field Value.hereditary_plain hcomponents "schemas"
    exact keysOf_of_walked hschemas href' hdescribed' hwalked'

/-- The schemas of a resolved document are declared. -/
theorem mem_names_of_get? {wrapper : String} {models : ModelsModule}
    (h : ModelsModule.ofComponents (.ofFields d.components) (some wrapper) = .ok models)
    {key : String} (hkey : Scalar.text key ∈ keysOf d.schemas) : typeName key ∈ models.names := by
  obtain ⟨-, schemas, es, hschemas, hes, hds⟩ := ofComponents_eq_ok h
  have hmem : Scalar.text key ∈ es.map (·.1) := by
    have hkeys : es.map (·.1) = keysOf d.schemas := by
      have hkeys := keysOf_of_schemasOf hschemas
      rwa [keysOf, hes] at hkeys
    rwa [hkeys]
  obtain ⟨e, he, hekey⟩ := List.mem_map.mp hmem
  obtain ⟨declaration, hdeclaration, key', hkey', hname, -⟩ := exists_of_forall₂ hds.flip he
  obtain rfl := Scalar.text.inj (hekey.symm.trans hkey')
  exact List.mem_map.mpr ⟨declaration, hdeclaration, hname⟩

/-- A pointer that goes straight to a schema with a plain name ends with that name. -/
theorem exists_schema_of_lookup {ref key : String} (hkey : Pointer.IsName key.toList)
    (href : ref = "#/components/schemas/" ++ key) (hschemas : d.schemas.isMapping = true)
    (h : Pointer.lookup d.tree ref = .ok v) :
    (d.schemas.get? key).isSome ∧ Reference.name ref = key := by
  have hsegments : ref.toList = '#' :: '/' ::
      ("components".toList ++ '/' :: ("schemas".toList ++ '/' :: key.toList)) := by
    rw [href, String.toList_append]
    rfl
  constructor
  · have hcomponents : d.tree.get? "components" = some (.ofFields d.components) := rfl
    rw [Pointer.lookup_of_get? (by decide) hsegments hcomponents,
      Pointer.following_of_isName (by decide), Pointer.following_self hkey] at h
    have hget : (Value.ofFields d.components).get? "schemas" = some d.schemas :=
      Value.get?_of_isMapping_field hschemas
    have hitems : d.schemas.items? = none := Value.items?_of_isMapping hschemas
    rw [Pointer.walk_of_get? hget, Pointer.walk, Pointer.enter_of_items?_eq_none hitems,
      String.ofList_toList] at h
    cases hkeyed : d.schemas.get? key with
    | none =>
      rw [hkeyed] at h
      cases h
    | some x => rfl
  · have happend : ref.toList = "#/components/schemas".toList ++ '/' :: key.toList := hsegments
    exact Reference.name_of_toList_eq hkey.2.1 happend

end Document

/-! ### Closed packages -/

namespace Package

/-- The modules of the controllers, the module that makes clients and the declarations use only
names that are declared. -/
structure IsClosed (models : ModelsModule) (controllers : List ControllerFile) : Prop where
  /-- What the module of a controller imports is declared. -/
  controller : ∀ file ∈ controllers,
    (ControllerModule.mk models.wrapper file.functions).imports ⊆ models.names
  /-- What the module that makes clients imports is declared. -/
  factory : ∀ configName baseUrl, (Factory.mk configName baseUrl models.wrapper
    (controllers.flatMap (·.functions))).imports ⊆ models.names
  /-- What a declaration uses is declared. -/
  declaration : ∀ d ∈ models.declarations, d.models ⊆ models.names

theorem modelsOf_subset_iff {fs : List TypeScript.RequestFunction} {names : List String} :
    modelsOf fs ⊆ names ↔ ∀ f ∈ fs, f.models ⊆ names := by
  simp only [modelsOf, List.subset_def, TypeScript.mem_alphabetical, List.mem_flatMap]
  grind

/-- Modules are closed if what the functions list and what the declarations use is declared. -/
theorem isClosed_iff {models : ModelsModule} {controllers : List ControllerFile} :
    IsClosed models controllers ↔
      (∀ file ∈ controllers, ∀ f ∈ file.functions, ∀ n ∈ f.models, n ∈ models.names) ∧
        ∀ d ∈ models.declarations, ∀ n ∈ d.models, n ∈ models.names := by
  constructor
  · intro h
    exact ⟨fun file hfile => modelsOf_subset_iff.mp (h.controller file hfile), h.declaration⟩
  · rintro ⟨hfunctions, hdeclarations⟩
    refine ⟨fun file hfile => modelsOf_subset_iff.mpr (hfunctions file hfile), fun _ _ => ?_,
      hdeclarations⟩
    refine modelsOf_subset_iff.mpr fun f hf => ?_
    obtain ⟨file, hfile, hf⟩ := List.mem_flatMap.mp hf
    exact hfunctions file hfile f hf

instance (models : ModelsModule) (controllers : List ControllerFile) :
    Decidable (IsClosed models controllers) := decidable_of_iff' _ isClosed_iff

end Package

namespace Document

open Package

/-- The functions of a package list only names that stand in the paths. -/
theorem exists_path_of_controllerFiles {p : Projection} {c : Client} {taken : List String}
    {files : List ControllerFile} (hclient : p.client d = .ok c)
    (hfiles : controllerFiles taken [] c.emittable = .ok files) {file : ControllerFile}
    (hfile : file ∈ files) {f : TypeScript.RequestFunction} (hf : f ∈ file.functions)
    (hn : n ∈ f.models) : ∃ g ∈ d.paths, g.2.Names n := by
  obtain ⟨-, new, rfl, hnew⟩ := fit_of_controllerFiles hfiles fit_nil
  obtain ⟨e, he, o, ho, hof⟩ := exists_operation_of_implements hnew hfile hf
  obtain ⟨g, hg, hnames⟩ := TypeScript.names_of_ofOperation hof hn
  obtain ⟨path, hpath, hheld⟩ :=
    Projection.exists_path_of_client hclient (List.mem_filter.mp he).1 ho hg
  exact ⟨path, hpath, hnames.of_holds hheld⟩

/-- The names in a resolved section are declared. -/
theorem NamesSchemas.mem_names (hnames : d.NamesSchemas) (hplain : d.tree.Plain) (hd : d.Tabular)
    (hresolve : d.resolve = .ok d') {wrapper : String} {models : ModelsModule}
    (hmodels : ModelsModule.ofComponents (.ofFields d'.components) (some wrapper) = .ok models)
    {s : Value} (hs : s ∈ d.sections) (hw : Walked d.tree s w) (hn : w.Names n) :
    n ∈ models.names := by
  obtain ⟨key, hkey, rfl⟩ := hnames.exists_schema hplain hs hw hn
  have hkeys := hnames.keysOf_schemas hplain hd hresolve
  exact mem_names_of_get? hmodels (hkeys ▸ mem_keysOf_of_get? hkey)

/-- **Closed packages.** The package that is generated from a document declares all names that its
modules import or use, if references to schemas end with the names of schemas. -/
theorem isClosed_of_ofClient {raw : Value} {p : Projection} {c : Client} {packageName : String}
    {fs : List (String × String)} (hraw : raw.Plain) (hnormal : normalize raw = .ok d)
    (hnames : d.NamesSchemas) (hclient : clientOf p d = .ok c)
    (hfiles : ofClient c packageName = .ok fs) :
    ∃ models text controllers, modulesOf c = .ok (models, controllers) ∧
      models.text = .ok text ∧ fs = files c packageName models.wrapper text controllers ∧
      modelNames (.ofFields c.components) = .ok models.names ∧ IsClosed models controllers := by
  have hplain : d.tree.Plain := plain_of_normalize hraw hnormal
  obtain ⟨d', hresolve, hclient⟩ := Except.bind_eq_ok.mp hclient
  have hclient : p.client d' = .ok c := Fault.lift_eq_ok.mp hclient
  obtain ⟨-, hcomponents⟩ := Projection.client_eq_ok hclient
  obtain ⟨models, text, controllers, hmodules, htext, hfs⟩ := ofClient_eq_ok hfiles
  obtain ⟨taken, wrapper, hcontrollers, hmodels⟩ := modulesOf_eq_ok hmodules
  refine ⟨models, text, controllers, hmodules, htext, hfs, modelNames_of_ofComponents hmodels, ?_⟩
  rw [hcomponents] at hmodels
  obtain ⟨-, -, paths, components, -, -, -, -, ⟨hpaths, hpathsRead⟩,
    ⟨hwalked, hcomponentsRead⟩, -⟩ := resolve_eq_ok hresolve
  have hdeclared {s w : Value} {n : String} (hs : s ∈ d.sections) (hw : Walked d.tree s w)
      (hn : w.Names n) : n ∈ models.names :=
    hnames.mem_names hplain (tabular_of_normalize hnormal) hresolve hmodels hs hw hn
  refine isClosed_iff.mpr ⟨fun file hfile f hf n hn => ?_, fun declaration hdeclaration n hn => ?_⟩
  · -- a function lists what stands in the walked paths
    obtain ⟨g, hg, hlisted⟩ := exists_path_of_controllerFiles hclient hcontrollers hfile hf hn
    have hmem : g.2 ∈ paths.parts := Value.mem_parts_of_asFields? hpathsRead hg
    exact hdeclared (by simp [sections]) hpaths (hlisted.of_mem_parts hmem)
  · -- a declaration uses what stands in the walked components
    obtain ⟨-, schemas, es, hschemas, hes, hds⟩ := ofComponents_eq_ok hmodels
    obtain ⟨e, he, -, -, -, huses⟩ := exists_of_forall₂ hds hdeclaration
    have hnamed : schemas.Names n := (huses n hn).of_mem_entries hes he
    obtain ⟨g, hg, hused⟩ := (names_of_schemasOf hschemas hnamed).exists_mem_fields
    have hmem : g.2 ∈ components.parts := Value.mem_parts_of_asFields? hcomponentsRead hg
    exact hdeclared (by simp [sections]) hwalked (hused.of_mem_parts hmem)

/-- The path of an operation that answers with what the pointer names. -/
def answeredPath (ref : String) : Fields :=
  [("/pets", .ofFields [("get", .ofFields
    [("operationId", .text "listPets"), ("responses", .ofFields [("200", .ofFields
      [("content", .ofFields [("application/json", .ofFields
        [("schema", pointerTo ref)])])])])])])]

/-- A description of an interface with one operation, which answers with what the pointer names. -/
def answering (ref : String) (schemas : Fields) : Value :=
  .ofFields [("openapi", .text "3.0.0"), ("paths", .ofFields (answeredPath ref)),
    ("components", .ofFields [("schemas", .ofFields schemas)])]

/-- The canonical form of `answering`. -/
def answeringDocument (ref : String) (schemas : Fields) : Document where
  openapi := "3.0.0"
  paths := answeredPath ref
  components := [("schemas", .ofFields schemas)]

/-- Pets have owners. -/
def ownedPets : Fields :=
  [("Pet", .ofFields [("properties", .ofFields
      [("owner", pointerTo "#/components/schemas/Owner")])]),
    ("Owner", .ofFields [("type", .text "string")])]

/-- The document of an operation that answers with a pet. -/
def ownedPetsDocument : Document := answeringDocument "#/components/schemas/Pet" ownedPets

theorem namesSchemas_ownedPets : ownedPetsDocument.NamesSchemas where
  kept := by decide
  named v ref hv href _ := by
    have hmem : ref ∈ ["#/components/schemas/Pet", "#/components/schemas/Owner"] :=
      mem_metReferences (v := ownedPetsDocument.tree) rfl hv href
    have hschemas : ownedPetsDocument.schemas.isMapping = true := rfl
    have hname {ref key : String} {v : Value} (hkey : Pointer.IsName key.toList)
        (href : ref = "#/components/schemas/" ++ key)
        (h : Pointer.lookup ownedPetsDocument.tree ref = .ok v) :
        ∃ key, (ownedPetsDocument.schemas.get? key).isSome ∧
          typeName key = typeName (Reference.name ref) := by
      obtain ⟨hget, hname⟩ := exists_schema_of_lookup hkey href hschemas h
      exact ⟨key, hget, by rw [hname]⟩
    rcases List.mem_cons.mp hmem with rfl | hmem
    · have hpet : Pointer.IsName "Pet".toList := by decide
      exact hname hpet rfl rfl
    · rw [List.mem_singleton.mp hmem]
      have howner : Pointer.IsName "Owner".toList := by decide
      exact hname howner rfl rfl
  unwritten v hv := by
    have hall : ∀ w ∈ ownedPetsDocument.tree.within fun _ => true, w.get? "refType" = none := by
      decide
    have hnone := hall v (Value.mem_within_of_holds rfl hv)
    rw [IsWritten, Value.field, hnone]
    rintro (h | ⟨ref, href, -⟩)
    · cases h
    · cases href

theorem isClosed_of_ofClient_ownedPets :
    normalize (answering "#/components/schemas/Pet" ownedPets) = .ok ownedPetsDocument ∧
      ownedPetsDocument.NamesSchemas ∧
      ∃ c, clientOf {} ownedPetsDocument = .ok c ∧ ∃ fs, ofClient c "pets" = .ok fs ∧
        ∃ models text controllers, modulesOf c = .ok (models, controllers) ∧
          models.text = .ok text ∧ fs = files c "pets" models.wrapper text controllers ∧
          modelNames (.ofFields c.components) = .ok models.names ∧
          IsClosed models controllers := by
  have hnormal : normalize (answering "#/components/schemas/Pet" ownedPets) =
      .ok ownedPetsDocument := rfl
  have hrun : ∃ c, clientOf {} ownedPetsDocument = .ok c ∧ ∃ fs, ofClient c "pets" = .ok fs := by
    decide +kernel
  obtain ⟨c, hclient, fs, hfiles⟩ := hrun
  refine ⟨hnormal, namesSchemas_ownedPets, c, hclient, fs, hfiles, ?_⟩
  have hplain : (answering "#/components/schemas/Pet" ownedPets).Plain := rfl
  exact isClosed_of_ofClient hplain hnormal namesSchemas_ownedPets hclient hfiles

/-- A schema whose name has a slash. -/
def slashedSchema : Fields := [("a/b", .ofFields [("type", .text "string")])]

/-- The document of an operation that answers with `slashedSchema`. -/
def slashedDocument : Document := answeringDocument "#/components/schemas/a~1b" slashedSchema

/-- A package in which all references lead somewhere, but a name that is imported is not
declared. -/
theorem not_isClosed_of_ofClient :
    (answering "#/components/schemas/a~1b" slashedSchema).Plain ∧
      normalize (answering "#/components/schemas/a~1b" slashedSchema) = .ok slashedDocument ∧
      (∀ v, Meets slashedDocument.tree v → ∀ ref, v.reference? = some ref →
        ∃ t, Pointer.lookup slashedDocument.tree ref = .ok t) ∧
      ∃ c, clientOf {} slashedDocument = .ok c ∧
        (∃ fs, ofClient c "slashed" = .ok fs) ∧
        ∃ modules, modulesOf c = .ok modules ∧ ¬ IsClosed modules.1 modules.2 := by
  refine ⟨rfl, rfl, fun v hv ref href => ?_, by decide +kernel⟩
  have hmem : ref ∈ ["#/components/schemas/a~1b"] :=
    mem_metReferences (v := slashedDocument.tree) rfl hv href
  rw [List.mem_singleton.mp hmem]
  exact ⟨_, rfl⟩

end Document

end ClientGen
