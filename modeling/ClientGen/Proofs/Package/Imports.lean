import ClientGen.Package.Factory
import ClientGen.Proofs.TypeScript.Faults

/-!
# Imports

A module imports the declarations that are listed for its functions. Types and lists are made apart:
a type follows the keywords of a schema, and a list goes through all that stands in it. What a type
uses is listed, but for the names of handles that are written in bytes: these are read when the type
is made, and are passed over when the list is.

## Main definitions

* `ClientGen.TypeScript.NamedOnlyInBytes` : the names that are passed over.
* `ClientGen.TypeScript.RequestFunction.used` : the names in the types of a function.

## Main results

* `ClientGen.TypeScript.listed_iff_of_schemaType` : the names in the type of a schema.
* `ClientGen.TypeScript.RequestFunction.listed_iff_of_mem_used` : the names in the types of a
  function.
* `ClientGen.Package.imports_of_types` : what types use, and what is listed and imported.
-/

namespace ClientGen

variable {v : Value} {n : String} {depth : Nat}

namespace TypeScript

/-! ### Schemas -/

/-- Where containers are not nested too deeply, names are listed. -/
theorem exists_modelsWithin_eq_ok (hv : v.Plain) (h : v.nesting < depth) :
    ∃ ns, modelsWithin depth v = .ok ns := by
  induction depth generalizing v with
  | zero => exact absurd h (Nat.not_lt_zero _)
  | succ depth ih =>
    unfold modelsWithin
    rw [Value.opened_of_plain hv]
    cases v with
    | mapping es =>
      have hes : ∀ e ∈ es, ∃ ns, modelsWithin depth e.2 = .ok ns := fun e he => by
        have hnesting := Value.nesting_le_nestingItems (List.mem_map_of_mem (f := (·.2)) he)
        rw [← Value.nestingEntries_eq] at hnesting
        rw [Value.nesting] at h
        exact ih (Value.plain_mapping.mp hv e he) (by omega)
      obtain ⟨nss, hnss⟩ := exists_mapM_eq_ok hes
      exact ⟨_, Except.bind_eq_ok.mpr ⟨nss, hnss, rfl⟩⟩
    | sequence xs =>
      have hxs : ∀ x ∈ xs, ∃ ns, modelsWithin depth x = .ok ns := fun x hx => by
        have hnesting := Value.nesting_le_nestingItems hx
        rw [Value.nesting] at h
        exact ih (Value.plain_sequence.mp hv x hx) (by omega)
      obtain ⟨nss, hnss⟩ := exists_mapM_eq_ok hxs
      exact ⟨_, Except.bind_eq_ok.mpr ⟨nss, hnss, rfl⟩⟩
    | scalar | members | pair | knot | again => exact ⟨[], rfl⟩

theorem exists_referencedModels_eq_ok (hv : v.Plain) (h : v.nesting < callLimit) :
    ∃ ns, referencedModels v = .ok ns := by
  obtain ⟨ns, hns⟩ := exists_modelsWithin_eq_ok hv h
  exact ⟨_, Except.bind_eq_ok.mpr ⟨ns, hns, rfl⟩⟩

/-- The schemas have a handle of that name, and wherever they have one, its name is in bytes. -/
def NamedOnlyInBytes (schemas : List Value) (n : String) : Prop :=
  (∃ s ∈ schemas, s.NamesBy Value.asText? n) ∧ ∀ s ∈ schemas, ¬ s.NamesBy Value.text? n

/-- A name that schemas have is among those that show texts, unless they have it in bytes only. -/
theorem exists_namesBy_text?_iff {schemas : List Value}
    (h : ∃ s ∈ schemas, s.NamesBy Value.asText? n) :
    (∃ s ∈ schemas, s.NamesBy Value.text? n) ↔ ¬ NamedOnlyInBytes schemas n := by
  rw [NamedOnlyInBytes, and_iff_right h]
  simp only [not_forall, not_not, exists_prop]

/-- What the type of a schema uses is listed for it, unless its name is in bytes. -/
theorem listed_iff_of_schemaType {t : TypeExpr} {ns : List String} (ht : schemaType v = .ok t)
    (hns : referencedModels v = .ok ns) (hn : n ∈ t.models) :
    n ∈ ns ↔ ¬ NamedOnlyInBytes [v] n := by
  have hnames : ∃ s ∈ [v], s.NamesBy Value.asText? n :=
    ⟨v, List.mem_singleton_self v, namesBy_of_typeWithin ht hn⟩
  rw [mem_referencedModels_iff hns, ← exists_namesBy_text?_iff hnames]
  simp only [List.mem_singleton, exists_eq_left]

/-! ### Functions -/

namespace RequestFunction

variable {o : Operation} {f : RequestFunction}

/-- The names in the types of the body and of the answer. -/
def used (f : RequestFunction) : List String :=
  f.body.elim [] (·.type.models) ++ f.result.models

/-- The type of an answer uses the names of handles in one of the responses. -/
theorem exists_response_of_resultType {fs : Fields} {t : TypeExpr}
    (h : resultType (.ofFields fs) = .ok t) (hn : n ∈ t.models) :
    ∃ r ∈ fs, (jsonSchema r.2).NamesBy Value.asText? n := by
  have hmapping : (Value.ofFields fs).isMapping = true := rfl
  unfold resultType at h
  simp only [hmapping, Bool.not_true, Bool.and_false, Bool.false_eq_true, if_false] at h
  split at h
  · obtain rfl := Except.ok.inj h
    cases hn
  · rename_i response hresponse
    split at h
    · obtain rfl := Except.ok.inj h
      cases hn
    · obtain ⟨status, -, hfound⟩ := List.exists_of_findSome?_eq_some hresponse
      obtain ⟨hlookup, -⟩ := Option.filter_eq_some_iff.mp hfound
      rw [Value.get?_ofFields] at hlookup
      exact ⟨_, Value.mem_of_lookup hlookup, namesBy_of_typeWithin h hn⟩

/-- A function uses the names of handles in the schemas of the body and of the responses. -/
theorem exists_schema_of_mem_used (h : ofOperation o = .ok f) (hn : n ∈ f.used) :
    ∃ s ∈ jsonSchemasOf o, s.NamesBy Value.asText? n := by
  obtain ⟨-, -, hbody, hresult, -⟩ := ofOperation_eq_ok h
  rcases List.mem_append.mp hn with hn | hn
  · rcases schema_of_bindBody hbody with ⟨hnone, -⟩ | ⟨b, hsome, ht, -⟩
    · rw [hnone] at hn
      cases hn
    · rw [hsome] at hn
      exact ⟨_, List.mem_cons_self, namesBy_of_typeWithin ht hn⟩
  · obtain ⟨r, hr, hnames⟩ := exists_response_of_resultType hresult hn
    exact ⟨_, List.mem_cons_of_mem _ (List.mem_map_of_mem hr), hnames⟩

/-- What the types of a function use is listed for it, unless its name is in bytes. -/
theorem listed_iff_of_mem_used (h : ofOperation o = .ok f) (hn : n ∈ f.used) :
    n ∈ f.models ↔ ¬ NamedOnlyInBytes (jsonSchemasOf o) n := by
  rw [mem_models_iff_of_ofOperation h, exists_namesBy_text?_iff (exists_schema_of_mem_used h hn)]

end RequestFunction

end TypeScript

/-! ### Modules -/

namespace Package

open TypeScript

variable {os : List Operation} {fs : List RequestFunction} {f : RequestFunction}

/-- The functions of a module list the names of handles that show texts in their operations. -/
theorem mem_modelsOf_iff (h : os.mapM RequestFunction.ofOperation = .ok fs) :
    n ∈ modelsOf fs ↔ ∃ s ∈ os.flatMap jsonSchemasOf, s.NamesBy Value.text? n := by
  have hall : List.Forall₂ (fun o f => n ∈ f.models ↔ ∃ s ∈ jsonSchemasOf o,
      s.NamesBy Value.text? n) os fs :=
    (mapM_eq_ok_iff.mp h).imp fun o f hof => mem_models_iff_of_ofOperation hof
  rw [modelsOf, mem_alphabetical]
  clear h
  induction hall with
  | nil => simp
  | cons hof _ ih =>
    simp only [List.flatMap_cons, List.mem_append, hof, ih, or_and_right, exists_or]

/-- What the types of functions use is imported where the functions stand, unless its name is in
bytes. -/
theorem imported_iff_of_mem_used (h : os.mapM RequestFunction.ofOperation = .ok fs) (hf : f ∈ fs)
    (hn : n ∈ f.used) : n ∈ modelsOf fs ↔ ¬ NamedOnlyInBytes (os.flatMap jsonSchemasOf) n := by
  obtain ⟨o, ho, hof⟩ := exists_of_forall₂ (mapM_eq_ok_iff.mp h) hf
  obtain ⟨s, hs, hnames⟩ := RequestFunction.exists_schema_of_mem_used hof hn
  have hall : ∃ s ∈ os.flatMap jsonSchemasOf, s.NamesBy Value.asText? n :=
    ⟨s, List.mem_flatMap_of_mem ho hs, hnames⟩
  rw [mem_modelsOf_iff h, exists_namesBy_text?_iff hall]

/-- **Imports.** What the type of a schema uses is listed for the schema, what the types of a
function use is listed for the function, and what the functions of a module use is imported there,
exactly if the schemas do not give its name in bytes only. -/
theorem imports_of_types (h : os.mapM RequestFunction.ofOperation = .ok fs)
    (wrapper config baseUrl : String) :
    (∀ (v : Value) (t : TypeExpr), schemaType v = .ok t →
      (v.Plain → v.nesting < callLimit → ∃ ns, referencedModels v = .ok ns) ∧
      ∀ ns, referencedModels v = .ok ns →
        ∀ n ∈ t.models, (n ∈ ns ↔ ¬ NamedOnlyInBytes [v] n)) ∧
    List.Forall₂ (fun o f =>
      ∀ n ∈ f.used, (n ∈ f.models ↔ ¬ NamedOnlyInBytes (jsonSchemasOf o) n)) os fs ∧
    ∀ f ∈ fs, ∀ n ∈ f.used,
      (n ∈ (ControllerModule.mk wrapper fs).imports ↔
        ¬ NamedOnlyInBytes (os.flatMap jsonSchemasOf) n) ∧
      (n ∈ (Factory.mk config baseUrl wrapper fs).imports ↔
        ¬ NamedOnlyInBytes (os.flatMap jsonSchemasOf) n) := by
  refine ⟨fun v t ht => ⟨exists_referencedModels_eq_ok, fun ns hns n hn => ?_⟩, ?_,
    fun f hf n hn => ?_⟩
  · exact listed_iff_of_schemaType ht hns hn
  · exact (mapM_eq_ok_iff.mp h).imp fun o f hof n hn =>
      RequestFunction.listed_iff_of_mem_used hof hn
  · exact ⟨imported_iff_of_mem_used h hf hn, imported_iff_of_mem_used h hf hn⟩

/-- The handle of a schema, with its name in bytes. -/
def handleInBytes : Value :=
  .ofFields [("refType", .text "schema"),
    ("modelName", .scalar (.bytes [79, 119, 110, 101, 114]))]

/-- A schema with a list of pets and an owner, whose name is in bytes. -/
def shelter : Value :=
  .ofFields [("type", .text "object"), ("properties", .ofFields
    [("pets", .ofFields [("type", .text "array"),
      ("items", (SchemaHandle.named (some "Pet") .schema true).node)]),
    ("owner", handleInBytes)])]

/-- An operation whose body is a shelter, and that answers pets. -/
def addShelter : Operation where
  method := .post
  path := "/shelters"
  operationId := "addShelter"
  requestBody := some [("content", .ofFields [("application/json", .ofFields
    [("schema", shelter)])])]
  responses := some [("200", .ofFields [("content", .ofFields [("application/json", .ofFields
    [("schema", (SchemaHandle.named (some "Pet") .schema true).node)])])])]

theorem imports_of_types_addShelter :
    ∃ fs, [addShelter].mapM RequestFunction.ofOperation = .ok fs ∧
      (∃ t, schemaType shelter = .ok t ∧ t.models = ["Pet", "Owner"] ∧
        ∃ ns, referencedModels shelter = .ok ns ∧
          ∀ n ∈ t.models, (n ∈ ns ↔ ¬ NamedOnlyInBytes [shelter] n)) ∧
      ∃ f ∈ fs, f.used = ["Pet", "Owner", "Pet"] ∧ ∀ n ∈ f.used,
        (n ∈ (ControllerModule.mk "ApiResponse" fs).imports ↔
          ¬ NamedOnlyInBytes ([addShelter].flatMap jsonSchemasOf) n) ∧
        (n ∈ (Factory.mk "ShelterConfig" "" "ApiResponse" fs).imports ↔
          ¬ NamedOnlyInBytes ([addShelter].flatMap jsonSchemasOf) n) := by
  have hrun : ∃ fs, [addShelter].mapM RequestFunction.ofOperation = .ok fs ∧
      ∃ f ∈ fs, f.used = ["Pet", "Owner", "Pet"] := by decide +kernel
  have htype : ∃ t, schemaType shelter = .ok t ∧ t.models = ["Pet", "Owner"] := by decide +kernel
  have hplain : shelter.Plain := by decide +kernel
  have hnesting : shelter.nesting < callLimit := by decide +kernel
  obtain ⟨fs, hfs, f, hf, hused⟩ := hrun
  obtain ⟨t, ht, hmodels⟩ := htype
  obtain ⟨hschemas, -, himports⟩ := imports_of_types hfs "ApiResponse" "ShelterConfig" ""
  obtain ⟨hlisted, hnames⟩ := hschemas shelter t ht
  obtain ⟨ns, hns⟩ := hlisted hplain hnesting
  exact ⟨fs, hfs, ⟨t, ht, hmodels, ns, hns, hnames ns hns⟩, f, hf, hused, himports f hf⟩

/-- What a type uses need not be listed, and what a function uses need not be imported. -/
theorem not_imports_of_types :
    (∃ t, schemaType handleInBytes = .ok t ∧ "Owner" ∈ t.models ∧
      ∃ ns, referencedModels handleInBytes = .ok ns ∧ "Owner" ∉ ns) ∧
    (∃ f, RequestFunction.ofOperation addShelter = .ok f ∧ "Owner" ∈ f.used ∧
      "Owner" ∉ f.models) ∧
    ∃ fs, [addShelter].mapM RequestFunction.ofOperation = .ok fs ∧
      (∃ f ∈ fs, "Owner" ∈ f.used) ∧ "Owner" ∉ (ControllerModule.mk "ApiResponse" fs).imports ∧
      "Owner" ∉ (Factory.mk "Config" "" "ApiResponse" fs).imports := by
  refine ⟨?_, ?_, ?_⟩ <;> decide +kernel

end Package

end ClientGen
