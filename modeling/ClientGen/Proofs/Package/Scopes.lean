import ClientGen.Proofs.Package.Closed
import ClientGen.Proofs.TypeScript.Identifiers

/-!
# Scopes of modules

A module imports names from the module of declarations and from the one that sends requests, and
binds names of its own. No name is bound twice, if everything that an operation refers to is
declared: then what a module imports has no name that a schema may not have.

## Main definitions

* `ClientGen.Package.ControllerModule.scope`, `ClientGen.Package.Factory.scope` : the names that a
  module binds.
* `ClientGen.Package.DeclaresModels` : everything that an operation refers to is declared.

## Main results

* `ClientGen.Package.nodup_scope_of_ofClient` : no module of a package binds a name twice.
-/

namespace ClientGen.Package

open TypeScript

/-- The names that the module of a controller imports or exports. -/
def ControllerModule.scope (m : ControllerModule) : List String :=
  ["ApiContext", "RequestConfig", "request", m.wrapper] ++ m.imports ++ m.functions.map (·.name)

/-- The names that the module of the factory imports or exports. -/
def Factory.scope (m : Factory) : List String :=
  ["API", "ApiContext", "createContext", m.wrapper] ++ m.imports ++ [m.configName, "createClient"]

/-- The declarations that bodies and responses refer to are those of schemas of the components. -/
def DeclaresModels (c : Client) : Prop :=
  ∃ declared, modelNames (.ofFields c.components) = .ok declared ∧
    ∀ e ∈ c.controllers, ∀ o ∈ e.2, ∀ s ∈ jsonSchemasOf o, ∀ n, s.Names n → n ∈ declared

/-! ### Names that differ -/

variable {declared : List String}

/-- The names that no schema may have, apart from that of the interface for the options. -/
def fixedNames : List String := contextExports ++ ["API", "createClient"]

/-- The alias for responses starts like none of the fixed names. -/
theorem wrapperName_not_mem_fixedNames : wrapperName declared ∉ fixedNames := by
  intro h
  obtain ⟨k, hk, -⟩ := exists_wrapperName_eq declared
  have hstart : ∀ n ∈ fixedNames, "ApiResponse".toList.isPrefixOf n.toList = false := by decide
  have hprefix : "ApiResponse".toList.isPrefixOf (wrapperName declared).toList = true := by
    rw [hk, wrapperCandidate, String.toList_append, List.isPrefixOf_iff_prefix]
    exact List.prefix_append _ _
  rw [hstart _ h] at hprefix
  cases hprefix

theorem getLast?_configName (title : String) :
    (configName title).toList.getLast? = some 'g' := by
  simp [configName]

/-- The interface for the options ends like no other name that the module of the factory binds. -/
theorem configName_ne {title s : String} (h : s.toList.getLast? ≠ some 'g') :
    configName title ≠ s := by
  rintro rfl
  exact h (getLast?_configName title)

theorem wrapperName_ne_configName (title : String) : wrapperName declared ≠ configName title := by
  intro h
  obtain ⟨k, hk, -⟩ := exists_wrapperName_eq declared
  have hend := congrArg (·.toList.getLast?) (hk.symm.trans h)
  simp only [getLast?_configName, wrapperCandidate, String.toList_append,
    String.toList_ofList] at hend
  cases k with
  | zero => exact absurd hend (by decide)
  | succ k =>
    rw [List.replicate_succ', ← List.append_assoc, List.getLast?_concat] at hend
    exact absurd hend (by decide)

/-! ### Scopes -/

/-- A module binds no name twice if its imports are declared: the names that stand around the
imports are distinct, and none of them is declared. -/
theorem nodup_append_modelsOf {fixed own : List String} {functions : List RequestFunction}
    (himports : modelsOf functions ⊆ declared) (hfixed : ∀ n ∈ fixed, n ∉ declared)
    (hown : ∀ n ∈ own, n ∉ declared) (hnodup : (fixed ++ own).Nodup) :
    (fixed ++ modelsOf functions ++ own).Nodup := by
  obtain ⟨hfixedNodup, hownNodup, hdisjoint⟩ := List.nodup_append'.mp hnodup
  have hmodels : (modelsOf functions).Nodup := Text.nodup_alphabetical _
  refine (hfixedNodup.append hmodels fun n hn hmem => hfixed n hn (himports hmem)).append
    hownNodup fun n hn hmem => ?_
  rcases List.mem_append.mp hn with hn | hn
  · exact hdisjoint hn hmem
  · exact hown n hmem (himports hn)

/-- Fixed names and the alias for responses are distinct names that are not declared. -/
theorem nodup_append_wrapperName {fixed : List String} (hnodup : fixed.Nodup)
    (hfixed : fixed ⊆ fixedNames) (hdeclared : ∀ n ∈ declared, n ∉ fixedNames) :
    (fixed ++ [wrapperName declared]).Nodup ∧
      ∀ n ∈ fixed ++ [wrapperName declared], n ∉ declared := by
  have hwrapper : wrapperName declared ∉ fixed := fun h => wrapperName_not_mem_fixedNames (hfixed h)
  refine ⟨hnodup.append (List.nodup_singleton _) (List.disjoint_singleton.mpr hwrapper), ?_⟩
  refine List.forall_mem_append.mpr ⟨fun n hn hmem => hdeclared n hmem (hfixed hn), ?_⟩
  exact List.forall_mem_singleton.mpr (wrapperName_not_mem declared)

/-- The module of a controller binds no name twice. -/
theorem nodup_controllerScope {functions : List RequestFunction}
    (himports : modelsOf functions ⊆ declared) (hdeclared : ∀ n ∈ declared, n ∉ fixedNames)
    (hfunctions : (functions.map (·.name)).Nodup)
    (huntaken : ∀ n ∈ functions.map (·.name),
      n ∉ contextExports ++ declared ++ [wrapperName declared]) :
    (ControllerModule.mk (wrapperName declared) functions).scope.Nodup := by
  have hcontext : ["ApiContext", "RequestConfig", "request"] ⊆ contextExports := by decide
  obtain ⟨hnodup, hfree⟩ := nodup_append_wrapperName (by decide)
    (List.Subset.trans hcontext (List.subset_append_left _ _)) hdeclared
  refine nodup_append_modelsOf himports hfree (fun n hn hmem => ?_)
    (hnodup.append hfunctions fun n hn hmem => ?_)
  · exact huntaken n hn (List.mem_append_left _ (List.mem_append_right _ hmem))
  · rcases List.mem_append.mp hn with hn | hn
    · exact huntaken n hmem (List.mem_append_left _ (List.mem_append_left _ (hcontext hn)))
    · exact huntaken n hmem (List.mem_append_right _ hn)

theorem not_mem_reservedSchemaNames_iff {title n : String} :
    n ∉ reservedSchemaNames title ↔ n ∉ fixedNames ∧ n ≠ configName title := by
  have hreserved : reservedSchemaNames title = fixedNames ++ [configName title] := rfl
  rw [hreserved, List.mem_append, List.mem_singleton, not_or]

/-- The module of the factory binds no name twice. -/
theorem nodup_factoryScope {title baseUrl : String} {functions : List RequestFunction}
    (himports : modelsOf functions ⊆ declared)
    (hdeclared : ∀ n ∈ declared, n ∉ reservedSchemaNames title) :
    (Factory.mk (configName title) baseUrl (wrapperName declared) functions).scope.Nodup := by
  have hundeclared : ∀ n ∈ declared, n ∉ fixedNames ∧ n ≠ configName title :=
    fun n hn => not_mem_reservedSchemaNames_iff.mp (hdeclared n hn)
  have hfixed : ["API", "ApiContext", "createContext"] ⊆ fixedNames := by decide
  have hcreate : "createClient" ∈ fixedNames := by decide
  obtain ⟨hnodup, hfree⟩ := nodup_append_wrapperName (by decide) hfixed
    fun n hn => (hundeclared n hn).1
  have hown : ∀ n ∈ [configName title, "createClient"], n ∉ declared :=
    List.forall_mem_cons.mpr ⟨fun hmem => (hundeclared _ hmem).2 rfl,
      List.forall_mem_singleton.mpr fun hmem => (hundeclared _ hmem).1 hcreate⟩
  have hownNodup : [configName title, "createClient"].Nodup :=
    List.nodup_cons.mpr ⟨List.mem_singleton.not.mpr (configName_ne (by decide)),
      List.nodup_singleton _⟩
  refine nodup_append_modelsOf himports hfree hown (hnodup.append hownNodup fun n hn hmem => ?_)
  have hend : ∀ n ∈ ["API", "ApiContext", "createContext"],
      n.toList.getLast? ≠ some 'g' ∧ n ≠ "createClient" := by decide
  rcases List.mem_append.mp hn with hn | hn
  · rcases List.mem_pair.mp hmem with rfl | rfl
    · exact (hend _ hn).1 (getLast?_configName title)
    · exact (hend _ hn).2 rfl
  · obtain rfl := List.mem_singleton.mp hn
    rcases List.mem_pair.mp hmem with heq | heq
    · exact wrapperName_ne_configName title heq
    · exact wrapperName_not_mem_fixedNames (heq ▸ hcreate)

/-! ### Packages -/

theorem alphabetical_eq_nil_iff {names : List String} :
    Text.alphabetical names = [] ↔ names = [] := by
  simp only [List.eq_nil_iff_forall_not_mem, mem_alphabetical]

/-- No schema is found to have a name that other declarations have, if none has one. -/
theorem clashes_eq_nil_iff {title : String} :
    Text.alphabetical (declared.filter (reservedSchemaNames title).contains) = [] ↔
      ∀ n ∈ declared, n ∉ reservedSchemaNames title := by
  simp [alphabetical_eq_nil_iff, List.filter_eq_nil_iff]

/-- A package is generated only if no schema has a name that other declarations have. -/
theorem not_mem_reservedSchemaNames {c : Client} {packageName : String}
    {fs : List (String × String)} (h : ofClient c packageName = .ok fs)
    (hdeclared : modelNames (.ofFields c.components) = .ok declared) :
    ∀ n ∈ declared, n ∉ reservedSchemaNames c.name := by
  unfold ofClient at h
  simp only [hdeclared] at h
  obtain ⟨_, hrendered, h⟩ := Except.bind_eq_ok.mp h
  obtain rfl := Except.ok.inj hrendered
  split at h
  · cases h
  · rename_i hclash
    refine clashes_eq_nil_iff.mp ?_
    cases hclashes : Text.alphabetical
        (declared.filter (reservedSchemaNames c.name).contains) with
    | nil => rfl
    | cons clash rest => exact absurd hclashes (hclash clash rest)

theorem modelsOf_subset_of_declaresModels {c : Client} {files : List ControllerFile}
    (hc : DeclaresModels c) (hdeclared : modelNames (.ofFields c.components) = .ok declared)
    (hfiles : List.Forall₂ Implements c.emittable files) :
    ∀ file ∈ files, ∀ f ∈ file.functions, f.models ⊆ declared := by
  obtain ⟨names, hnames, hreferred⟩ := hc
  obtain rfl := Except.ok.inj (hnames.symm.trans hdeclared)
  intro file hfile f hf n hn
  obtain ⟨e, he, o, ho, hof⟩ := exists_operation_of_implements hfiles hfile hf
  obtain ⟨s, hs, hn⟩ := exists_jsonSchema_of_ofOperation hof hn
  exact hreferred e (List.mem_filter.mp he).1 o ho s hs n hn

/-- **Scopes of modules.** If all declarations that bodies and responses refer to are there, no
module of a controller binds a name twice, nor does the module of the factory. -/
theorem nodup_scope_of_ofClient {c : Client} {packageName : String} {fs : List (String × String)}
    (hc : DeclaresModels c) (h : ofClient c packageName = .ok fs) :
    ∃ models text controllers, modulesOf c = .ok (models, controllers) ∧
      fs = files c packageName models.wrapper text controllers ∧
      (∀ file ∈ controllers, (ControllerModule.mk models.wrapper file.functions).scope.Nodup) ∧
      (Factory.mk (configName c.name) c.baseUrl models.wrapper
        (controllers.flatMap (·.functions))).scope.Nodup := by
  obtain ⟨models, text, controllers, hmodules, -, hfs⟩ := ofClient_eq_ok h
  obtain ⟨hwrapper, hnames, hfit, hcontrollers⟩ := fit_of_modulesOf hmodules
  have hreserved := not_mem_reservedSchemaNames h hnames
  have hmodels := modelsOf_subset_of_declaresModels hc hnames hcontrollers
  rw [hwrapper] at hfit
  refine ⟨models, text, controllers, hmodules, hfs, fun file hfile => ?_, ?_⟩
  · have hfunctions : (file.functions.map (·.name)).Sublist (functionNames controllers) :=
      List.sublist_flatten_of_mem (List.mem_map_of_mem hfile)
    rw [hwrapper]
    exact nodup_controllerScope (modelsOf_subset_iff.mpr (hmodels file hfile))
      (fun n hn => (not_mem_reservedSchemaNames_iff.mp (hreserved n hn)).1)
      (hfit.functions.sublist hfunctions)
      fun n hn => hfit.untaken n (hfunctions.subset hn)
  · rw [hwrapper]
    refine nodup_factoryScope (modelsOf_subset_iff.mpr fun f hf => ?_) hreserved
    obtain ⟨file, hfile, hf⟩ := List.mem_flatMap.mp hf
    exact hmodels file hfile f hf

/-- A body or a response whose schema in JSON is the handle of the schema of that name. -/
def referring (name : String) : Fields :=
  [("content", .ofFields [("application/json", .ofFields
    [("schema", (SchemaHandle.named (some name) .schema true).node)])])]

/-- A client whose only operation takes a pet and answers with one. -/
def petExchange : Client where
  controllers := [("pets", [{
    method := .post, path := "/pets", operationId := "exchangePet"
    requestBody := some (referring "Pet")
    responses := some [("200", .ofFields (referring "Pet"))] }])]
  components := [("schemas", .ofFields [("Pet", .ofFields [("type", .text "object")])])]
  name := "Pet shop"

theorem declaresModels_petExchange : DeclaresModels petExchange := by
  have hall : ∀ e ∈ petExchange.controllers, ∀ o ∈ e.2, ∀ s ∈ jsonSchemasOf o, s.Plain ∧
      ∀ w ∈ s.within fun _ => true, (w.field "modelName").asText? ∈ [none, some "Pet"] := by
    decide +kernel
  refine ⟨["Pet"], by decide +kernel, fun e he o ho s hs n hn => ?_⟩
  obtain ⟨hplain, hnames⟩ := hall e he o ho s hs
  obtain ⟨w, name, hw, ⟨-, hname⟩, rfl⟩ := hn
  have hmem := hnames w (Value.mem_within_of_holds hplain hw)
  rw [hname] at hmem
  obtain rfl : name = "Pet" := by simpa using hmem
  decide

theorem nodup_scope_of_ofClient_petExchange :
    DeclaresModels petExchange ∧ ∃ fs, ofClient petExchange "pet-shop" = .ok fs ∧
      ∃ models text controllers, modulesOf petExchange = .ok (models, controllers) ∧
        fs = files petExchange "pet-shop" models.wrapper text controllers ∧
        (∀ file ∈ controllers, (ControllerModule.mk models.wrapper file.functions).scope.Nodup) ∧
        (Factory.mk (configName petExchange.name) petExchange.baseUrl models.wrapper
          (controllers.flatMap (·.functions))).scope.Nodup := by
  have hfiles : ∃ fs, ofClient petExchange "pet-shop" = .ok fs := by decide +kernel
  obtain ⟨fs, hfiles⟩ := hfiles
  exact ⟨declaresModels_petExchange, fs, hfiles,
    nodup_scope_of_ofClient declaresModels_petExchange hfiles⟩

end ClientGen.Package
