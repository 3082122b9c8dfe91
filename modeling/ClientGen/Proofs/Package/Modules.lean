import Mathlib.Data.List.Nodup
import ClientGen.Package.Basic
import ClientGen.Proofs.TypeScript.Names

/-!
# Modules of a package

A package is generated from the components and the controllers of a client: its module of
declarations declares every schema of the components under a name of its own, and the functions of a
controller are those for its operations. No two modules of controllers have one name, nor do any two
of their functions, wherever they stand.

## Main definitions

* `ClientGen.Package.Fit` : modules that can stand in one package.
* `ClientGen.Package.Implements` : the module of a controller.
* `ClientGen.Package.ModelsModule.names` : the names that the module of declarations declares for
  schemas.
* `ClientGen.Package.modulesOf` : the modules that differ between packages.

## Main results

* `ClientGen.Package.fit_of_controllerFiles` : modules that are accepted can stand in one package.
* `ClientGen.Package.exists_operation_of_implements` : where the functions come from.
* `ClientGen.Package.modelNames_of_ofComponents` : the declared names are those of the schemas.
* `ClientGen.Package.ofClient_eq_ok` : a generated package is made of the modules of the client.
-/

namespace ClientGen.Package

open TypeScript

theorem rendered_eq_ok {α : Type} {x : Except Fault α} {a : α} :
    rendered x = .ok a ↔ x = .ok a := by
  cases x with
  | ok b => simp [rendered]
  | error f => cases f <;> simp [rendered]

/-! ### Modules in one package -/

section Fitting

variable {taken : List String} {done files : List ControllerFile} {controller moduleName : String}

/-- The names of the functions of modules. -/
def functionNames (files : List ControllerFile) : List String :=
  files.flatMap fun file => file.functions.map (·.name)

/-- Modules that can stand in one package: each has a name of its own, and so has each function. -/
structure Fit (taken : List String) (files : List ControllerFile) : Prop where
  /-- No module has the name of one that every package has. -/
  unreserved : ∀ file ∈ files, file.moduleName ∉ reservedModules
  /-- No two modules have one name. -/
  modules : (files.map (·.moduleName)).Nodup
  /-- No two functions have one name. -/
  functions : (functionNames files).Nodup
  /-- No function has a name that is taken. -/
  untaken : ∀ n ∈ functionNames files, n ∉ taken

/-- The module is that of the controller, with one function for each of its operations. -/
structure Implements (e : String × List Operation) (file : ControllerFile) : Prop where
  /-- It is the module of the controller. -/
  controller : file.controller = e.1
  /-- It is named for the controller. -/
  moduleName : file.moduleName = typeName e.1
  /-- Its functions are those for the operations, in order. -/
  functions : List.Forall₂ (fun o f => RequestFunction.ofOperation o = .ok f) e.2 file.functions

theorem ownerOf_eq_none_iff {name : String} :
    ownerOf files name = none ↔ name ∉ functionNames files := by
  simp only [ownerOf, Option.map_eq_none_iff, List.find?_eq_none, List.any_eq_true,
    decide_eq_true_eq, functionNames, List.mem_flatMap, List.mem_map, not_exists, not_and]

/-- An operation gets its function if the name is free. -/
theorem functionFor_eq_ok {o : Operation} {f : RequestFunction} :
    functionFor taken files controller o = .ok f ↔ RequestFunction.ofOperation o = .ok f ∧
      f.name ∉ functionNames files ∧ f.name ∉ taken := by
  simp only [functionFor, Except.bind_eq_ok, rendered_eq_ok, ← ownerOf_eq_none_iff]
  constructor
  · rintro ⟨g, hg, h⟩
    split at h
    · cases h
    · rename_i hfree
      split at h
      · cases h
      · rename_i huntaken
        obtain rfl := Except.pure_eq_ok.mp h
        exact ⟨hg, hfree, by simpa using huntaken⟩
  · rintro ⟨hf, hfree, huntaken⟩
    refine ⟨f, hf, ?_⟩
    simp only [hfree]
    rw [if_neg (by simpa using huntaken)]
    rfl

/-- A module stays fit with one more function whose name is free. -/
theorem Fit.concat {fs : List RequestFunction} {f : RequestFunction}
    (h : Fit taken (done ++ [{ controller, moduleName, functions := fs }]))
    (hfree : f.name ∉ functionNames (done ++ [{ controller, moduleName, functions := fs }]))
    (huntaken : f.name ∉ taken) :
    Fit taken (done ++ [{ controller, moduleName, functions := fs ++ [f] }]) := by
  have hnames : functionNames (done ++ [{ controller, moduleName, functions := fs ++ [f] }]) =
      functionNames (done ++ [{ controller, moduleName, functions := fs }]) ++ [f.name] := by
    simp [functionNames]
  obtain ⟨hdone, hlast⟩ := List.forall_mem_append.mp h.unreserved
  have hmodule : moduleName ∉ reservedModules := hlast _ (List.mem_singleton_self _)
  refine ⟨?_, by simpa using h.modules, ?_, ?_⟩
  · refine List.forall_mem_append.mpr ⟨hdone, fun file hfile => ?_⟩
    rwa [List.mem_singleton.mp hfile]
  · rw [hnames]
    exact h.functions.append (List.nodup_singleton _) (List.disjoint_singleton.mpr hfree)
  · rw [hnames]
    exact List.forall_mem_append.mpr ⟨h.untaken, List.forall_mem_singleton.mpr huntaken⟩

/-- The functions for operations keep a module fit. -/
theorem fit_of_functionsFor {os : List Operation} {fs gs : List RequestFunction}
    (h : functionsFor taken done controller moduleName fs os = .ok gs)
    (hfit : Fit taken (done ++ [{ controller, moduleName, functions := fs }])) :
    Fit taken (done ++ [{ controller, moduleName, functions := gs }]) ∧ ∃ new, gs = fs ++ new ∧
      List.Forall₂ (fun o f => RequestFunction.ofOperation o = .ok f) os new := by
  induction os generalizing fs with
  | nil =>
    obtain rfl := Except.ok.inj h
    exact ⟨hfit, [], by simp, .nil⟩
  | cons o os ih =>
    obtain ⟨f, hf, h⟩ := Except.bind_eq_ok.mp h
    obtain ⟨hof, hfree, huntaken⟩ := functionFor_eq_ok.mp hf
    obtain ⟨hfit, new, rfl, hnew⟩ := ih h (hfit.concat hfree huntaken)
    exact ⟨hfit, f :: new, by simp, .cons hof hnew⟩

/-- The module of a controller fits to the modules in front of it. -/
theorem fit_of_controllerFile {os : List Operation} {file : ControllerFile}
    (h : controllerFile taken done controller os = .ok file) (hfit : Fit taken done) :
    Fit taken (done ++ [file]) ∧ Implements (controller, os) file := by
  unfold controllerFile at h
  simp only at h
  split at h
  · cases h
  · rename_i hunreserved
    split at h
    · cases h
    · rename_i hfind
      obtain ⟨gs, hgs, h⟩ := Except.bind_eq_ok.mp h
      obtain rfl := Except.pure_eq_ok.mp h
      have hother : ∀ other ∈ done, other.moduleName ≠ typeName controller := by
        intro other hmem heq
        have hsome : (done.find? (·.moduleName = typeName controller)).isSome := by
          rw [List.find?_isSome]
          exact ⟨other, hmem, by simpa using heq⟩
        obtain ⟨x, hx⟩ := Option.isSome_iff_exists.mp hsome
        exact hfind x hx
      have hempty : Fit taken
          (done ++ [{ controller, moduleName := typeName controller, functions := [] }]) := by
        refine ⟨?_, ?_, by simpa [functionNames] using hfit.functions,
          by simpa [functionNames] using hfit.untaken⟩
        · refine List.forall_mem_append.mpr ⟨hfit.unreserved, List.forall_mem_singleton.mpr ?_⟩
          simpa using hunreserved
        · rw [List.map_append]
          refine hfit.modules.append (List.nodup_singleton _) (List.disjoint_singleton.mpr ?_)
          simpa using hother
      obtain ⟨hfit, new, rfl, hnew⟩ := fit_of_functionsFor hgs hempty
      exact ⟨hfit, rfl, rfl, by simpa using hnew⟩

/-- **The modules of the controllers.** Every controller has its module, with a function for each of
its operations, and all these modules can stand in one package. -/
theorem fit_of_controllerFiles {t : Table String (List Operation)}
    (h : controllerFiles taken done t = .ok files) (hfit : Fit taken done) :
    Fit taken files ∧ ∃ new, files = done ++ new ∧ List.Forall₂ Implements t new := by
  induction t generalizing done with
  | nil =>
    obtain rfl := Except.ok.inj h
    exact ⟨hfit, [], by simp, .nil⟩
  | cons e t ih =>
    obtain ⟨controller, os⟩ := e
    obtain ⟨file, hfile, h⟩ := Except.bind_eq_ok.mp h
    obtain ⟨hfit, himplements⟩ := fit_of_controllerFile hfile hfit
    obtain ⟨hfit, new, rfl, hnew⟩ := ih h hfit
    exact ⟨hfit, file :: new, by simp, .cons himplements hnew⟩

theorem fit_nil : Fit taken [] :=
  ⟨List.forall_mem_nil _, List.nodup_nil, List.nodup_nil, List.forall_mem_nil _⟩

/-- The functions of the modules are those for the operations of the controllers. -/
theorem exists_operation_of_implements {t : Table String (List Operation)}
    (h : List.Forall₂ Implements t files) {file : ControllerFile} (hfile : file ∈ files)
    {g : RequestFunction} (hg : g ∈ file.functions) :
    ∃ e ∈ t, ∃ o ∈ e.2, RequestFunction.ofOperation o = .ok g := by
  obtain ⟨e, he, himplements⟩ := exists_of_forall₂ h hfile
  obtain ⟨o, ho, hof⟩ := exists_of_forall₂ himplements.functions hg
  exact ⟨e, he, o, ho, hof⟩

theorem map_moduleName_of_implements {t : Table String (List Operation)}
    (h : List.Forall₂ Implements t files) :
    files.map (·.moduleName) = t.map fun e => typeName e.1 := by
  induction h with
  | nil => rfl
  | cons h _ ih => rw [List.map_cons, List.map_cons, h.moduleName, ih]

end Fitting

/-! ### Declarations -/

/-- The names that the module declares for schemas. -/
def ModelsModule.names (m : ModelsModule) : List String := m.declarations.map (·.name)

/-- The module has a declaration for every schema. -/
theorem forall₂_of_ofComponents {components : Value} {wrapper : String} {m : ModelsModule}
    (h : ModelsModule.ofComponents components (some wrapper) = .ok m) :
    m.wrapper = wrapper ∧ ∃ schemas es, schemasOf components = .ok schemas ∧
      schemas.entries? = some es ∧ List.Forall₂ (fun e d => ∃ key, e.1 = .text key ∧
        Declaration.ofSchema key e.2 = .ok d) es m.declarations := by
  obtain ⟨schemas, hschemas, h⟩ := Except.bind_eq_ok.mp h
  split at h
  · cases h
  · rename_i es hes
    obtain ⟨ds, hds, h⟩ := Except.bind_eq_ok.mp h
    obtain rfl := Except.pure_eq_ok.mp h
    refine ⟨rfl, schemas, es, hschemas, hes, (mapM_eq_ok_iff.mp hds).imp fun e d hd => ?_⟩
    obtain ⟨key, hkey, hd⟩ := Except.bind_eq_ok.mp hd
    refine ⟨key, ?_, hd⟩
    unfold keyOf at hkey
    split at hkey
    · rename_i s hs
      rw [hs, Except.ok.inj hkey]
    · cases hkey

/-- The module has a declaration for every schema, which uses the names of handles in it. -/
theorem ofComponents_eq_ok {components : Value} {wrapper : String} {m : ModelsModule}
    (h : ModelsModule.ofComponents components (some wrapper) = .ok m) :
    m.wrapper = wrapper ∧ ∃ schemas es, schemasOf components = .ok schemas ∧
      schemas.entries? = some es ∧ List.Forall₂ (fun e d => ∃ key, e.1 = .text key ∧
        d.name = typeName key ∧ ∀ n ∈ d.models, e.2.Names n) es m.declarations := by
  obtain ⟨hwrapper, schemas, es, hschemas, hes, hds⟩ := forall₂_of_ofComponents h
  refine ⟨hwrapper, schemas, es, hschemas, hes, hds.imp fun e d ⟨key, hkey, hd⟩ => ?_⟩
  exact ⟨key, hkey, names_of_ofSchema hd⟩

/-- The declared names are those of the schemas. -/
theorem modelNames_of_ofComponents {components : Value} {wrapper : String} {m : ModelsModule}
    (h : ModelsModule.ofComponents components (some wrapper) = .ok m) :
    modelNames components = .ok m.names := by
  obtain ⟨-, schemas, es, hschemas, hes, hds⟩ := ofComponents_eq_ok h
  have helements : schemas.elements = .ok (es.map fun e => .scalar e.1) := by
    rw [Value.elements, Value.entries?_eq_some.mp hes]
  have hnames : (es.map fun e => Value.scalar e.1).mapM declaredName = .ok m.names := by
    rw [mapM_eq_ok_iff, ModelsModule.names, List.forall₂_map_left_iff, List.forall₂_map_right_iff]
    refine hds.imp fun e d hd => ?_
    obtain ⟨key, hkey, hname, -⟩ := hd
    rw [hkey, hname]
    rfl
  rw [modelNames, hschemas]
  simp only [bind, Except.bind, helements, hnames]

/-! ### Packages -/

/-- The modules that differ between packages: that of the declarations and those of the
controllers. -/
def modulesOf (c : Client) : Except Problem (ModelsModule × List ControllerFile) := do
  let components := Value.ofFields c.components
  let declared ← rendered (modelNames components)
  let wrapper := wrapperName declared
  let controllers ← controllerFiles (contextExports ++ declared ++ [wrapper]) [] c.emittable
  let models ← rendered (ModelsModule.ofComponents components (some wrapper))
  return (models, controllers)

theorem modulesOf_eq_ok {c : Client} {models : ModelsModule} {controllers : List ControllerFile}
    (h : modulesOf c = .ok (models, controllers)) :
    ∃ taken wrapper, controllerFiles taken [] c.emittable = .ok controllers ∧
      ModelsModule.ofComponents (.ofFields c.components) (some wrapper) = .ok models := by
  simp only [modulesOf, Except.bind_eq_ok, Except.pure_eq_ok, Prod.mk.injEq] at h
  obtain ⟨declared, -, _, hcontrollers, _, hmodels, rfl, rfl⟩ := h
  exact ⟨_, _, hcontrollers, rendered_eq_ok.mp hmodels⟩

/-- The modules of a client can stand in one package, in which the functions may have neither the
names of declarations nor those that the module for requests exports. -/
theorem fit_of_modulesOf {c : Client} {models : ModelsModule} {controllers : List ControllerFile}
    (h : modulesOf c = .ok (models, controllers)) :
    models.wrapper = wrapperName models.names ∧
      modelNames (.ofFields c.components) = .ok models.names ∧
      Fit (contextExports ++ models.names ++ [models.wrapper]) controllers ∧
      List.Forall₂ Implements c.emittable controllers := by
  simp only [modulesOf, Except.bind_eq_ok, Except.pure_eq_ok, Prod.mk.injEq] at h
  obtain ⟨declared, hdeclared, _, hcontrollers, _, hmodels, rfl, rfl⟩ := h
  have hmodels := rendered_eq_ok.mp hmodels
  have hnames := modelNames_of_ofComponents hmodels
  obtain rfl := Except.ok.inj ((rendered_eq_ok.mp hdeclared).symm.trans hnames)
  rw [(ofComponents_eq_ok hmodels).1]
  obtain ⟨hfit, new, rfl, hnew⟩ := fit_of_controllerFiles hcontrollers fit_nil
  exact ⟨rfl, hnames, hfit, hnew⟩

/-- A generated package is made of the modules of the client. -/
theorem ofClient_eq_ok {c : Client} {packageName : String} {fs : List (String × String)}
    (h : ofClient c packageName = .ok fs) :
    ∃ models text controllers, modulesOf c = .ok (models, controllers) ∧
      models.text = .ok text ∧ fs = files c packageName models.wrapper text controllers := by
  unfold ofClient at h
  simp only at h
  obtain ⟨declared, hdeclared, h⟩ := Except.bind_eq_ok.mp h
  split at h
  · cases h
  · obtain ⟨controllers, hcontrollers, h⟩ := Except.bind_eq_ok.mp h
    obtain ⟨models, hmodels, h⟩ := Except.bind_eq_ok.mp h
    obtain ⟨text, htext, h⟩ := Except.bind_eq_ok.mp h
    obtain rfl := Except.pure_eq_ok.mp h
    refine ⟨models, text, controllers, ?_, rendered_eq_ok.mp htext, ?_⟩
    · rw [modulesOf, hdeclared]
      simp only [bind, Except.bind, hcontrollers, hmodels]
      rfl
    · rw [(ofComponents_eq_ok (rendered_eq_ok.mp hmodels)).1]

end ClientGen.Package
