import ClientGen.Proofs.Package.Scopes
import ClientGen.Proofs.TypeScript.Faults
import ClientGen.Proofs.Value.Json

/-!
# Faults of packages

The package of a client is generated, or fails as foreseen, with a failure that is reported as a
matter of the package or of depth, except where a schema of an operation or a named schema has no
type, or where the named schemas are no mapping with texts for keys. A fault is raised by what has
it first: the names of all declarations come first, then the operations in turn, then the
declarations in turn, and the names of the members of interfaces come last.

## Main definitions

* `ClientGen.Failure.ConcernsPackage` : failures that are reported as a matter of the package or of
  depth.
* `ClientGen.Package.Unnameable`, `ClientGen.Package.Undeclared` : schemas that have no names for
  their declarations, and schemas that cannot all be declared.
* `ClientGen.Package.Escapes` : where generating a package fails unforeseen.

## Main results

* `ClientGen.Package.controllerFiles_eq_fault_iff` : the faults of the modules of controllers.
* `ClientGen.Package.breaks_ofComponents` : the faults of the module of declarations.
* `ClientGen.Package.outcome_of_ofClient` : the failures and faults of generating a package.
-/

namespace ClientGen

variable {f : Fault} {p : Problem}

/-- The failure is reported as a matter of the package or of depth. -/
def Failure.ConcernsPackage (g : Failure) : Prop :=
  g.report.category = .emission ∨ g.report.category = .depth

namespace Package

open TypeScript

variable {taken : List String} {done files : List ControllerFile} {controller moduleName : String}

theorem rendered_eq_fault {α : Type} {x : Except Fault α} :
    rendered x = .error (.fault f) ↔ Breaks x f := by
  cases x with
  | ok a => exact iff_of_false nofun not_breaks_ok
  | error g => cases g <;> simp [rendered, breaks_error, eq_comm]

theorem rendered_eq_failure {α : Type} {x : Except Fault α} {g : Failure}
    (h : rendered x = .error (.failure g)) : g = .tooDeepToRender := by
  unfold rendered at h
  split at h <;> cases h
  rfl

/-! ### Controllers -/

theorem functionsFor_eq_foldlM (os : List Operation) (fs : List RequestFunction) :
    functionsFor taken done controller moduleName fs os = os.foldlM (fun fs o => do
      return fs ++ [← functionFor taken (done ++ [{ controller, moduleName, functions := fs }])
        controller o]) fs := by
  induction os generalizing fs with
  | nil => rfl
  | cons o os ih => simp only [functionsFor, ih, List.foldlM_cons, bind_assoc, pure_bind]

theorem controllerFiles_eq_foldlM (t : Table String (List Operation))
    (done : List ControllerFile) :
    controllerFiles taken done t = t.foldlM (fun done e => do
      return done ++ [← controllerFile taken done e.1 e.2]) done := by
  induction t generalizing done with
  | nil => rfl
  | cons e t ih => simp only [controllerFiles, ih, List.foldlM_cons, bind_assoc, pure_bind]

/-- The functions for operations fail with the first one that fails. -/
theorem functionsFor_eq_error_iff {os : List Operation} {fs : List RequestFunction} :
    functionsFor taken done controller moduleName fs os = .error p ↔
      ∃ before o after gs, os = before ++ o :: after ∧
        functionsFor taken done controller moduleName fs before = .ok gs ∧
        functionFor taken (done ++ [{ controller, moduleName, functions := gs }]) controller o =
          .error p := by
  simp only [functionsFor_eq_foldlM, foldlM_eq_error_iff, Except.bind_pure_eq_error]

/-- The modules of controllers fail with the first one that fails. -/
theorem controllerFiles_eq_error_iff {t : Table String (List Operation)} :
    controllerFiles taken done t = .error p ↔
      ∃ before e after files, t = before ++ e :: after ∧
        controllerFiles taken done before = .ok files ∧
        controllerFile taken files e.1 e.2 = .error p := by
  simp only [controllerFiles_eq_foldlM, foldlM_eq_error_iff, Except.bind_pure_eq_error]

theorem functionFor_eq_fault_iff {o : Operation} :
    functionFor taken files controller o = .error (.fault f) ↔ Uncallable o f := by
  rw [functionFor, Except.bind_eq_error, rendered_eq_fault, breaks_ofOperation]
  refine or_iff_left ?_
  rintro ⟨g, -, h⟩
  split at h
  · cases h
  · split at h <;> cases h

theorem concernsPackage_of_functionFor {o : Operation} {g : Failure}
    (h : functionFor taken files controller o = .error (.failure g)) : g.ConcernsPackage := by
  rcases Except.bind_eq_error.mp h with h | ⟨_, -, h⟩
  · exact rendered_eq_failure h ▸ .inr rfl
  · split at h
    · cases h
      exact .inl rfl
    · split at h <;> cases h
      exact .inl rfl

/-- A module is refused for its name, whatever the operations are, or it gets its functions. -/
theorem controllerFile_cases (taken : List String) (done : List ControllerFile)
    (controller : String) :
    (∃ g : Failure, g.ConcernsPackage ∧
      ∀ os, controllerFile taken done controller os = .error (.failure g)) ∨
    ∀ os, controllerFile taken done controller os = (do
      let functions ← functionsFor taken done controller (typeName controller) [] os
      return { controller, moduleName := typeName controller, functions }) := by
  unfold controllerFile
  simp only
  split
  · exact .inl ⟨_, .inl rfl, fun _ => rfl⟩
  · split
    · exact .inl ⟨_, .inl rfl, fun _ => rfl⟩
    · exact .inr fun _ => rfl

/-- The module of a controller has a fault with the first operation that has one. -/
theorem controllerFile_eq_fault_iff {os : List Operation} :
    controllerFile taken done controller os = .error (.fault f) ↔
      ∃ before o after file, os = before ++ o :: after ∧
        controllerFile taken done controller before = .ok file ∧ Uncallable o f := by
  rcases controllerFile_cases taken done controller with ⟨g, -, hall⟩ | hall
  · simp [hall]
  · simp only [hall, Except.bind_eq_error, Except.bind_eq_ok, Except.pure_eq_ok,
      functionsFor_eq_error_iff, functionFor_eq_fault_iff]
    constructor
    · rintro (⟨before, o, after, gs, hos, hgs, h⟩ | ⟨_, -, h⟩)
      · exact ⟨before, o, after, _, hos, ⟨gs, hgs, rfl⟩, h⟩
      · cases h
    · rintro ⟨before, o, after, _, hos, ⟨gs, hgs, -⟩, h⟩
      exact .inl ⟨before, o, after, gs, hos, hgs, h⟩

theorem concernsPackage_of_controllerFile {os : List Operation} {g : Failure}
    (h : controllerFile taken done controller os = .error (.failure g)) : g.ConcernsPackage := by
  rcases controllerFile_cases taken done controller with ⟨g', hg, hall⟩ | hall
  · rw [hall] at h
    cases h
    exact hg
  · rw [hall] at h
    rcases Except.bind_eq_error.mp h with h | ⟨_, -, h⟩
    · obtain ⟨_, o, _, _, -, -, h⟩ := functionsFor_eq_error_iff.mp h
      exact concernsPackage_of_functionFor h
    · cases h

/-- Modules with one more are accepted if the others are and the last one is, next to them. -/
theorem exists_controllerFiles_concat_iff {t : Table String (List Operation)} {name : String}
    {os : List Operation} :
    (∃ files, controllerFiles taken done (t ++ [(name, os)]) = .ok files) ↔
      ∃ files file, controllerFiles taken done t = .ok files ∧
        controllerFile taken files name os = .ok file := by
  simp only [controllerFiles_eq_foldlM, List.foldlM_append, List.foldlM_cons, List.foldlM_nil,
    Except.bind_eq_ok, Except.pure_eq_ok]
  grind

/-- Modules of controllers have a fault with the first operation that has one, if the modules in
front of it and that of the operations in front of it are accepted. -/
theorem controllerFiles_eq_fault_iff {t : Table String (List Operation)} :
    controllerFiles taken done t = .error (.fault f) ↔
      ∃ before name front o back after, t = before ++ (name, front ++ o :: back) :: after ∧
        (∃ files, controllerFiles taken done (before ++ [(name, front)]) = .ok files) ∧
        Uncallable o f := by
  simp only [controllerFiles_eq_error_iff, controllerFile_eq_fault_iff,
    exists_controllerFiles_concat_iff]
  constructor
  · rintro ⟨before, ⟨name, _⟩, after, files, rfl, hfiles, front, o, back, file, rfl, hfile, h⟩
    exact ⟨before, name, front, o, back, after, rfl, ⟨files, file, hfiles, hfile⟩, h⟩
  · rintro ⟨before, name, front, o, back, after, rfl, ⟨files, file, hfiles, hfile⟩, h⟩
    exact ⟨before, _, after, files, rfl, hfiles, front, o, back, file, rfl, hfile, h⟩

theorem concernsPackage_of_controllerFiles {t : Table String (List Operation)} {g : Failure}
    (h : controllerFiles taken done t = .error (.failure g)) : g.ConcernsPackage := by
  obtain ⟨_, e, _, _, -, -, h⟩ := controllerFiles_eq_error_iff.mp h
  exact concernsPackage_of_controllerFile h

/-! ### Declarations -/

/-- The named schemas of a client. -/
def schemasIn (c : Client) : Value := (Value.ofFields c.components).field "schemas"

/-- The names of the schemas have no declarations. -/
inductive Unnameable (v : Value) : Fault → Prop
  /-- The schemas are no collection. -/
  | collection (hv : v.isFilled = true) (h : ∀ xs, v.elements ≠ .ok xs) :
      Unnameable v .collectionExpected
  /-- The name of a schema is no text. -/
  | name {xs : List Value} {x : Value} (hv : v.isFilled = true) (hxs : v.elements = .ok xs)
      (hx : x ∈ xs) (h : x.text? = none) : Unnameable v .textExpected

theorem schemasOf_components (c : Client) : schemasOf (.ofFields c.components) =
    .ok (if (schemasIn c).isFilled then schemasIn c else .mapping []) := rfl

theorem declaredName_eq_error {x : Value} :
    declaredName x = .error f ↔ f = .textExpected ∧ x.text? = none := by
  unfold declaredName Value.text?
  split <;> simp_all [eq_comm]

/-- The faults of the names of declarations. -/
theorem breaks_modelNames {c : Client} :
    Breaks (modelNames (.ofFields c.components)) f ↔ Unnameable (schemasIn c) f := by
  have hnames {xs : List Value} : Breaks (xs.mapM declaredName) f ↔
      f = .textExpected ∧ ∃ x ∈ xs, x.text? = none := by
    rw [Breaks, mapM_eq_error_iff_exists fun _ _ => declaredName_eq_error]
    grind
  rw [modelNames, schemasOf_components, Except.ok_bind, breaks_bind, Value.breaks_elements]
  simp only [hnames]
  cases hv : (schemasIn c).isFilled with
  | false =>
    have helements : (Value.mapping []).elements = .ok [] := rfl
    refine iff_of_false ?_ fun h => by cases h <;> simp_all
    simp [helements]
  | true =>
    rw [if_pos rfl]
    constructor
    · rintro (⟨rfl, hall⟩ | ⟨xs, hxs, rfl, x, hx, htext⟩)
      · exact .collection hv hall
      · exact .name hv hxs hx htext
    · rintro (⟨-, hall⟩ | ⟨-, hxs, hx, htext⟩)
      · exact .inl ⟨rfl, hall⟩
      · exact .inr ⟨_, hxs, rfl, _, hx, htext⟩

theorem nil_of_entries? {v : Value} {es : List (Scalar × Value)} (hv : v.isFilled = false)
    (hes : v.entries? = some es) : es = [] := by
  have hkeys := Document.keysOf_of_isFilled_eq_false hv
  rw [Document.keysOf, hes] at hkeys
  exact List.map_eq_nil_iff.mp hkeys

/-- If all schemas have names for their declarations, their own names are texts. -/
theorem exists_text_of_modelNames {c : Client} {declared : List String}
    (hc : modelNames (.ofFields c.components) = .ok declared) {es : List (Scalar × Value)}
    (hes : (schemasIn c).entries? = some es) {e : Scalar × Value} (he : e ∈ es) :
    ∃ name, e.1 = .text name := by
  by_contra hno
  have hfilled : (schemasIn c).isFilled = true := by
    by_contra hunfilled
    exact List.ne_nil_of_mem he (nil_of_entries? (by simpa using hunfilled) hes)
  have helements : (schemasIn c).elements = .ok (es.map fun e => .scalar e.1) := by
    rw [Value.elements, Value.entries?_eq_some.mp hes]
  have htext : (Value.scalar e.1).text? = none := by
    unfold Value.text?
    split
    · rename_i s hs
      exact absurd ⟨s, Value.scalar.inj hs⟩ hno
    · rfl
  have hbreaks := breaks_modelNames.mpr (.name hfilled helements (List.mem_map_of_mem he) htext)
  cases hc.symm.trans hbreaks.1

/-- The schemas cannot all be declared. -/
inductive Undeclared (v : Value) : Fault → Prop
  /-- The schemas are a collection, but no mapping. -/
  | mapping (hv : v.isFilled = true) (h : v.entries? = none) : Undeclared v .mappingExpected
  /-- A schema has no declaration, and those in front of it have theirs. -/
  | schema {f : Fault} {before after : List (Scalar × Value)} {e : Scalar × Value}
      (hes : v.entries? = some (before ++ e :: after))
      (hbefore : ∀ x ∈ before, ∃ name d, x.1 = .text name ∧ Declaration.ofSchema name x.2 = .ok d)
      (h : Undeclarable e.2 f) : Undeclared v f

/-- The faults of declarations, if all names are texts. -/
theorem breaks_ofComponents {c : Client} {declared : List String} {wrapper : String}
    (hc : modelNames (.ofFields c.components) = .ok declared) :
    Breaks (ModelsModule.ofComponents (.ofFields c.components) (some wrapper)) f ↔
      Undeclared (schemasIn c) f := by
  cases hv : (schemasIn c).isFilled with
  | false =>
    rw [ModelsModule.ofComponents, schemasOf_components, hv]
    refine iff_of_false not_breaks_pure fun h => ?_
    cases h with
    | mapping hfilled => simp [hv] at hfilled
    | schema hes => exact absurd (nil_of_entries? hv hes) (by simp)
  | true =>
    rw [ModelsModule.ofComponents, schemasOf_components, hv]
    simp only [if_true, Except.ok_bind]
    constructor
    · intro h
      split at h
      · rename_i hes
        obtain ⟨rfl, -⟩ := breaks_error.mp h
        exact .mapping hv hes
      · rename_i es hes
        rcases breaks_bind.mp h with h | ⟨_, -, h⟩
        · obtain ⟨before, e, after, rfl, hbefore, h⟩ := breaks_mapM.mp h
          have htexts := fun e => exists_text_of_modelNames hc hes (e := e)
          obtain ⟨name, hname⟩ := htexts e (by simp)
          rw [ModelsModule.declaration, hname] at h
          refine .schema hes (fun x hx => ?_) (breaks_ofSchema.mp h)
          obtain ⟨key, hkey⟩ := htexts x (by simp [hx])
          obtain ⟨d, hd⟩ := hbefore x hx
          rw [ModelsModule.declaration, hkey] at hd
          exact ⟨key, d, hkey, hd⟩
        · exact absurd h not_breaks_pure
    · intro h
      cases h with
      | mapping _ hes =>
        simp only [hes]
        exact breaks_error.mpr ⟨rfl, nofun⟩
      | schema hes hbefore h =>
        simp only [hes]
        refine breaks_bind.mpr (.inl (breaks_mapM.mpr ⟨_, _, _, rfl, fun u hu => ?_, ?_⟩))
        · obtain ⟨name, d, hname, hd⟩ := hbefore u hu
          exact ⟨d, by rwa [ModelsModule.declaration, hname]⟩
        · obtain ⟨name, hname⟩ := exists_text_of_modelNames hc hes List.mem_append_cons_self
          rw [ModelsModule.declaration, hname]
          exact breaks_ofSchema.mpr h

/-- The faults of writing declarations. -/
theorem text_eq_error {m : ModelsModule} : m.text = .error f ↔
    f = .textExpected ∧ ∃ d ∈ m.declarations, ∃ p ∈ d.properties, ∀ s, p.name ≠ .text s := by
  simp only [ModelsModule.text, ModelsModule.lines, Except.bind_pure_eq_error]
  exact mapM_eq_error_iff_exists fun _ _ => Except.bind_pure_eq_error.trans lines_eq_error

/-- Declarations are written unless a schema is an interface with a key that is no text. -/
theorem text_eq_error_iff {c : Client} {m : ModelsModule} {wrapper : String}
    (h : ModelsModule.ofComponents (.ofFields c.components) (some wrapper) = .ok m) :
    m.text = .error f ↔ f = .textExpected ∧
      ∃ es, (schemasIn c).entries? = some es ∧ ∃ e ∈ es, HasOddKey e.2 := by
  rw [text_eq_error]
  refine and_congr_right fun _ => ?_
  obtain ⟨-, schemas, es, hschemas, hes, hds⟩ := forall₂_of_ofComponents h
  have hodd : (∃ d ∈ m.declarations, ∃ p ∈ d.properties, ∀ s, p.name ≠ .text s) ↔
      ∃ e ∈ es, HasOddKey e.2 := by
    constructor
    · rintro ⟨d, hd, hodd⟩
      obtain ⟨e, he, key, -, hed⟩ := exists_of_forall₂ hds hd
      exact ⟨e, he, (hasOddKey_iff hed).mpr hodd⟩
    · rintro ⟨e, he, hodd⟩
      obtain ⟨d, hd, key, -, hed⟩ := exists_of_forall₂ hds.flip he
      exact ⟨d, hd, (hasOddKey_iff hed).mp hodd⟩
  rw [hodd]
  rw [schemasOf_components] at hschemas
  obtain rfl := Except.ok.inj hschemas
  cases hv : (schemasIn c).isFilled with
  | true =>
    rw [hv, if_pos rfl] at hes
    simp [hes]
  | false =>
    rw [hv] at hes
    obtain rfl := Option.some.inj hes
    refine iff_of_false (by simp) ?_
    rintro ⟨es, hes, e, he, -⟩
    exact List.ne_nil_of_mem he (nil_of_entries? hv hes)

/-! ### Packages -/

/-- The names that no function may have, because modules import them. -/
def takenNames (declared : List String) : List String :=
  contextExports ++ declared ++ [wrapperName declared]

/-- The names of the declarations are found, and none of them is reserved. -/
structure Admits (c : Client) (declared : List String) : Prop where
  /-- The names are those of the schemas. -/
  names : modelNames (.ofFields c.components) = .ok declared
  /-- No name is reserved. -/
  unreserved : ∀ n ∈ declared, n ∉ reservedSchemaNames c.name

/-- Generating the package of a client has the fault. -/
inductive Escapes (c : Client) : Fault → Prop
  /-- A schema has no name for its declaration. -/
  | names {f : Fault} (h : Unnameable (schemasIn c) f) : Escapes c f
  /-- An operation has no function, and all operations in front of it have theirs. -/
  | operation {f : Fault} {declared : List String} {before after : Table String (List Operation)}
      {name : String} {front back : List Operation} {o : Operation} (hc : Admits c declared)
      (hsplit : c.emittable = before ++ (name, front ++ o :: back) :: after)
      (hbefore : ∃ files,
        controllerFiles (takenNames declared) [] (before ++ [(name, front)]) = .ok files)
      (h : Uncallable o f) : Escapes c f
  /-- All operations have their functions, and a schema cannot be declared. -/
  | declaration {f : Fault} {declared : List String} (hc : Admits c declared)
      (hcontrollers : ∃ files, controllerFiles (takenNames declared) [] c.emittable = .ok files)
      (h : Undeclared (schemasIn c) f) : Escapes c f
  /-- Everything is declared, and the name of a member of an interface is no text. -/
  | key {declared : List String} {es : List (Scalar × Value)} {e : Scalar × Value}
      (hc : Admits c declared) (hmodules : ∃ modules, modulesOf c = .ok modules)
      (hes : (schemasIn c).entries? = some es) (he : e ∈ es) (h : HasOddKey e.2) :
      Escapes c .textExpected

theorem ofClient_of_admits {c : Client} {packageName : String} {declared : List String}
    (hc : Admits c declared) : ofClient c packageName = (do
      let controllers ← controllerFiles (takenNames declared) [] c.emittable
      let models ← rendered
        (ModelsModule.ofComponents (.ofFields c.components) (some (wrapperName declared)))
      return Package.files c packageName (wrapperName declared) (← rendered models.text)
        controllers) := by
  unfold ofClient
  simp only [hc.names, rendered, Except.ok_bind, clashes_eq_nil_iff.mpr hc.unreserved]
  rfl

theorem modulesOf_of_admits {c : Client} {declared : List String} (hc : Admits c declared) :
    modulesOf c = (do
      let controllers ← controllerFiles (takenNames declared) [] c.emittable
      let models ← rendered
        (ModelsModule.ofComponents (.ofFields c.components) (some (wrapperName declared)))
      return (models, controllers)) := by
  unfold modulesOf
  simp only [hc.names, rendered, Except.ok_bind]
  rfl

/-- No package is generated unless the names of the declarations are found and not reserved. -/
theorem admits_or_of_ofClient {c : Client} {packageName : String}
    (h : ofClient c packageName = .error p) :
    (∃ declared, Admits c declared) ∨ rendered (modelNames (.ofFields c.components)) = .error p ∨
      ∃ name, p = .failure (.schemaNameTaken name) := by
  cases hnames : rendered (modelNames (.ofFields c.components)) with
  | error q =>
    unfold ofClient at h
    simp only [hnames, Except.error_bind] at h
    exact .inr (.inl (congrArg _ (Except.error.inj h)))
  | ok declared =>
    cases hclashes : Text.alphabetical
        (declared.filter (reservedSchemaNames c.name).contains) with
    | nil => exact .inl ⟨declared, rendered_eq_ok.mp hnames, clashes_eq_nil_iff.mp hclashes⟩
    | cons name rest =>
      unfold ofClient at h
      simp only [hnames, Except.ok_bind, hclashes] at h
      exact .inr (.inr ⟨name, (Except.error.inj h).symm⟩)

/-- The steps of a package whose names are admitted. -/
theorem ofClient_eq_error_iff {c : Client} {packageName : String} {declared : List String}
    (hc : Admits c declared) : ofClient c packageName = .error p ↔
      controllerFiles (takenNames declared) [] c.emittable = .error p ∨
      (∃ files, controllerFiles (takenNames declared) [] c.emittable = .ok files) ∧
        rendered (ModelsModule.ofComponents (.ofFields c.components)
          (some (wrapperName declared))) = .error p ∨
      ∃ models files, modulesOf c = .ok (models, files) ∧ rendered models.text = .error p := by
  rw [ofClient_of_admits hc, modulesOf_of_admits hc]
  cases controllerFiles (takenNames declared) [] c.emittable with
  | error q => simp [Except.error_bind]
  | ok files =>
    cases rendered (ModelsModule.ofComponents (.ofFields c.components)
      (some (wrapperName declared))) with
    | error q => simp [Except.ok_bind, Except.error_bind]
    | ok models =>
      simp only [Except.ok_bind, Except.bind_pure_eq_error, Except.pure_eq_ok, reduceCtorEq,
        and_false, false_or, Prod.mk.injEq]
      grind

/-- The faults of generating a package. -/
theorem ofClient_eq_fault_iff {c : Client} {packageName : String} :
    ofClient c packageName = .error (.fault f) ↔ Escapes c f := by
  constructor
  · intro h
    rcases admits_or_of_ofClient h with ⟨declared, hc⟩ | h | ⟨_, h⟩
    · rcases (ofClient_eq_error_iff hc).mp h with h | ⟨hfiles, h⟩ | ⟨models, files, hmodules, h⟩
      · obtain ⟨_, _, _, _, _, _, hsplit, hbefore, h⟩ := controllerFiles_eq_fault_iff.mp h
        exact .operation hc hsplit hbefore h
      · exact .declaration hc hfiles ((breaks_ofComponents hc.names).mp (rendered_eq_fault.mp h))
      · obtain ⟨_, _, _, hcomponents⟩ := modulesOf_eq_ok hmodules
        obtain ⟨rfl, es, hes, e, he, hodd⟩ :=
          (text_eq_error_iff hcomponents).mp (rendered_eq_fault.mp h).1
        exact .key hc ⟨_, hmodules⟩ hes he hodd
    · exact .names (breaks_modelNames.mp (rendered_eq_fault.mp h))
    · cases h
  · intro h
    cases h with
    | names h =>
      exact Except.bind_eq_error.mpr (.inl (rendered_eq_fault.mpr (breaks_modelNames.mpr h)))
    | operation hc hsplit hbefore h =>
      exact (ofClient_eq_error_iff hc).mpr (.inl (controllerFiles_eq_fault_iff.mpr
        ⟨_, _, _, _, _, _, hsplit, hbefore, h⟩))
    | declaration hc hcontrollers h =>
      exact (ofClient_eq_error_iff hc).mpr (.inr (.inl ⟨hcontrollers,
        rendered_eq_fault.mpr ((breaks_ofComponents hc.names).mpr h)⟩))
    | key hc hmodules hes he h =>
      obtain ⟨⟨models, files⟩, hmodules⟩ := hmodules
      obtain ⟨_, _, _, hcomponents⟩ := modulesOf_eq_ok hmodules
      have htext := (text_eq_error_iff hcomponents).mpr ⟨rfl, _, hes, _, he, h⟩
      exact (ofClient_eq_error_iff hc).mpr (.inr (.inr ⟨models, files, hmodules,
        rendered_eq_fault.mpr ⟨htext, nofun⟩⟩))

/-- The failures of generating a package. -/
theorem concernsPackage_of_ofClient {c : Client} {packageName : String} {g : Failure}
    (h : ofClient c packageName = .error (.failure g)) : g.ConcernsPackage := by
  rcases admits_or_of_ofClient h with ⟨declared, hc⟩ | h | ⟨name, h⟩
  · rcases (ofClient_eq_error_iff hc).mp h with h | ⟨-, h⟩ | ⟨_, _, -, h⟩
    · exact concernsPackage_of_controllerFiles h
    · exact rendered_eq_failure h ▸ .inr rfl
    · exact rendered_eq_failure h ▸ .inr rfl
  · exact rendered_eq_failure h ▸ .inr rfl
  · exact Problem.failure.inj h ▸ .inl rfl

/-- **From a client to a package.** Generating a package ends in a failure that is reported as a
matter of the package or of depth, or in a fault of what the schemas hold, or it gives the files. -/
theorem outcome_of_ofClient (c : Client) (packageName : String) :
    (∀ g, ofClient c packageName = .error (.failure g) → g.ConcernsPackage) ∧
      ∀ f, ofClient c packageName = .error (.fault f) ↔ Escapes c f :=
  ⟨fun _ h => concernsPackage_of_ofClient h, fun _ => ofClient_eq_fault_iff⟩

/-- A description of an interface whose named schemas are the given value. -/
def describing (schemas : Value) : Value :=
  .ofFields [("openapi", .text "3.0.0"), ("components", .ofFields [("schemas", schemas)])]

/-- A schema whose type is a mapping. -/
def typedByMapping : Value := describing (.ofFields [("A", .ofFields [("type", .ofFields [])])])

/-- A schema that requires a number. -/
def requiringNumber : Value :=
  describing (.ofFields [("A", .ofFields [("type", .text "object"), ("required", .int 5)])])

/-- A schema that looks like the handle of a schema whose name is a number. -/
def namedByNumber : Value :=
  describing (.ofFields [("A", .ofFields [("refType", .text "schema"), ("modelName", .int 5)])])

/-- The named schemas are a list. -/
def listedSchemas : Value := describing (.sequence [.text "A"])

/-- A schema with a property whose name is a number. -/
def numberedProperty : Value :=
  describing (.ofFields [("A", .ofFields [("properties", .mapping [(.int 1, .ofFields [])])])])

/-- Generating the package of a client may end otherwise than in files or a declared failure. -/
theorem not_outcome_of_ofClient :
    (typedByMapping.IsJson ∧ ∃ c, (Document.normalize typedByMapping >>= clientOf {}) =
      .ok c ∧ ofClient c "x" = .error (.fault .containerAsMember)) ∧
    (requiringNumber.IsJson ∧ ∃ c, (Document.normalize requiringNumber >>= clientOf {}) =
      .ok c ∧ ofClient c "x" = .error (.fault .collectionExpected)) ∧
    (namedByNumber.IsJson ∧ ∃ c, (Document.normalize namedByNumber >>= clientOf {}) =
      .ok c ∧ ofClient c "x" = .error (.fault .shapeMismatch)) ∧
    (listedSchemas.IsJson ∧ ∃ c, (Document.normalize listedSchemas >>= clientOf {}) =
      .ok c ∧ ofClient c "x" = .error (.fault .mappingExpected)) ∧
    (numberedProperty.Plain ∧ ∃ c, (Document.normalize numberedProperty >>= clientOf {}) =
      .ok c ∧ ofClient c "x" = .error (.fault .textExpected)) := by
  have hwritable : (Scalar.int 5).isWritable = true := by decide +kernel
  have hnumber : (Value.int 5).IsJson := .scalar hwritable
  refine ⟨⟨?_, by decide +kernel⟩, ⟨?_, by decide +kernel⟩, ⟨?_, by decide +kernel⟩,
    ⟨?_, by decide +kernel⟩, ⟨rfl, by decide +kernel⟩⟩
  · simp [typedByMapping, describing]
  · simp [requiringNumber, describing, hnumber]
  · simp [namedByNumber, describing, hnumber]
  · simp [listedSchemas, describing]

end Package

end ClientGen
