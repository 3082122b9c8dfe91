import ClientGen.Proofs.Package.Contents
import ClientGen.Proofs.Package.Writing

/-!
# The files of a package

A generated package has one module for every controller that has operations, in the order of the
client, and some modules of its own. No file takes the place of another one. Every operation becomes
one function, in the module of its controller, and one entry of the module that makes clients.

## Main definitions

* `ClientGen.Package.modulePath` : the file of a module.
* `ClientGen.Package.IsComplete` : files that hold every operation of a client.

## Main results

* `ClientGen.Package.not_isSettled_of_escapingPath` : when a generated file is refused for its path.
* `ClientGen.Package.isComplete_of_ofClient` : a generated package is complete.
-/

namespace ClientGen.Package

open FileSystem TypeScript

/-! ### Files -/

/-- The modules of a package, in order; `controllers` are those of the controllers. -/
def moduleNames (controllers : List String) : List String :=
  ["models"] ++ controllers ++ ["API", "apiContext", "createClient", "index"]

/-- The file of a module. -/
def modulePath (moduleName : String) : String := "src/" ++ moduleName ++ ".ts"

theorem modulePath_injective : Function.Injective modulePath := by
  intro m n h
  simpa only [modulePath, String.append_left_inj, String.append_right_inj] using h

/-- The modules of a package have distinct names if those of the controllers are distinct and no
module that every package has is one of them. -/
theorem nodup_moduleNames {controllers : List String} (hnodup : controllers.Nodup)
    (hunreserved : ∀ m ∈ controllers, m ∉ reservedModules) : (moduleNames controllers).Nodup := by
  have hfixed : (["API", "apiContext", "createClient", "index"] : List String).Nodup := by decide
  have hmodels : ∀ m ∈ controllers, m ≠ "models" := fun m hm h => by
    exact hunreserved m hm (h ▸ by decide)
  have hothers : ∀ m ∈ controllers,
      m ∉ (["API", "apiContext", "createClient", "index"] : List String) := fun m hm h =>
    hunreserved m hm (List.mem_cons_of_mem _ h)
  rw [moduleNames, List.append_assoc, List.singleton_append, List.nodup_cons, List.mem_append]
  refine ⟨?_, hnodup.append hfixed hothers⟩
  rintro (h | h)
  · exact hmodels _ h rfl
  · exact absurd h (by decide)

/-- A word has letters, digits and underscores only. -/
def IsWord (name : String) : Prop := name ≠ "" ∧ ∀ c ∈ name.toList, isWordChar c = true

instance (name : String) : Decidable (IsWord name) :=
  decidable_of_iff (name ≠ "" ∧ name.toList.all isWordChar = true) (by simp [IsWord])

theorem isWord_typeName (name : String) : IsWord (typeName name) :=
  ⟨typeName_ne_empty name, isWordChar_of_mem_typeName⟩

/-- The path of a module has two names: that of the directory of all modules, and its own. -/
theorem parse_modulePath {m : String} (hm : IsWord m) :
    Path.parse (modulePath m) = { anchor := .here, names := ["src", m ++ ".ts"] } := by
  have hslash : '/' ∉ (m ++ ".ts").toList := by
    rw [String.toList_append, List.mem_append]
    rintro (h | h)
    · exact absurd (hm.2 _ h) (by decide)
    · exact absurd h (by decide)
  have hsplit : (modulePath m).toList.splitOn '/' = ["src".toList, (m ++ ".ts").toList] := by
    have hpath : (modulePath m).toList = "src".toList ++ '/' :: (m ++ ".ts").toList := by
      simp [modulePath]
    rw [hpath, List.splitOn_append_cons_self_of_not_mem (by decide),
      List.splitOn_eq_singleton hslash]
  have hlength : 3 ≤ (m ++ ".ts").length := by
    rw [String.length_append]
    exact Nat.le_add_left _ _
  have hempty : m ++ ".ts" ≠ "" := fun h => by rw [h] at hlength; exact absurd hlength (by decide)
  have hdot : m ++ ".ts" ≠ "." := fun h => by rw [h] at hlength; exact absurd hlength (by decide)
  have hstart : (modulePath m).toList.takeWhile (· == '/') = [] := by simp [modulePath]
  rw [Path.parse, hsplit, hstart]
  simp [Path.anchorOf, hempty, hdot]

/-- The file of a module is named right below a directory, with names that a path can have. -/
theorem placeOf_modulePath {m : String} (hm : IsWord m) (root : Place) :
    placeOf root (modulePath m) = root ++ ["src", m ++ ".ts"] ∧
      IsProper ["src", m ++ ".ts"] := by
  have hzero : Char.ofNat 0 ∉ (m ++ ".ts").toList := by
    rw [String.toList_append, List.mem_append]
    rintro (h | h)
    · exact absurd (hm.2 _ h) (by decide)
    · exact absurd h (by decide)
  have hup : m ++ ".ts" ≠ ".." := fun h => by
    have hlength := congrArg String.length h
    rw [String.length_append] at hlength
    have hends : (".ts" : String).length = 3 := rfl
    have hdots : (".." : String).length = 2 := rfl
    omega
  constructor
  · rw [placeOf, parse_modulePath hm]
    simp [Path.placeFrom, Path.start, Path.step, hup]
  · exact List.forall_mem_cons.mpr ⟨by decide, List.forall_mem_singleton.mpr ⟨hup, hzero⟩⟩

/-- The file of a module goes where its path names it, if no link stands on the way. -/
theorem targetOf_modulePath {s : FileSystem} {root : Place} {m : String} (hm : IsWord m)
    (hroot : IsProper root) (hsettled : s.IsSettled (placeOf root (modulePath m))) :
    targetOf s root (modulePath m) = .ok (placeOf root (modulePath m)) := by
  obtain ⟨hplace, hproper⟩ := placeOf_modulePath hm root
  rw [hplace] at hsettled ⊢
  have hway : s.IsSettled root := hsettled.of_prefix (List.prefix_append _ _)
  rw [targetOf, resolve_join hway hroot, parse_modulePath hm]
  exact resolve_of_isSettled hsettled hproper

/-- A generated file is refused for its path only if a link stands on the way to it. -/
theorem not_isSettled_of_escapingPath {dir : Path} {written : List (String × String)}
    {w w' : World} {root : Place} {r : String}
    (h : ∀ f ∈ written, ∃ m, IsWord m ∧ f.1 = modulePath m)
    (hhere : IsProper w.here) (hroot : w.files.resolve w.here dir = .ok root)
    (htoken : Char.ofNat 0 ∉ w.token.toList)
    (hfresh : IsFresh w.token ((placed w.files root written).map Prod.fst) w.files)
    (hrefused : writeFiles dir written w = .error (.failure (.escapingPath r)) w') :
    ¬ w.files.IsSettled (placeOf root r) := by
  have hall : LeadsTo (writeAll w.token root written) w.files _ _ := writeAll_leadsTo htoken hfresh
  simp only [writeFiles, hroot] at hrefused
  split at hrefused
  · simp at hrefused
  · rename_i p s hrun
    obtain ⟨rfl, -⟩ := EStateM.Result.error.inj hrefused
    obtain ⟨before, f, after, rfl, -, hstops⟩ := hall.of_error hrun
    obtain ⟨m, hm, hpath⟩ := h f (List.mem_append_right _ List.mem_cons_self)
    cases hstops with
    | escaping hplace houtside =>
      intro hsettled
      rw [hpath] at hplace hsettled
      rw [targetOf_modulePath hm (isProper_of_resolve hroot hhere) hsettled] at hplace
      obtain rfl := Except.ok.inj hplace
      rw [(placeOf_modulePath hm root).1] at houtside
      exact houtside (List.prefix_append _ _)

/-! ### Complete packages -/

/-- The function of a module and the entry for it take the same arguments, in the same order. -/
structure Agrees (wrapper : String) (f : RequestFunction) : Prop where
  /-- The function takes the context and all arguments. -/
  declaration : ∃ body, functionLines wrapper f = ("export async function " ++ f.name ++ "(" ++
    ", ".intercalate ("ctx: ApiContext" :: f.arguments.map Argument.declared) ++ "): Promise<" ++
      wrapper ++ "<" ++ f.result.text ++ ">> \x7b") :: body
  /-- The entry takes all arguments, and calls the function with the context and the variables of
  the arguments. -/
  entry : Factory.entryLines wrapper f =
    ["    " ++ f.name ++ ": (" ++ ", ".intercalate (f.arguments.map Argument.declared) ++
        "): Promise<" ++ wrapper ++ "<" ++ f.result.text ++ ">> =>",
      "      API." ++ f.name ++ "(" ++
        ", ".intercalate ("ctx" :: f.arguments.map Argument.variableName) ++ "),"]

theorem agrees (wrapper : String) (f : RequestFunction) : Agrees wrapper f where
  declaration := by
    rw [← f.signature_eq]
    exact ⟨_, rfl⟩
  entry := rfl

/-- The files of a package hold every operation of the client: `models` is the text of the module of
declarations, and `controllers` has the modules of the controllers. -/
structure IsComplete (c : Client) (packageName : String) (fs : List (String × String))
    (wrapper models : String) (controllers : List ControllerFile) : Prop where
  /-- Every controller that has operations has its module, with one function for each operation. -/
  modules : List.Forall₂ Implements c.emittable controllers
  /-- The declarations, the modules of the controllers and the modules that every package has. -/
  contents : fs = files c packageName wrapper models controllers
  /-- One file exports what the modules of the controllers export, in order, and nothing else. -/
  exports : ∃ text, ("src/API.ts", text) ∈ fs ∧
    Gathers text (c.emittable.map fun e => typeName e.1)
  /-- The file of a controller has the declarations of its functions, in order, and exports nothing
  else. -/
  declarations : ∀ file ∈ controllers, ∃ lines,
    (modulePath file.moduleName, Text.unlines lines) ∈ fs ∧
      StandIn (file.functions.map (functionLines wrapper)) lines ∧
      exportedNames lines = file.functions.map (·.name)
  /-- The object that the factory returns has the entries for the functions of all controllers, in
  order, and then only the one that adds headers. -/
  entries : ∃ lines, ("src/createClient.ts", Text.unlines lines) ∈ fs ∧ ∃ more,
    returnedLines lines = "  return \x7b" ::
        (controllers.flatMap (·.functions)).flatMap (Factory.entryLines wrapper) ++ more ∧
      more.filterMap memberName? = ["addHeaders"]
  /-- The files are those of the modules, named for the controllers. -/
  paths : fs.map (·.1) = (moduleNames (c.emittable.map fun e => typeName e.1)).map modulePath
  /-- No file takes the place of another one. -/
  distinct : (fs.map (·.1)).Nodup
  /-- Modules are named with words. -/
  words : ∀ m ∈ moduleNames (c.emittable.map fun e => typeName e.1), IsWord m
  /-- No file is refused for its path, unless a link stands on the way to it. -/
  contained : ∀ dir w root, IsProper w.here → w.files.resolve w.here dir = .ok root →
    Char.ofNat 0 ∉ w.token.toList →
    IsFresh w.token ((placed w.files root fs).map Prod.fst) w.files →
    ∀ r w', writeFiles dir fs w = .error (.failure (.escapingPath r)) w' →
      ¬ w.files.IsSettled (placeOf root r)
  /-- No two functions have one name. -/
  functions : (functionNames controllers).Nodup
  /-- The functions and their entries take the same arguments. -/
  agree : ∀ file ∈ controllers, ∀ f ∈ file.functions, Agrees wrapper f

theorem isWord_of_mem_moduleNames {controllers : List String} {m : String}
    (h : ∀ m ∈ controllers, IsWord m) (hm : m ∈ moduleNames controllers) : IsWord m := by
  rw [moduleNames, List.append_assoc, List.mem_append, List.mem_append] at hm
  have hmodels : ∀ m ∈ (["models"] : List String), IsWord m := by decide
  have hfixed : ∀ m ∈ (["API", "apiContext", "createClient", "index"] : List String),
      IsWord m := by decide
  rcases hm with hm | hm | hm
  · exact hmodels m hm
  · exact h m hm
  · exact hfixed m hm

section Files

variable {c : Client} {packageName wrapper models : String} {controllers : List ControllerFile}

theorem controllerLines_mem_files {file : ControllerFile} (h : file ∈ controllers) :
    (modulePath file.moduleName,
        Text.unlines (ControllerModule.lines ⟨wrapper, file.functions⟩)) ∈
      files c packageName wrapper models controllers :=
  List.mem_append_left _ (List.mem_cons_of_mem _ (List.mem_map.mpr ⟨file, h, rfl⟩))

theorem aggregatorText_mem_files :
    ("src/API.ts", aggregatorText (controllers.map (·.moduleName))) ∈
      files c packageName wrapper models controllers :=
  List.mem_append_right _ List.mem_cons_self

theorem factoryLines_mem_files :
    ("src/createClient.ts", Text.unlines (Factory.lines
        ⟨configName c.name, c.baseUrl, wrapper, controllers.flatMap (·.functions)⟩)) ∈
      files c packageName wrapper models controllers :=
  List.mem_append_right _
    (List.mem_cons_of_mem _ (List.mem_cons_of_mem _ List.mem_cons_self))

end Files

/-- Every file of a package is that of a module, and no two modules have one name. -/
theorem paths_of_ofClient {c : Client} {packageName : String} {fs : List (String × String)}
    (h : ofClient c packageName = .ok fs) :
    fs.map (·.1) = (moduleNames (c.emittable.map fun e => typeName e.1)).map modulePath ∧
      (moduleNames (c.emittable.map fun e => typeName e.1)).Nodup ∧
      ∀ m ∈ moduleNames (c.emittable.map fun e => typeName e.1), IsWord m := by
  obtain ⟨models, text, controllers, hmodules, -, rfl⟩ := ofClient_eq_ok h
  obtain ⟨-, -, hfit, hcontrollers⟩ := fit_of_modulesOf hmodules
  have hnames := map_moduleName_of_implements hcontrollers
  refine ⟨?_, ?_, fun m => isWord_of_mem_moduleNames (List.forall_mem_map.mpr fun e _ => ?_)⟩
  · rw [← hnames]
    simp only [files, moduleNames, List.map_append, List.map_map]
    rfl
  · rw [← hnames]
    exact nodup_moduleNames hfit.modules (List.forall_mem_map.mpr hfit.unreserved)
  · exact isWord_typeName e.1

/-- Every file of a package is that of a module named with a word. -/
theorem exists_modulePath_of_ofClient {c : Client} {packageName : String}
    {fs : List (String × String)} (h : ofClient c packageName = .ok fs) :
    ∀ f ∈ fs, ∃ m, IsWord m ∧ f.1 = modulePath m := by
  obtain ⟨hpaths, -, hwords⟩ := paths_of_ofClient h
  intro f hf
  obtain ⟨m, hm, hpath⟩ := List.mem_map.mp (hpaths ▸ List.mem_map.mpr ⟨f, hf, rfl⟩)
  exact ⟨m, hwords m hm, hpath.symm⟩

/-- A client with a controller that has two operations, one that has none, and one whose name is no
word. -/
def petShop : Client where
  controllers := [
    ("pets", [
      { method := .post, path := "/pets/{id}", operationId := "addPet"
        parameters := some [.primitive
          { modelName := none, isReference := false, name := "id", location := .path
            required := true, primitiveType := "integer" }]
        requestBody := some [("content", .ofFields [("application/json", .ofFields
          [("schema", .ofFields [("type", .text "object")])])])] },
      { method := .get, path := "/pets", operationId := "list-pets" }]),
    ("admin", []),
    ("store/orders", [{ method := .get, path := "/orders", operationId := "listOrders" }])]
  name := "Pet shop"

end ClientGen.Package
