import ClientGen.Proofs.Package.Scopes

/-!
# Exported names

The entry of a package exports again what three of its modules export: the module of declarations,
the one that sends requests, and the one that makes clients. What a module exports is read off the
first lines of its declarations.

The names of schemas are kept apart from all others. They are not kept apart from each other, nor is
the interface for the options kept apart from what the module that sends requests exports: for a
document with the title `Request` both have an interface `RequestConfig`.

## Main definitions

* `ClientGen.Package.exportedNames` : the names that the lines of a module export.
* `ClientGen.Package.ExportsApart` : which of these modules have no exported name in common.

## Main results

* `ClientGen.Package.exportsApart_of_ofClient` : when the entry of a package exports a name twice.
* `ClientGen.Package.nodup_exportedNames_iff_of_ofClient` : when the module of declarations exports
  a name twice.
-/

namespace ClientGen.Package

open TypeScript

/-! ### Names that lines export -/

/-- What stands in front of the name in the first line of something exported. -/
def exportMarks : List String :=
  ["export type ", "export interface ", "export function ", "export async function "]

/-- The name that a line exports; none if nothing exported starts there. -/
def exportedName? (line : String) : Option String :=
  (exportMarks.find? fun mark => mark.toList.isPrefixOf line.toList).map fun mark =>
    String.ofList ((line.toList.drop mark.toList.length).takeWhile isWordChar)

/-- The names that lines export, in order. -/
def exportedNames (lines : List String) : List String := lines.filterMap exportedName?

@[simp]
theorem exportedNames_append (lines more : List String) :
    exportedNames (lines ++ more) = exportedNames lines ++ exportedNames more :=
  List.filterMap_append

/-- A line that starts like none of the marks exports nothing. -/
theorem exportedName?_eq_none {line : String} (h : line.toList.head? ≠ some 'e') :
    exportedName? line = none := by
  have hmark : ∀ mark ∈ exportMarks, mark.toList.head? = some 'e' := by decide
  rw [exportedName?, Option.map_eq_none_iff, List.find?_eq_none]
  intro mark hmem hprefix
  obtain ⟨rest, hrest⟩ := List.isPrefixOf_iff_prefix.mp hprefix
  refine h ?_
  rw [← hrest, List.head?_append, hmark mark hmem]
  rfl

theorem exportedNames_cons_ofList {cs : List Char} {lines : List String} (h : cs.head? ≠ some 'e') :
    exportedNames (String.ofList cs :: lines) = exportedNames lines :=
  List.filterMap_cons_none (exportedName?_eq_none (by rwa [String.toList_ofList]))

theorem exportedNames_eq_nil {lines : List String}
    (h : ∀ line ∈ lines, line.toList.head? ≠ some 'e') : exportedNames lines = [] :=
  List.filterMap_eq_nil_iff.mpr fun line hline => exportedName?_eq_none (h line hline)

/-- A line exports the word behind its mark: no mark starts with another one. -/
theorem exportedName?_eq_some {mark name line : String} {c : Char} (hmark : mark ∈ exportMarks)
    (hname : ∀ c ∈ name.toList, isWordChar c = true) (hc : isWordChar c = false)
    (hline : mark.toList ++ name.toList ++ [c] <+: line.toList) :
    exportedName? line = some name := by
  obtain ⟨rest, hrest⟩ := hline
  have hprefix : mark.toList <+: line.toList := ⟨name.toList ++ [c] ++ rest, by simp [← hrest]⟩
  have hfind : (exportMarks.find? fun m => m.toList.isPrefixOf line.toList) = some mark := by
    have hother : ∀ m ∈ exportMarks, ∀ n ∈ exportMarks, m.toList <+: n.toList → m = n := by decide
    cases hfound : exportMarks.find? fun m => m.toList.isPrefixOf line.toList with
    | none =>
      have hunfound := List.find?_eq_none.mp hfound mark hmark
      exact absurd (List.isPrefixOf_iff_prefix.mpr hprefix) hunfound
    | some m =>
      have hm : m.toList <+: line.toList := by simpa using List.find?_some hfound
      have hmem := List.mem_of_find?_eq_some hfound
      rcases List.prefix_or_prefix_of_prefix hm hprefix with h | h
      · rw [hother m hmem mark hmark h]
      · rw [hother mark hmark m hmem h]
  have hdrop : line.toList.drop mark.toList.length = name.toList ++ c :: rest := by
    simp [← hrest]
  rw [exportedName?, hfind, Option.map_some, hdrop, List.takeWhile_append_of_pos hname,
    List.takeWhile_cons_of_neg (by simp [hc]), List.append_nil, String.ofList_toList]

theorem exportedNames_cons (mark : String) {name line : String} {c : Char} {lines : List String}
    (hmark : mark ∈ exportMarks) (hname : ∀ c ∈ name.toList, isWordChar c = true)
    (hc : isWordChar c = false) (hline : mark.toList ++ name.toList ++ [c] <+: line.toList) :
    exportedNames (line :: lines) = name :: exportedNames lines :=
  List.filterMap_cons_some (exportedName?_eq_some hmark hname hc hline)

/-! ### Lines of modules -/

/-- The text of the module of declarations has its lines. -/
theorem ModelsModule.text_eq_ok {m : ModelsModule} {text : String} :
    m.text = .ok text ↔ ∃ lines, m.lines = .ok lines ∧ text = Text.unlines lines := by
  simp only [ModelsModule.text, Except.bind_eq_ok, Except.pure_eq_ok]
  grind

/-! ### Exports of modules -/

theorem exportedNames_importLines (wrapper : String) (models : List String) :
    exportedNames (importLines wrapper models) = [] := by
  refine exportedNames_eq_nil fun line hline => ?_
  simp only [importLines, List.mem_append, List.mem_singleton, List.mem_map] at hline
  rcases hline with (rfl | ⟨m, -, rfl⟩) | rfl
  · decide
  · simp [String.append_assoc]
  · decide

/-- The module that sends requests exports two interfaces and two functions. -/
theorem exportedNames_contextLines (wrapper : String) :
    exportedNames (contextLines wrapper) =
      ["ApiContext", "RequestConfig", "createContext", "request"] := by
  have hopening : exportedNames [banner, "import axios, \x7b AxiosInstance \x7d from 'axios';",
      "import \x7b " ++ wrapper ++ " \x7d from './models';", ""] = [] :=
    exportedNames_eq_nil (by simp [banner, String.append_assoc])
  have hinterfaces : exportedNames contextInterfaceLines = ["ApiContext", "RequestConfig"] := by
    refine (exportedNames_cons_ofList (by decide)).trans ?_
    refine (exportedNames_cons "export interface " (c := ' ') (by decide)
      (List.all_eq_true.mp rfl) (by decide) (by decide)).trans (congrArg _ ?_)
    iterate 3 refine (exportedNames_cons_ofList (by decide)).trans ?_
    refine (exportedNames_cons "export interface " (c := ' ') (by decide)
      (List.all_eq_true.mp rfl) (by decide) (by decide)).trans (congrArg _ ?_)
    iterate 6 refine (exportedNames_cons_ofList (by decide)).trans ?_
    rfl
  have hcreate : exportedNames createContextLines = ["createContext"] := by
    refine (exportedNames_cons "export function " (c := '(') (by decide)
      (List.all_eq_true.mp rfl) (by decide) (by decide)).trans (congrArg _ ?_)
    iterate 7 refine (exportedNames_cons_ofList (by decide)).trans ?_
    rfl
  have hblank : exportedNames [""] = [] := rfl
  have hrequest : exportedNames (requestLines wrapper) = ["request"] := by
    have hstart : "export async function ".toList ++ "request".toList ++ ['<'] <+:
        "export async function request<T>(ctx: ApiContext, config: RequestConfig): Promise<".toList
      := by decide
    refine (exportedNames_cons "export async function " (by decide)
      (List.all_eq_true.mp rfl) (by decide) (hstart.trans ?_)).trans (congrArg _ ?_)
    · simp [String.append_assoc]
    · iterate 2 refine (exportedNames_cons_ofList (by decide)).trans ?_
      refine (List.filterMap_cons_none (exportedName?_eq_none (by decide))).trans ?_
      iterate 9 refine (exportedNames_cons_ofList (by decide)).trans ?_
      rfl
  simp only [contextLines, exportedNames_append, hopening, hinterfaces, hcreate, hblank, hrequest]
  rfl

/-- The module of the factory exports the interface for the options and the function. -/
theorem exportedNames_factoryLines {title baseUrl wrapper : String}
    {functions : List RequestFunction} :
    exportedNames (Factory.lines ⟨configName title, baseUrl, wrapper, functions⟩) =
      [configName title, "createClient"] := by
  have himports : exportedNames [banner, "import * as API from './API';",
      "import \x7b ApiContext, createContext \x7d from './apiContext';"] = [] := by decide
  have hblank : exportedNames [""] = [] := rfl
  have hoptions : exportedNames (Factory.optionLines (configName title)) = [configName title] := by
    have hword : ∀ c ∈ (configName title).toList, isWordChar c = true := by
      rw [configName, String.toList_append]
      exact List.forall_mem_append.mpr ⟨isWordChar_of_mem_pascalCase, List.all_eq_true.mp rfl⟩
    refine (exportedNames_cons "export interface " (c := ' ') (by decide) hword
      (by decide) ?_).trans (congrArg _ ?_)
    · simp [String.append_assoc]
    · iterate 4 refine (exportedNames_cons_ofList (by decide)).trans ?_
      rfl
  have hfunction : exportedNames
      (Factory.openingLines ⟨configName title, baseUrl, wrapper, functions⟩) =
        ["createClient"] := by
    have hstart : "export function ".toList ++ "createClient".toList ++ ['('] <+:
        "export function createClient(\x7b apiKey, authToken, baseURL = ".toList := by decide
    refine (exportedNames_cons "export function " (by decide)
      (List.all_eq_true.mp rfl) (by decide) (hstart.trans ?_)).trans (congrArg _ ?_)
    · simp [String.append_assoc]
    · iterate 10 refine (exportedNames_cons_ofList (by decide)).trans ?_
      rfl
  have hentries : exportedNames (functions.flatMap (Factory.entryLines wrapper)) = [] := by
    refine exportedNames_eq_nil fun line hline => ?_
    obtain ⟨f, -, hline⟩ := List.mem_flatMap.mp hline
    rcases List.mem_pair.mp hline with rfl | rfl <;> simp [String.append_assoc]
  have hclosing : exportedNames Factory.closingLines = [] := by
    iterate 6 refine (exportedNames_cons_ofList (by decide)).trans ?_
    rfl
  simp only [Factory.lines, exportedNames_append, himports, exportedNames_importLines, hblank,
    hoptions, hfunction, hentries, hclosing]
  rfl

theorem exportedNames_descriptionLines (description : String) :
    exportedNames (descriptionLines "" description) = [] := by
  refine exportedNames_eq_nil fun line hline => ?_
  unfold descriptionLines at hline
  split at hline
  · cases hline
  · rw [List.mem_singleton.mp hline]
    simp [String.append_assoc]

/-- The lines of a member of an interface start with blanks. -/
theorem head?_of_propertyLines {p : Property} {lines : List String} (h : p.lines = .ok lines) :
    ∀ line ∈ lines, line.toList.head? = some ' ' := by
  obtain ⟨key, -, h⟩ := Except.bind_eq_ok.mp h
  obtain rfl := Except.pure_eq_ok.mp h
  refine List.forall_mem_append.mpr ⟨fun line hline => ?_, ?_⟩
  · unfold descriptionLines at hline
    split at hline
    · cases hline
    · rw [List.mem_singleton.mp hline]
      simp [String.append_assoc]
  · simp [String.append_assoc]

/-- A declaration exports its name. -/
theorem exportedNames_of_declarationLines {d : Declaration} {lines : List String}
    (hword : ∀ c ∈ d.name.toList, isWordChar c = true) (h : d.lines = .ok lines) :
    exportedNames lines = [d.name] := by
  unfold Declaration.lines at h
  cases hbody : d.body with
  | «alias» t =>
    rw [hbody] at h
    obtain rfl := Except.pure_eq_ok.mp h
    rw [exportedNames_append, exportedNames_descriptionLines, List.nil_append]
    refine exportedNames_cons "export type " (c := ' ') (by decide) hword (by decide) ?_
    simp [String.append_assoc]
  | interface ps =>
    simp only [hbody, pure_bind] at h
    obtain ⟨members, hmembers, h⟩ := Except.bind_eq_ok.mp h
    obtain rfl := Except.pure_eq_ok.mp h
    have hmembers : exportedNames members.flatten = [] := by
      refine exportedNames_eq_nil fun line hline => ?_
      obtain ⟨ls, hls, hline⟩ := List.mem_flatten.mp hline
      obtain ⟨p, -, hp⟩ := exists_of_forall₂ (mapM_eq_ok_iff.mp hmembers) hls
      rw [head?_of_propertyLines hp line hline]
      decide
    rw [exportedNames_append, exportedNames_descriptionLines, List.nil_append, List.append_assoc,
      List.singleton_append]
    refine (exportedNames_cons "export interface " (c := ' ') (by decide) hword
      (by decide) ?_).trans (congrArg _ ?_)
    · simp [String.append_assoc]
    · rw [exportedNames_append, hmembers]
      decide

theorem exportedNames_flatten {ds : List Declaration} {parts : List (List String)}
    (h : List.Forall₂ (fun d part => exportedNames part = [d.name]) ds parts) :
    exportedNames parts.flatten = ds.map (·.name) := by
  induction h with
  | nil => rfl
  | cons hpart _ ih =>
    rw [List.flatten_cons, exportedNames_append, hpart, ih]
    rfl

/-- The module of declarations exports the alias for responses and everything that it declares. -/
theorem exportedNames_of_modelsLines {m : ModelsModule} {lines : List String}
    (hwrapper : ∀ c ∈ m.wrapper.toList, isWordChar c = true)
    (hnames : ∀ n ∈ m.names, ∀ c ∈ n.toList, isWordChar c = true) (h : m.lines = .ok lines) :
    exportedNames lines = m.wrapper :: m.names := by
  obtain ⟨parts, hparts, h⟩ := Except.bind_eq_ok.mp h
  obtain rfl := Except.pure_eq_ok.mp h
  have hopening : exportedNames [banner, ""] = [] := by decide
  have halias : exportedNames ["export type " ++ m.wrapper ++ "<T> = T;"] = [m.wrapper] :=
    exportedNames_cons "export type " (c := '<') (by decide) hwrapper (by decide)
      (by simp [String.append_assoc])
  have hdeclared : exportedNames parts.flatten = m.names := by
    refine exportedNames_flatten (forall₂_of_mem (mapM_eq_ok_iff.mp hparts) fun d hd part h => ?_)
    obtain ⟨ls, hls, h⟩ := Except.bind_eq_ok.mp h
    obtain rfl := Except.pure_eq_ok.mp h
    refine (List.filterMap_cons_none rfl).trans ?_
    exact exportedNames_of_declarationLines (hnames _ (List.mem_map_of_mem hd)) hls
  have hsplit : [banner, "", "export type " ++ m.wrapper ++ "<T> = T;"] =
      [banner, ""] ++ ["export type " ++ m.wrapper ++ "<T> = T;"] := rfl
  rw [hsplit, exportedNames_append, exportedNames_append, hopening, halias, hdeclared]
  rfl

/-! ### Exports of packages -/

/-- The names that three modules export, and the title of the document: no name is exported by two
of the modules, unless it is the interface for the options, which has the name of the interface of
requests if the title is read as the word for them. -/
structure ExportsApart (title : String) (models context factory : List String) : Prop where
  /-- Declarations have other names than what sends requests. -/
  models_context : models.Disjoint context
  /-- Declarations have other names than what makes clients. -/
  models_factory : models.Disjoint factory
  /-- What sends requests has other names than what makes clients, unless the title is in the
  way. -/
  context_factory : context.Disjoint factory ↔ pascalCase title ≠ "Request"

theorem configName_eq_requestConfig_iff {title : String} :
    configName title = "RequestConfig" ↔ pascalCase title = "Request" := by
  have hname : "RequestConfig" = "Request" ++ "Config" := rfl
  rw [configName, hname, String.append_left_inj]

/-- The names of declarations are words, and so is the alias for responses. -/
theorem isWordChar_of_modulesOf {c : Client} {models : ModelsModule}
    {controllers : List ControllerFile} (h : modulesOf c = .ok (models, controllers)) :
    ∀ n ∈ models.wrapper :: models.names, ∀ c ∈ n.toList, isWordChar c = true := by
  obtain ⟨_, _, -, hmodels⟩ := modulesOf_eq_ok h
  refine List.forall_mem_cons.mpr ⟨?_, fun n hn => ?_⟩
  · rw [(fit_of_modulesOf h).1]
    exact isWordChar_of_mem_wrapperName
  · obtain ⟨-, _, es, -, -, hds⟩ := ofComponents_eq_ok hmodels
    obtain ⟨d, hd, rfl⟩ := List.mem_map.mp hn
    obtain ⟨e, -, key, -, hname, -⟩ := exists_of_forall₂ hds hd
    rw [hname]
    exact isWordChar_of_mem_typeName

theorem exportsApart {declared : List String} {title : String}
    (h : ∀ n ∈ declared, n ∉ reservedSchemaNames title) :
    ExportsApart title (wrapperName declared :: declared)
      ["ApiContext", "RequestConfig", "createContext", "request"]
      [configName title, "createClient"] := by
  have hundeclared : ∀ n ∈ declared, n ∉ fixedNames ∧ n ≠ configName title :=
    fun n hn => not_mem_reservedSchemaNames_iff.mp (h n hn)
  have hwrapper : wrapperName declared ∉ fixedNames := wrapperName_not_mem_fixedNames
  have hcontext : ["ApiContext", "RequestConfig", "createContext", "request"] ⊆ fixedNames := by
    decide
  have hcreate : "createClient" ∈ fixedNames := by decide
  refine ⟨?_, ?_, ?_⟩
  · refine List.disjoint_cons_left.mpr ⟨fun hn => hwrapper (hcontext hn), fun n hn hmem => ?_⟩
    exact (hundeclared n hn).1 (hcontext hmem)
  · refine List.disjoint_cons_left.mpr ⟨fun hn => ?_, fun n hn hmem => ?_⟩
    · rcases List.mem_pair.mp hn with heq | heq
      · exact wrapperName_ne_configName title heq
      · exact hwrapper (heq ▸ hcreate)
    · rcases List.mem_pair.mp hmem with rfl | rfl
      · exact (hundeclared _ hn).2 rfl
      · exact (hundeclared _ hn).1 hcreate
  · have hconfig : configName title ∈ ["ApiContext", "RequestConfig", "createContext", "request"] ↔
        configName title = "RequestConfig" := by
      have hcontext : configName title ≠ "ApiContext" := configName_ne (by decide)
      have hcreate : configName title ≠ "createContext" := configName_ne (by decide)
      have hrequest : configName title ≠ "request" := configName_ne (by decide)
      simp [hcontext, hcreate, hrequest]
    rw [List.disjoint_comm, List.disjoint_cons_left, hconfig, configName_eq_requestConfig_iff,
      and_iff_left (List.singleton_disjoint.mpr (by decide))]

/-- **Exports of the entry.** The modules behind the entry of a package export no name twice, unless
the words of the title are `Request`: then the interface for the options is called like that of
requests. -/
theorem exportsApart_of_ofClient {c : Client} {packageName : String} {fs : List (String × String)}
    (h : ofClient c packageName = .ok fs) :
    ∃ models lines controllers, modulesOf c = .ok (models, controllers) ∧
      models.lines = .ok lines ∧
      fs = files c packageName models.wrapper (Text.unlines lines) controllers ∧
      ExportsApart c.name (exportedNames lines) (exportedNames (contextLines models.wrapper))
        (exportedNames (Factory.lines ⟨configName c.name, c.baseUrl, models.wrapper,
          controllers.flatMap (·.functions)⟩)) := by
  obtain ⟨models, text, controllers, hmodules, htext, hfs⟩ := ofClient_eq_ok h
  obtain ⟨lines, hlines, rfl⟩ := ModelsModule.text_eq_ok.mp htext
  obtain ⟨hwrapper, hnames, -, -⟩ := fit_of_modulesOf hmodules
  obtain ⟨hwrapperWord, hwords⟩ := List.forall_mem_cons.mp (isWordChar_of_modulesOf hmodules)
  refine ⟨models, lines, controllers, hmodules, hlines, hfs, ?_⟩
  rw [exportedNames_of_modelsLines hwrapperWord hwords hlines, exportedNames_contextLines,
    exportedNames_factoryLines, hwrapper]
  exact exportsApart (not_mem_reservedSchemaNames h hnames)

/-- A client with a schema, whose title is the word for requests. -/
def requestTitle : Client where
  components := [("schemas", .ofFields [("Pet", .ofFields [("properties", .ofFields
    [("name", .ofFields [("type", .text "string")])])])])]
  name := "Request"

theorem exportsApart_of_ofClient_requestTitle : ∃ fs, ofClient requestTitle "requests" = .ok fs ∧
    ∃ models lines controllers, modulesOf requestTitle = .ok (models, controllers) ∧
      models.lines = .ok lines ∧
      fs = files requestTitle "requests" models.wrapper (Text.unlines lines) controllers ∧
      ExportsApart requestTitle.name (exportedNames lines)
        (exportedNames (contextLines models.wrapper))
        (exportedNames (Factory.lines ⟨configName requestTitle.name, requestTitle.baseUrl,
          models.wrapper, controllers.flatMap (·.functions)⟩)) := by
  have hfiles : ∃ fs, ofClient requestTitle "requests" = .ok fs := by decide +kernel
  obtain ⟨fs, hfiles⟩ := hfiles
  exact ⟨fs, hfiles, exportsApart_of_ofClient hfiles⟩

/-- The entry of a package may export a name twice. -/
theorem not_disjoint_exports_requestTitle :
    ∃ fs, ofClient requestTitle "requests" = .ok fs ∧
      (("src/index.ts", indexText "requests" "") ∈ fs ∧
        ("src/apiContext.ts", Text.unlines (contextLines "ApiResponse")) ∈ fs ∧
        ("src/createClient.ts",
          Text.unlines (Factory.lines ⟨"RequestConfig", "", "ApiResponse", []⟩)) ∈ fs) ∧
      "RequestConfig" ∈ exportedNames (contextLines "ApiResponse") ∧
      "RequestConfig" ∈ exportedNames (Factory.lines ⟨"RequestConfig", "", "ApiResponse", []⟩) := by
  have hfiles : ∃ fs, ofClient requestTitle "requests" = .ok fs := by decide +kernel
  have hparts : ∃ m, modulesOf requestTitle = .ok m ∧ m.1.wrapper = "ApiResponse" ∧ m.2 = [] := by
    have hempty : ∃ m, modulesOf requestTitle = .ok m ∧
        m.1.wrapper = "ApiResponse" ∧ m.2.isEmpty = true := by decide +kernel
    simpa only [List.isEmpty_iff] using hempty
  obtain ⟨fs, hfiles⟩ := hfiles
  obtain ⟨m, hm, hwrapper, hcontrollers⟩ := hparts
  obtain ⟨models, text, controllers, hmodules, -, rfl⟩ := ofClient_eq_ok hfiles
  obtain rfl := Except.ok.inj (hm.symm.trans hmodules)
  simp only at hwrapper hcontrollers
  have hname : configName "Request" = "RequestConfig" := by decide
  refine ⟨_, hfiles, ?_, ?_, ?_⟩
  · rw [hwrapper, hcontrollers]
    simp [files, hname, contextText, Factory.text, requestTitle]
  · rw [exportedNames_contextLines]
    decide
  · rw [← hname, exportedNames_factoryLines]
    decide

/-! ### Declarations of one name -/

/-- The declared names are those of the schemas, in order. -/
theorem exists_keys_of_modulesOf {c : Client} {models : ModelsModule}
    {controllers : List ControllerFile} (h : modulesOf c = .ok (models, controllers)) :
    ∃ keys : List String,
      Document.keysOf ((Value.ofFields c.components).field "schemas") = keys.map .text ∧
        models.names = keys.map typeName := by
  obtain ⟨_, _, -, hmodels⟩ := modulesOf_eq_ok h
  obtain ⟨-, schemas, es, hschemas, hes, hds⟩ := ofComponents_eq_ok hmodels
  have hkeys : Document.keysOf ((Value.ofFields c.components).field "schemas") = es.map (·.1) := by
    rw [← Document.keysOf_of_schemasOf hschemas, Document.keysOf, hes]
    rfl
  rw [hkeys, ModelsModule.names]
  generalize models.declarations = ds at hds
  clear hes hkeys
  induction hds with
  | nil => exact ⟨[], rfl, rfl⟩
  | cons hd _ ih =>
    obtain ⟨key, hkey, hname, -⟩ := hd
    obtain ⟨keys, hkeys, hnames⟩ := ih
    refine ⟨key :: keys, ?_, ?_⟩
    · rw [List.map_cons, List.map_cons, hkey, hkeys]
    · rw [List.map_cons, List.map_cons, hname, hnames]

/-- **Declarations of one name.** The module of declarations exports the alias for responses and one
declaration for every schema. No name is exported twice exactly if no two schemas have names that
differ only in characters that declarations cannot have. -/
theorem nodup_exportedNames_iff_of_ofClient {c : Client} {packageName : String}
    {fs : List (String × String)} (h : ofClient c packageName = .ok fs) :
    ∃ models lines controllers, modulesOf c = .ok (models, controllers) ∧
      models.lines = .ok lines ∧
      fs = files c packageName models.wrapper (Text.unlines lines) controllers ∧
      ∃ keys : List String,
        Document.keysOf ((Value.ofFields c.components).field "schemas") = keys.map .text ∧
        exportedNames lines = models.wrapper :: keys.map typeName ∧
        ((exportedNames lines).Nodup ↔ keys.Pairwise fun key other =>
          typeName key ≠ typeName other) := by
  obtain ⟨models, text, controllers, hmodules, htext, hfs⟩ := ofClient_eq_ok h
  obtain ⟨lines, hlines, rfl⟩ := ModelsModule.text_eq_ok.mp htext
  obtain ⟨hwrapper, -, -, -⟩ := fit_of_modulesOf hmodules
  obtain ⟨hwrapperWord, hwords⟩ := List.forall_mem_cons.mp (isWordChar_of_modulesOf hmodules)
  obtain ⟨keys, hkeys, hnames⟩ := exists_keys_of_modulesOf hmodules
  have hexported := exportedNames_of_modelsLines hwrapperWord hwords hlines
  refine ⟨models, lines, controllers, hmodules, hlines, hfs, keys, hkeys, hnames ▸ hexported, ?_⟩
  have hfree : models.wrapper ∉ models.names := by
    rw [hwrapper]
    exact wrapperName_not_mem _
  rw [hexported, List.nodup_cons, and_iff_right hfree, hnames, List.Nodup, List.pairwise_map]

/-- A client with two schemas whose declarations have one name. -/
def twiceNamed : Client where
  components := [("schemas", .ofFields [("pet-id", .ofFields [("type", .text "string")]),
    ("pet_id", .ofFields [("type", .text "integer")])])]
  name := "Pet shop"

theorem nodup_exportedNames_iff_of_ofClient_twiceNamed :
    ∃ fs, ofClient twiceNamed "pet-shop" = .ok fs ∧
      ∃ models lines controllers, modulesOf twiceNamed = .ok (models, controllers) ∧
        models.lines = .ok lines ∧
        fs = files twiceNamed "pet-shop" models.wrapper (Text.unlines lines) controllers ∧
        ∃ keys : List String,
          Document.keysOf ((Value.ofFields twiceNamed.components).field "schemas") =
            keys.map .text ∧
          exportedNames lines = models.wrapper :: keys.map typeName ∧
          ((exportedNames lines).Nodup ↔ keys.Pairwise fun key other =>
            typeName key ≠ typeName other) := by
  have hfiles : ∃ fs, ofClient twiceNamed "pet-shop" = .ok fs := by decide +kernel
  obtain ⟨fs, hfiles⟩ := hfiles
  exact ⟨fs, hfiles, nodup_exportedNames_iff_of_ofClient hfiles⟩

/-- A client is not refused for two schemas whose declarations have one name: both are exported. -/
theorem not_nodup_exportedNames_twiceNamed :
    ∃ fs, ofClient twiceNamed "pet-shop" = .ok fs ∧
      ∃ m, modulesOf twiceNamed = .ok m ∧ ∃ lines, m.1.lines = .ok lines ∧
        ("src/models.ts", Text.unlines lines) ∈ fs ∧
        exportedNames lines = ["ApiResponse", "pet_id", "pet_id"] := by
  decide +kernel

end ClientGen.Package
