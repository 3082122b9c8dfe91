import ClientGen.Proofs.Package.Exports
import ClientGen.Proofs.TypeScript.Comments
import ClientGen.Proofs.TypeScript.Grammar

/-!
# Names of functions

Every operation has a function, which a module exports, and a member of the object that a client is.
Both are named for the operation. The names are identifiers, and no two functions have one. But
nothing keeps them from being reserved words, which no function can be called, nor from being the
name of the member that adds headers, which every client has: a function for an operation is called
so if the operation is.

## Main definitions

* `ClientGen.TypeScript.reservedWords` : the words that no function can be called.
* `ClientGen.Package.returnedLines`, `ClientGen.Package.memberNames` : the object that the lines of
  a module return, and its members.
* `ClientGen.Package.NamesFunctions` : how functions and members are named.

## Main results

* `ClientGen.TypeScript.eq_of_functionName_eq` : names without underscores.
* `ClientGen.Package.exportedNames_controllerLines`, `ClientGen.Package.memberNames_factoryLines` :
  what a module exports, and the members of a client.
* `ClientGen.Package.namesFunctions_of_ofClient` : when the functions of a package can be called so.
-/

namespace ClientGen

namespace TypeScript

/-! ### Names without underscores -/

/-- The reserved words of modules. -/
def reservedWords : List String := [
  "await", "break", "case", "catch", "class", "const", "continue", "debugger", "default", "delete",
  "do", "else", "enum", "export", "extends", "false", "finally", "for", "function", "if", "import",
  "in", "instanceof", "new", "null", "return", "super", "switch", "this", "throw", "true", "try",
  "typeof", "var", "void", "while", "with", "yield",
  "implements", "interface", "let", "package", "private", "protected", "public", "static"]

theorem guardDigit_eq_self {cs : List Char} (h : '_' ∉ guardDigit cs) : guardDigit cs = cs := by
  cases cs with
  | nil => rfl
  | cons c cs =>
    rw [guardDigit] at h ⊢
    refine if_neg fun hc => ?_
    rw [if_pos hc] at h
    exact h List.mem_cons_self

/-- An operation whose function has a name without underscores has that name: an underscore stands
for every character that is replaced, and in front of every digit that would be the first one. -/
theorem eq_of_functionName_eq {operationId name : String} (h : '_' ∉ name.toList)
    (hname : functionName operationId = name) : operationId = name := by
  have hword : word operationId.toList = name.toList := by
    rw [← hname, functionName, String.toList_ofList]
  rw [← hword, word] at h
  rw [word, guardDigit_eq_self h] at hword
  rw [guardDigit_eq_self h] at h
  rw [← String.toList_inj, ← hword]
  refine ((List.map_congr_left fun c hc => ?_).trans (List.map_id _)).symm
  refine if_pos ?_
  by_contra hother
  exact h (List.mem_map.mpr ⟨c, hc, if_neg hother⟩)

/-- The function of an operation is called by a word without underscores exactly if the operation
is. -/
theorem functionName_mem_iff {operationId : String} {names : List String}
    (h : ∀ name ∈ names, '_' ∉ name.toList ∧ functionName name = name) :
    functionName operationId ∈ names ↔ operationId ∈ names := by
  constructor
  · intro hname
    rwa [eq_of_functionName_eq (h _ hname).1 rfl]
  · intro hid
    rwa [(h _ hid).2]

theorem functionName_mem_reservedWords_iff {operationId : String} :
    functionName operationId ∈ reservedWords ↔ operationId ∈ reservedWords :=
  functionName_mem_iff (by decide +kernel)

theorem functionName_eq_addHeaders_iff {operationId : String} :
    functionName operationId = "addHeaders" ↔ operationId = "addHeaders" := by
  have hiff : functionName operationId ∈ ["addHeaders"] ↔ operationId ∈ ["addHeaders"] :=
    functionName_mem_iff (by decide)
  simpa only [List.mem_singleton] using hiff

theorem isIdentifier_of_isLedWord {cs : List Char} (h : isLedWord cs = true) :
    isIdentifier cs = true := by
  cases cs with
  | nil => cases h
  | cons c cs =>
    rw [isLedWord, Bool.and_eq_true] at h
    rw [isIdentifier, Bool.and_eq_true]
    refine ⟨?_, ?_⟩
    · rw [isIdentifierStart, h.1, Bool.true_or]
    · refine List.all_eq_true.mpr fun d hd => ?_
      have hword := List.all_eq_true.mp h.2 d hd
      simp only [isWordChar, Char.isAlphanum, Bool.or_eq_true] at hword
      simp only [isIdentifierPart, isIdentifierStart, Bool.or_eq_true]
      tauto

theorem name_of_ofOperation {o : Operation} {f : RequestFunction}
    (h : RequestFunction.ofOperation o = .ok f) : f.name = functionName o.operationId := by
  obtain ⟨body, -, h⟩ := Except.bind_eq_ok.mp h
  obtain ⟨result, -, h⟩ := Except.bind_eq_ok.mp h
  obtain ⟨answered, -, h⟩ := Except.bind_eq_ok.mp h
  obtain rfl := Except.pure_eq_ok.mp h
  rfl

end TypeScript

namespace Package

open TypeScript

/-! ### Members of a client -/

/-- The name of the member of an object that starts in a line, four blanks in; none if no member
does. -/
def memberName? (line : String) : Option String :=
  match line.toList with
  | ' ' :: ' ' :: ' ' :: ' ' :: c :: cs =>
    if isWordChar c then some (String.ofList ((c :: cs).takeWhile isWordChar)) else none
  | _ => none

/-- The lines of the object that lines return, with the one that opens it. -/
def returnedLines (lines : List String) : List String :=
  (lines.dropWhile (· ≠ "  return \x7b")).takeWhile (· ≠ "  \x7d;")

/-- The names of the members of the object that lines return. -/
def memberNames (lines : List String) : List String :=
  (returnedLines lines).filterMap memberName?

theorem returnedLines_append {before members after : List String}
    (hbefore : "  return \x7b" ∉ before) (hmembers : "  \x7d;" ∉ members) :
    returnedLines (before ++ "  return \x7b" :: (members ++ "  \x7d;" :: after)) =
      "  return \x7b" :: members := by
  have hstart : ∀ line ∈ before, decide (line ≠ "  return \x7b") = true :=
    fun line hline => decide_eq_true fun h => hbefore (h ▸ hline)
  have hend : ∀ line ∈ members, decide (line ≠ "  \x7d;") = true :=
    fun line hline => decide_eq_true fun h => hmembers (h ▸ hline)
  rw [returnedLines, List.dropWhile_append_of_pos hstart, List.dropWhile_cons_of_neg (by decide),
    List.takeWhile_cons_of_pos (by decide), List.takeWhile_append_of_pos hend,
    List.takeWhile_cons_of_neg (by decide), List.append_nil]

theorem memberName?_eq_some {name line : String} {c : Char} (hne : name ≠ "")
    (hname : ∀ c ∈ name.toList, isWordChar c = true) (hc : isWordChar c = false)
    (hline : "    ".toList ++ name.toList ++ [c] <+: line.toList) :
    memberName? line = some name := by
  obtain ⟨rest, hrest⟩ := hline
  cases hcs : name.toList with
  | nil => exact absurd (String.toList_eq_nil_iff.mp hcs) hne
  | cons d ds =>
    have hhead : isWordChar d = true := hname d (hcs ▸ List.mem_cons_self)
    have htake : (d :: (ds ++ c :: rest)).takeWhile isWordChar = name.toList := by
      rw [← List.cons_append, ← hcs, List.takeWhile_append_of_pos hname,
        List.takeWhile_cons_of_neg (by simp [hc]), List.append_nil]
    have hline : line.toList = ' ' :: ' ' :: ' ' :: ' ' :: d :: (ds ++ c :: rest) := by
      simp [← hrest, hcs]
    rw [memberName?, hline]
    simp only [hhead, if_true, htake, String.ofList_toList]

/-- The member of a function has its name. -/
theorem filterMap_entryLines {wrapper : String} {f : RequestFunction}
    (hne : f.name ≠ "") (hname : ∀ c ∈ f.name.toList, isWordChar c = true) :
    (Factory.entryLines wrapper f).filterMap memberName? = [f.name] := by
  have hentry : memberName? ("    " ++ f.name ++ ": (" ++ f.parameterList ++ "): Promise<" ++
      wrapper ++ "<" ++ f.result.text ++ ">> =>") = some f.name :=
    memberName?_eq_some hne hname (c := ':') (by decide) (by simp [String.append_assoc])
  refine (List.filterMap_cons_some hentry).trans (congrArg _ (List.filterMap_cons_none ?_))
  simp [memberName?, isWordChar, String.append_assoc]

/-- The lines of the factory up to the object that it returns. -/
def Factory.linesBefore (m : Factory) : List String :=
  [banner, "import * as API from './API';",
      "import \x7b ApiContext, createContext \x7d from './apiContext';"] ++
    importLines m.wrapper m.imports ++ [""] ++ optionLines m.configName ++ [""] ++
    m.openingLines.take 10

/-- The lines of the object that the factory returns. -/
def Factory.memberLines (m : Factory) : List String :=
  m.functions.flatMap (entryLines m.wrapper) ++ closingLines.take 4

theorem Factory.lines_eq (m : Factory) : m.lines =
    m.linesBefore ++ "  return \x7b" :: (m.memberLines ++ "  \x7d;" :: ["\x7d"]) := by
  simp only [Factory.lines, linesBefore, memberLines, openingLines, closingLines,
    List.take_succ_cons, List.take_zero, List.append_assoc, List.cons_append, List.nil_append]

theorem Factory.not_mem_linesBefore (m : Factory) : "  return \x7b" ∉ m.linesBefore := by
  have hexport {line : String} (hline : line.toList.head? = some 'e') : "  return \x7b" ≠ line := by
    rintro rfl
    cases hline
  simp only [linesBefore, List.mem_append, or_assoc, not_or]
  refine ⟨by decide, fun h => ?_, by decide, fun h => ?_, by decide, fun h => ?_⟩
  · simp only [importLines, List.mem_append, List.mem_singleton, List.mem_map] at h
    rcases h with (h | ⟨name, -, h⟩) | h
    · exact absurd h (by decide)
    · exact absurd (congrArg (·.toList.getLast?) h) (by simp [List.getLast?_cons])
    · exact absurd h (by decide)
  · rcases List.mem_cons.mp h with h | h
    · exact hexport (by simp [String.append_assoc]) h
    · exact absurd h (by decide)
  · rcases List.mem_cons.mp h with h | h
    · exact hexport (by simp [String.append_assoc]) h
    · exact absurd h (by decide)

theorem Factory.not_mem_memberLines (m : Factory) : "  \x7d;" ∉ m.memberLines := by
  intro h
  rcases List.mem_append.mp h with h | h
  · obtain ⟨f, -, h⟩ := List.mem_flatMap.mp h
    rcases List.mem_pair.mp h with h | h <;>
      exact absurd (congrArg (·.toList[2]?) h) (by simp [String.append_assoc])
  · exact absurd h (by decide)

/-- The factory returns an object with the entries of all functions, and what adds headers. -/
theorem returnedLines_factoryLines (m : Factory) :
    returnedLines m.lines = "  return \x7b" ::
      (m.functions.flatMap (Factory.entryLines m.wrapper) ++ Factory.closingLines.take 4) := by
  rw [m.lines_eq, returnedLines_append m.not_mem_linesBefore m.not_mem_memberLines,
    Factory.memberLines]

/-- The members of a client are called like the functions, and the last one adds headers. -/
theorem memberNames_factoryLines {m : Factory}
    (h : ∀ f ∈ m.functions, f.name ≠ "" ∧ ∀ c ∈ f.name.toList, isWordChar c = true) :
    memberNames m.lines = m.functions.map (·.name) ++ ["addHeaders"] := by
  have hopening : memberName? "  return \x7b" = none := by decide
  have hclosing : (Factory.closingLines.take 4).filterMap memberName? = ["addHeaders"] := by
    decide
  rw [memberNames, returnedLines_factoryLines, List.filterMap_cons_none hopening,
    List.filterMap_append, hclosing, List.filterMap_flatMap, List.map_eq_flatMap]
  refine congrArg (· ++ _) (List.flatMap_congr fun f hf => ?_)
  exact filterMap_entryLines (h f hf).1 (h f hf).2

/-! ### Modules of controllers -/

theorem head?_of_mem_docLines {text line : String} (h : line ∈ docLines text) :
    line.toList.head? ≠ some 'e' := by
  obtain ⟨cs, -, -, rfl⟩ := exists_of_mem_docLines h
  obtain ⟨rest, hrest⟩ := prefix_docLine cs
  rw [← hrest]
  simp

/-- The comment of a function exports nothing. -/
theorem exportedNames_functionComment (f : RequestFunction) :
    exportedNames (functionComment f) = [] := by
  refine exportedNames_eq_nil fun line hline => ?_
  simp only [functionComment, List.mem_append, List.mem_singleton, List.mem_map] at hline
  rcases hline with (((rfl | hline) | rfl) | ⟨a, -, rfl⟩) | rfl
  · decide
  · split at hline
    · cases hline
    · rcases List.mem_append.mp hline with hline | hline
      · exact head?_of_mem_docLines hline
      · rw [List.mem_singleton.mp hline]
        decide
  · decide
  · simp [argumentLine, String.append_assoc]
  · decide

theorem head?_of_mem_queryLines {f : RequestFunction} {line : String} (h : line ∈ queryLines f) :
    line.toList.head? ≠ some 'e' := by
  unfold queryLines at h
  split at h
  · cases h
  · simp only [List.mem_append, List.mem_singleton, List.mem_map] at h
    rcases h with (rfl | ⟨b, -, rfl⟩) | rfl
    · decide
    · simp [bindingLine, String.append_assoc]
    · decide

/-- The declaration of a function exports its name. -/
theorem exportedNames_functionLines {wrapper : String} {f : RequestFunction}
    (hname : ∀ c ∈ f.name.toList, isWordChar c = true) :
    exportedNames (functionLines wrapper f) = [f.name] := by
  have hbody : ∀ line ∈ (functionLines wrapper f).tail, line.toList.head? ≠ some 'e' := by
    intro line hline
    simp only [functionLines, List.cons_append, List.nil_append, List.tail_cons, List.mem_cons,
      List.mem_append, List.mem_map, List.not_mem_nil, or_false] at hline
    rcases hline with rfl | rfl | rfl | rfl | (((⟨b, -, rfl⟩ | rfl) | hquery) | ⟨b, -, rfl⟩) |
      rfl | rfl | rfl
    case inr.inr.inr.inr.inl.inl.inr => exact head?_of_mem_queryLines hquery
    all_goals simp [bindingLine, String.append_assoc]
  have hname : exportedName? ("export async function " ++ f.name ++ "(" ++ f.signature ++
      "): Promise<" ++ wrapper ++ "<" ++ f.result.text ++ ">> \x7b") = some f.name :=
    exportedName?_eq_some (c := '(') (by decide : "export async function " ∈ exportMarks) hname
      (by decide) (by simp [String.append_assoc])
  exact (List.filterMap_cons_some hname).trans (congrArg _ (exportedNames_eq_nil hbody))

/-- The module of a controller exports its functions. -/
theorem exportedNames_controllerLines {m : ControllerModule}
    (h : ∀ f ∈ m.functions, ∀ c ∈ f.name.toList, isWordChar c = true) :
    exportedNames m.lines = m.functions.map (·.name) := by
  have hopening : exportedNames [banner,
      "import \x7b ApiContext, RequestConfig, request \x7d from './apiContext';"] = [] := by
    decide
  have hblank (lines : List String) : exportedNames ("" :: lines) = exportedNames lines := rfl
  rw [ControllerModule.lines, exportedNames_append, exportedNames_append, hopening,
    exportedNames_importLines, List.append_nil, List.nil_append, exportedNames,
    List.filterMap_flatMap, List.map_eq_flatMap]
  refine List.flatMap_congr fun f hf => ?_
  change exportedNames ("" :: (functionComment f ++ functionLines m.wrapper f)) = [f.name]
  rw [hblank, exportedNames_append, exportedNames_functionComment,
    exportedNames_functionLines (h f hf), List.nil_append]

/-! ### Names of functions -/

/-- The ids of all operations of a client, in order. -/
def operationIds (c : Client) : List String :=
  c.controllers.flatMap fun e => e.2.map (·.operationId)

/-- Controllers without operations have no ids. -/
theorem operationIds_eq (c : Client) :
    operationIds c = c.emittable.flatMap fun e => e.2.map (·.operationId) := by
  rw [operationIds, Client.emittable]
  induction c.controllers with
  | nil => rfl
  | cons e t ih =>
    rw [List.flatMap_cons, ih, List.filter_cons]
    split
    · rw [List.flatMap_cons]
    · rename_i hempty
      have hnil : e.2 = [] := by simpa using hempty
      rw [hnil, List.map_nil, List.nil_append]

theorem map_name_of_implements {e : String × List Operation} {file : ControllerFile}
    (h : Implements e file) :
    file.functions.map (·.name) = (e.2.map (·.operationId)).map functionName := by
  have hfunctions := h.functions
  generalize e.2 = os, file.functions = fs at hfunctions
  induction hfunctions with
  | nil => rfl
  | cons ho _ ih => rw [List.map_cons, List.map_cons, List.map_cons, name_of_ofOperation ho, ih]

/-- The functions of modules are called by words. -/
theorem isWordChar_of_mem_controllers {t : Table String (List Operation)}
    {files : List ControllerFile} {file : ControllerFile} (h : List.Forall₂ Implements t files)
    (hfile : file ∈ files) :
    ∀ f ∈ file.functions, ∀ c ∈ f.name.toList, isWordChar c = true := by
  obtain ⟨e, -, he⟩ := exists_of_forall₂ h hfile
  intro f hf
  obtain ⟨o, -, ho⟩ := exists_of_forall₂ he.functions hf
  rw [name_of_ofOperation ho]
  exact isWordChar_of_mem_functionName

/-- The functions of modules are called like the operations. -/
theorem functionNames_of_implements {t : Table String (List Operation)}
    {files : List ControllerFile} (h : List.Forall₂ Implements t files) :
    functionNames files = (t.flatMap fun e => e.2.map (·.operationId)).map functionName := by
  induction h with
  | nil => rfl
  | cons he _ ih =>
    rw [functionNames, List.flatMap_cons, ← functionNames, ih, map_name_of_implements he,
      List.flatMap_cons, List.map_append]

/-- How the functions of modules and the members of a client are called. -/
structure NamesFunctions (c : Client) (wrapper : String) (controllers : List ControllerFile) :
    Prop where
  /-- The modules of the controllers export one function for every operation. -/
  functions : (controllers.flatMap fun file =>
      exportedNames (ControllerModule.lines ⟨wrapper, file.functions⟩)) =
    (operationIds c).map functionName
  /-- A client has one member for every operation, and one that adds headers. -/
  members : memberNames (Factory.lines ⟨configName c.name, c.baseUrl, wrapper,
      controllers.flatMap (·.functions)⟩) =
    (operationIds c).map functionName ++ ["addHeaders"]
  /-- The names are identifiers. -/
  identifiers : ∀ n ∈ (operationIds c).map functionName, isIdentifier n.toList = true
  /-- No two functions have one name. -/
  nodup : ((operationIds c).map functionName).Nodup
  /-- No function is called by a reserved word exactly if no operation is. -/
  unreserved : (∀ n ∈ (operationIds c).map functionName, n ∉ reservedWords) ↔
    ∀ id ∈ operationIds c, id ∉ reservedWords
  /-- The members have different names exactly if no operation is called like the one that adds
  headers. -/
  distinct : ((operationIds c).map functionName ++ ["addHeaders"]).Nodup ↔
    "addHeaders" ∉ operationIds c

/-- **Names of functions.** If all operations of a client have names, the functions of its package
and the members of the object that it makes are called by identifiers, one for each operation. None
is a reserved word exactly if no operation is called by one, and none is that of the member that
adds headers exactly if no operation is called so. -/
theorem namesFunctions_of_ofClient {c : Client} {packageName : String}
    {fs : List (String × String)} (hids : ∀ id ∈ operationIds c, id ≠ "")
    (h : ofClient c packageName = .ok fs) :
    ∃ models text controllers, modulesOf c = .ok (models, controllers) ∧
      fs = files c packageName models.wrapper text controllers ∧
      NamesFunctions c models.wrapper controllers := by
  obtain ⟨models, text, controllers, hmodules, -, hfs⟩ := ofClient_eq_ok h
  obtain ⟨-, -, hfit, himplements⟩ := fit_of_modulesOf hmodules
  have hnames : functionNames controllers = (operationIds c).map functionName := by
    rw [functionNames_of_implements himplements, operationIds_eq]
  have hled : ∀ n ∈ (operationIds c).map functionName, isLedWord n.toList = true :=
    List.forall_mem_map.mpr fun id hid => isLedWord_functionName (hids id hid)
  have hwords : ∀ f ∈ controllers.flatMap (·.functions), f.name ≠ "" ∧
      ∀ c ∈ f.name.toList, isWordChar c = true := by
    intro f hf
    obtain ⟨file, hfile, hf⟩ := List.mem_flatMap.mp hf
    have hmem : f.name ∈ functionNames controllers :=
      List.mem_flatMap.mpr ⟨file, hfile, List.mem_map_of_mem hf⟩
    rw [hnames] at hmem
    refine ⟨fun hempty => ?_, ?_⟩
    · have hname := hled _ hmem
      rw [hempty] at hname
      cases hname
    · obtain ⟨id, -, hid⟩ := List.mem_map.mp hmem
      exact hid ▸ isWordChar_of_mem_functionName
  refine ⟨models, text, controllers, hmodules, hfs, ?_⟩
  exact {
    functions := by
      rw [← hnames, functionNames]
      refine List.flatMap_congr fun file hfile => exportedNames_controllerLines fun f hf => ?_
      exact (hwords f (List.mem_flatMap.mpr ⟨file, hfile, hf⟩)).2
    members := by
      rw [memberNames_factoryLines hwords, List.map_flatMap, ← hnames]
      rfl
    identifiers := fun n hn => isIdentifier_of_isLedWord (hled n hn)
    nodup := hnames ▸ hfit.functions
    unreserved := by
      simp only [List.forall_mem_map, functionName_mem_reservedWords_iff]
    distinct := by
      simp only [List.nodup_append', hnames ▸ hfit.functions, List.nodup_singleton,
        List.disjoint_singleton, List.mem_map, functionName_eq_addHeaders_iff, exists_eq_right,
        true_and] }

/-- A client with two operations, whose names are no identifiers. -/
def petVisits : Client where
  controllers := [
    ("pets", [{ method := .get, path := "/pets", operationId := "list-pets" }]),
    ("visits", [{ method := .post, path := "/visits", operationId := "2nd visit" }])]
  name := "Pet visits"

theorem namesFunctions_of_ofClient_petVisits :
    (∀ id ∈ operationIds petVisits, id ≠ "") ∧ ∃ fs, ofClient petVisits "pet-visits" = .ok fs ∧
      ∃ models text controllers, modulesOf petVisits = .ok (models, controllers) ∧
        fs = files petVisits "pet-visits" models.wrapper text controllers ∧
        NamesFunctions petVisits models.wrapper controllers := by
  have hids : ∀ id ∈ operationIds petVisits, id ≠ "" := by decide
  have hfiles : ∃ fs, ofClient petVisits "pet-visits" = .ok fs := by decide +kernel
  obtain ⟨fs, hfiles⟩ := hfiles
  exact ⟨hids, fs, hfiles, namesFunctions_of_ofClient hids hfiles⟩

/-- A client whose only operation is called by a reserved word. -/
def fileRemoval : Client where
  controllers := [("files", [{ method := .delete, path := "/files", operationId := "delete" }])]
  name := "Files"

/-- A client whose only operation is called like the member that adds headers. -/
def headerChanges : Client where
  controllers := [
    ("changes", [{ method := .post, path := "/changes", operationId := "addHeaders" }])]
  name := "Changes"

/-- A client is refused neither for an operation that is called by a reserved word, nor for one that
is called like the member that adds headers. -/
theorem not_namesFunctions_of_ofClient :
    (∃ fs, ofClient fileRemoval "files" = .ok fs ∧ ∃ m, modulesOf fileRemoval = .ok m ∧
      ∃ file ∈ m.2, ("src/files.ts",
          Text.unlines (ControllerModule.lines ⟨m.1.wrapper, file.functions⟩)) ∈ fs ∧
        exportedNames (ControllerModule.lines ⟨m.1.wrapper, file.functions⟩) = ["delete"] ∧
        "delete" ∈ reservedWords) ∧
    ∃ fs, ofClient headerChanges "changes" = .ok fs ∧ ∃ m, modulesOf headerChanges = .ok m ∧
      ("src/createClient.ts", Text.unlines (Factory.lines
          ⟨"ChangesConfig", "", m.1.wrapper, m.2.flatMap (·.functions)⟩)) ∈ fs ∧
      memberNames (Factory.lines
          ⟨"ChangesConfig", "", m.1.wrapper, m.2.flatMap (·.functions)⟩) =
        ["addHeaders", "addHeaders"] := by
  decide +kernel

end Package

end ClientGen
