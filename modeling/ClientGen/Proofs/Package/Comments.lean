import ClientGen.Package.Controller
import ClientGen.Package.Fixed
import ClientGen.Proofs.TypeScript.Arguments
import ClientGen.Proofs.TypeScript.Comments

/-!
# Comments of generated modules

The comment of a function ends with the mark in its last line. The summary of the operation brings
no mark into it, and neither do names. What a parameter has as its format and what the type of the
body quotes stand in it as they are, so each mark in them ends the comment early. The first line of
the entry of a package is a comment as well; it has the name and the version of the package as they
are, and is one line only if they are.

## Main definitions

* `ClientGen.TypeScript.Argument.inserted` : the texts that the line of an argument has as they are.
* `ClientGen.Package.isLineTerminator` : the characters that end a line of a module.

## Main results

* `ClientGen.Package.endMarks_functionComment` : the marks in the comment of a function.
* `ClientGen.Package.splitOnP_indexText` : the lines of the entry of a package.
* `ClientGen.Package.marks_of_functions_and_lines_of_index` : what the document does to comments.
-/

namespace ClientGen

open Text

/-! ### Lines of arguments -/

namespace TypeScript

/-- The texts of the document that the line of an argument has as they are. -/
def Argument.inserted : Argument → List String
  | .parameter b => b.parameter.format.toList
  | .body b => b.type.quotes

/-- What the type of a body names are declarations, whose names have no marks. -/
theorem endMarks_of_mem_models_bindBody {taken : List String} {v : Value} {b : BodyBinding}
    (h : bindBody taken v = .ok (some b)) : ∀ n ∈ b.type.models, endMarks n.toList = 0 := by
  obtain ⟨hnone, -⟩ | ⟨b', hsome, ht, -⟩ := schema_of_bindBody h
  · cases hnone
  · obtain rfl := Option.some.inj hsome
    intro n hn
    obtain ⟨v, name, -, -, rfl⟩ := names_of_typeWithin ht hn
    exact endMarks_of_isWordChar isWordChar_of_mem_typeName

theorem endMarks_parameterType (primitiveType : String) (format : Option String) :
    endMarks (parameterType primitiveType format).toList = 0 := by
  unfold parameterType
  split
  · rfl
  · split <;> rfl

/-- A format has its own marks in the description of its parameter. -/
theorem endMarks_formatNote (format : Option String) :
    endMarks (Argument.formatNote format).toList = totalMarks format.toList := by
  have hopening : IsSpacer " (" := by decide
  cases format with
  | none => rfl
  | some s =>
    unfold Argument.formatNote
    dsimp only
    split
    · rename_i hempty
      obtain rfl := String.isEmpty_iff.mp hempty
      rfl
    · rw [hopening.endMarks_enclose (by decide)]
      exact (Nat.add_zero _).symm

theorem endMarks_variable {name : String} (h : ∀ c ∈ name.toList, isVariableChar c = true)
    (required : Bool) :
    endMarks (if required then name else "[" ++ name ++ "]").toList = 0 := by
  have hstar : '*' ∉ name.toList := fun hmem => absurd (h _ hmem) (by decide)
  cases required with
  | true => exact endMarks_eq_zero_of_not_mem hstar
  | false =>
    have hopening : IsSpacer "[" := by decide
    rw [if_neg (by decide), hopening.endMarks_enclose (by decide)]
    exact endMarks_eq_zero_of_not_mem hstar

end TypeScript

namespace Package

open TypeScript

variable {o : Operation} {f : RequestFunction}

/-- The line of an argument has the marks of the texts that stand in it as they are. -/
theorem endMarks_argumentLine {a : Argument}
    (hvariable : ∀ c ∈ a.variableName.toList, isVariableChar c = true)
    (hmodels : ∀ b, a = .body b → ∀ n ∈ b.type.models, endMarks n.toList = 0) :
    endMarks (argumentLine a).toList = totalMarks a.inserted := by
  have hopening : IsSpacer " * @param \x7b" := by decide
  have hclosing : IsSpacer "\x7d " := by decide
  have hdash : IsSpacer " - " := by decide
  have hline : endMarks (argumentLine a).toList =
      endMarks a.type.toList + endMarks a.description.toList := by
    unfold argumentLine
    simp only [String.toList_append, List.append_assoc]
    rw [hopening.endMarks_prepend, hclosing.endMarks_between, hdash.endMarks_between,
      endMarks_variable hvariable, Nat.zero_add]
  rw [hline]
  cases a with
  | parameter b =>
    have hspacer : IsSpacer " parameter" := by decide
    have hword : endMarks b.parameter.location.word.toList = 0 := by
      cases b.parameter.location <;> rfl
    rw [Argument.type, endMarks_parameterType, Argument.description, Argument.inserted,
      String.toList_append, String.toList_append, List.append_assoc, hspacer.endMarks_between,
      hword, endMarks_formatNote, Nat.zero_add, Nat.zero_add]
  | body b =>
    have hbody : endMarks "Request body".toList = 0 := rfl
    rw [Argument.type, Argument.description, Argument.inserted, hbody, Nat.add_zero,
      endMarks_text b.type (hmodels b rfl)]

/-- The lines of all arguments have the marks of the texts that stand in them as they are. -/
theorem totalMarks_map_argumentLine (h : RequestFunction.ofOperation o = .ok f) :
    totalMarks (f.arguments.map argumentLine) =
      totalMarks (f.arguments.flatMap Argument.inserted) := by
  have hline : ∀ a ∈ f.arguments, endMarks (argumentLine a).toList = totalMarks a.inserted := by
    refine fun a ha => endMarks_argumentLine
      (RequestFunction.isVariableChar_of_mem_arguments h a ha) fun b hb => ?_
    obtain ⟨-, hbody⟩ := RequestFunction.bindings_of_ofOperation h
    rcases RequestFunction.mem_arguments.mp ha with ⟨b', hb', rfl⟩ | ⟨b', -, rfl⟩
    · obtain rfl := Argument.body.inj hb
      exact endMarks_of_mem_models_bindBody (hb' ▸ hbody)
    · cases hb
  revert hline
  induction f.arguments with
  | nil => exact fun _ => rfl
  | cons a as ih =>
    intro hline
    obtain ⟨ha, has⟩ := List.forall_mem_cons.mp hline
    rw [List.map_cons, totalMarks_cons, ha, ih has, List.flatMap_cons, totalMarks_append]

/-! ### Comments of functions -/

/-- The comment of a function has the mark of its last line, and those of the texts that stand in it
as they are. -/
theorem endMarks_functionComment (h : RequestFunction.ofOperation o = .ok f) :
    endMarks (unlines (functionComment f)).toList =
      1 + totalMarks (f.arguments.flatMap Argument.inserted) := by
  have hsummary :
      totalMarks (if f.summary.isEmpty then [] else docLines f.summary ++ [" *"]) = 0 := by
    split
    · rfl
    · rw [totalMarks_append, totalMarks_eq_zero.mpr (endMarks_of_mem_docLines f.summary)]
      rfl
  have hends : totalMarks ["/**"] = 0 ∧
      totalMarks [" * @param \x7bApiContext\x7d ctx - Client context"] = 0 ∧
      totalMarks [" */"] = 1 := by decide
  rw [endMarks_unlines, functionComment, totalMarks_append, totalMarks_append, totalMarks_append,
    totalMarks_append, hsummary, hends.1, hends.2.1, hends.2.2, totalMarks_map_argumentLine h]
  omega

theorem unlines_append (ls ms : List String) : unlines (ls ++ ms) = unlines ls ++ unlines ms := by
  rw [unlines, List.map_append, String.join_append]
  rfl

/-- The comment of a function stands in the module of its controller. -/
theorem exists_text_eq {m : ControllerModule} (hf : f ∈ m.functions) :
    ∃ before after, m.text = before ++ unlines (functionComment f) ++ after := by
  obtain ⟨fs, gs, hfs⟩ := List.append_of_mem hf
  have hcut (xs ls ms ys : List String) :
      xs ++ ("" :: ls ++ ms ++ ys) = (xs ++ [""]) ++ ls ++ (ms ++ ys) := by simp
  have hlines : ∃ before after, m.text = unlines (before ++ functionComment f ++ after) := by
    rw [ControllerModule.text, ControllerModule.lines, hfs, List.flatMap_append, List.flatMap_cons,
      ← List.append_assoc]
    exact ⟨_, _, congrArg unlines (hcut _ _ _ _)⟩
  obtain ⟨before, after, htext⟩ := hlines
  exact ⟨unlines before, unlines after, by rw [htext, unlines_append, unlines_append]⟩

/-! ### The entry of a package -/

/-- The characters that end a line of a module, and a comment of one line with it. -/
def isLineTerminator (c : Char) : Bool :=
  c = '\n' || c = '\r' || c = '\u2028' || c = '\u2029'

theorem isLineTerminator_of_all {cs : List Char} (h : cs.all (!isLineTerminator ·) = true) :
    ∀ c ∈ cs, isLineTerminator c = false := by
  simpa using h

/-- Lines without line terminators are the lines of their text. -/
theorem splitOnP_unlines {ls : List String}
    (h : ∀ l ∈ ls, ∀ c ∈ l.toList, isLineTerminator c = false) :
    (unlines ls).toList.splitOnP isLineTerminator = ls.map String.toList ++ [[]] := by
  induction ls with
  | nil => rfl
  | cons l ls ih =>
    obtain ⟨hl, hls⟩ := List.forall_mem_cons.mp h
    have hfirst : (unlines (l :: ls)).toList = l.toList ++ '\n' :: (unlines ls).toList := by
      simp [unlines, String.toList_join]
    rw [hfirst, List.splitOnP_append_cons_of_forall_mem hl '\n' rfl, ih hls]
    rfl

/-- The exports of the entry of a package. -/
def indexExports : List String :=
  ["export * from './models';", "export * from './apiContext';", "export * from './createClient';"]

theorem isLineTerminator_of_mem_indexBanner {packageName version : String} :
    (∀ c ∈ (indexBanner packageName version).toList, isLineTerminator c = false) ↔
      ∀ c ∈ packageName.toList ++ version.toList, isLineTerminator c = false := by
  have hopening : ∀ c ∈ "// ".toList, isLineTerminator c = false :=
    isLineTerminator_of_all (by decide)
  have hblank : ∀ c ∈ " ".toList, isLineTerminator c = false :=
    isLineTerminator_of_all (by decide)
  have hclosing : ∀ c ∈ " -- generated by sdkmaker. Do not edit.".toList,
      isLineTerminator c = false := isLineTerminator_of_all (by decide)
  have hversion : (∀ c ∈ (if version.isEmpty then "" else " " ++ version).toList,
      isLineTerminator c = false) ↔ ∀ c ∈ version.toList, isLineTerminator c = false := by
    split
    · rename_i hempty
      rw [String.isEmpty_iff.mp hempty]
    · rw [String.toList_append, List.forall_mem_append, and_iff_right hblank]
  rw [indexBanner, String.toList_append, String.toList_append, String.toList_append,
    List.forall_mem_append, List.forall_mem_append, List.forall_mem_append, hversion,
    List.forall_mem_append, and_iff_left hclosing, and_iff_right hopening]

/-- The entry of a package has its first line and its exports for lines exactly if the name and the
version of the package have no line terminators. -/
theorem splitOnP_indexText (packageName version : String) :
    (indexText packageName version).toList.splitOnP isLineTerminator =
        (indexBanner packageName version :: indexExports).map String.toList ++ [[]] ↔
      ∀ c ∈ packageName.toList ++ version.toList, isLineTerminator c = false := by
  rw [← isLineTerminator_of_mem_indexBanner]
  constructor
  · intro h
    have hmem : (indexBanner packageName version).toList ∈
        (indexText packageName version).toList.splitOnP isLineTerminator := by
      rw [h]
      exact List.mem_cons_self
    exact not_of_mem_splitOnP _ hmem
  · intro h
    have hall : ∀ l ∈ indexExports, l.toList.all (!isLineTerminator ·) = true := by decide
    have hexports : ∀ l ∈ indexExports, ∀ c ∈ l.toList, isLineTerminator c = false :=
      fun l hl => isLineTerminator_of_all (hall l hl)
    exact splitOnP_unlines (List.forall_mem_cons.mpr ⟨h, hexports⟩)

/-! ### What the document does to comments -/

/-- **Comments.** The comment of every function ends with its own mark, and ends before it exactly
at the marks in the formats of parameters and in what the type of the body quotes. The entry of a
package has its first line and its exports for lines exactly if the name and the version of the
package have no line terminators. -/
theorem marks_of_functions_and_lines_of_index {os : List Operation} {fs : List RequestFunction}
    (h : os.mapM RequestFunction.ofOperation = .ok fs) :
    (∀ wrapper, ∀ f ∈ fs,
      (∃ before after, ControllerModule.text ⟨wrapper, fs⟩ =
        before ++ unlines (functionComment f) ++ after) ∧
      endMarks (unlines (functionComment f)).toList =
        1 + totalMarks (f.arguments.flatMap Argument.inserted)) ∧
    ∀ packageName version,
      ((indexText packageName version).toList.splitOnP isLineTerminator =
          (indexBanner packageName version :: indexExports).map String.toList ++ [[]] ↔
        ∀ c ∈ packageName.toList ++ version.toList, isLineTerminator c = false) := by
  refine ⟨fun wrapper f hf => ⟨exists_text_eq hf, ?_⟩, splitOnP_indexText⟩
  obtain ⟨o, -, ho⟩ := exists_of_forall₂ (mapM_eq_ok_iff.mp h) hf
  exact endMarks_functionComment ho

/-- An operation with a summary, a body and a parameter that all have the mark in them. -/
def markedOperation : Operation where
  method := .post
  path := "/pets"
  operationId := "addPet"
  summary := some "Adds a pet */ to the shop"
  parameters := some [.primitive
    { modelName := none, isReference := false, name := "day", location := .query, required := true
      primitiveType := "string", format := some "*/" }]
  requestBody := some [("content", .ofFields [("application/json", .ofFields
    [("schema", .ofFields [("type", .text "object"), ("properties", .ofFields
      [("a*/b", .ofFields [("enum", .sequence [.text "*/", .text "c"])])])])])])]

theorem marks_of_functions_and_lines_of_index_markedOperation :
    ∃ fs, [markedOperation].mapM RequestFunction.ofOperation = .ok fs ∧
      (∀ wrapper, ∀ f ∈ fs,
        (∃ before after, ControllerModule.text ⟨wrapper, fs⟩ =
          before ++ unlines (functionComment f) ++ after) ∧
        endMarks (unlines (functionComment f)).toList =
          1 + totalMarks (f.arguments.flatMap Argument.inserted)) ∧
      ∀ packageName version,
        ((indexText packageName version).toList.splitOnP isLineTerminator =
            (indexBanner packageName version :: indexExports).map String.toList ++ [[]] ↔
          ∀ c ∈ packageName.toList ++ version.toList, isLineTerminator c = false) := by
  have hrun : ∃ fs, [markedOperation].mapM RequestFunction.ofOperation = .ok fs := by
    decide +kernel
  obtain ⟨fs, hfs⟩ := hrun
  exact ⟨fs, hfs, marks_of_functions_and_lines_of_index hfs⟩

/-- The document can end a comment early, and so can the name of a package. -/
theorem not_one_mark_and_not_one_line :
    (∃ fs, [markedOperation].mapM RequestFunction.ofOperation = .ok fs ∧
      ∃ f ∈ fs, endMarks (unlines (functionComment f)).toList = 4) ∧
    ¬ (indexText "pets\nshop" "").toList.splitOnP isLineTerminator =
      (indexBanner "pets\nshop" "" :: indexExports).map String.toList ++ [[]] := by
  refine ⟨by decide +kernel, ?_⟩
  rw [splitOnP_indexText]
  intro h
  have hbreak := h '\n' (by decide)
  exact absurd hbreak (by decide)

end Package

end ClientGen
