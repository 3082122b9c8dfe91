import ClientGen.Proofs.Package.Comments
import ClientGen.Proofs.Package.Members

/-!
# Texts of generated modules

The module that gathers the controllers exports what their modules export, one after the other. In
the module of a controller the declarations of its functions stand in order, and in the factory the
entries for all functions, in the object that it returns.

## Main definitions

* `ClientGen.Package.reexport?` : the module that a line exports again.
* `ClientGen.Package.Gathers` : a text exports what some modules export, and nothing else.
* `ClientGen.Package.StandIn` : blocks of lines stand in lines, one after the other.

## Main results

* `ClientGen.Package.gathers_aggregatorText` : what gathers modules.
* `ClientGen.Package.standIn_controllerLines` : the declarations of functions stand in their module.
* `ClientGen.Package.exists_returnedLines_eq` : the entries for functions stand in the factory.
-/

namespace ClientGen.Package

open Text TypeScript

/-! ### Modules that are exported again -/

/-- The module that a line exports again, if it does nothing else. -/
def reexport? (line : List Char) : Option String :=
  let start := "export * from './".toList
  let name := (line.drop start.length).takeWhile isWordChar
  if line = start ++ name ++ "';".toList then some (String.ofList name) else none

theorem reexport?_eq_some {m : String} (hm : ∀ c ∈ m.toList, isWordChar c = true) :
    reexport? ("export * from './" ++ m ++ "';").toList = some m := by
  have hname : (("export * from './" ++ m ++ "';").toList.drop "export * from './".toList.length
      ).takeWhile isWordChar = m.toList := by
    rw [String.toList_append, String.toList_append, List.append_assoc, List.drop_left,
      List.takeWhile_append_of_pos hm]
    simp [isWordChar]
  have hline : ("export * from './" ++ m ++ "';").toList =
      "export * from './".toList ++ m.toList ++ "';".toList := by
    rw [String.toList_append, String.toList_append]
  rw [reexport?, hname, if_pos hline, String.ofList_toList]

/-- The text has a line of comment and then one line for each of the modules, which exports what the
module does. -/
def Gathers (text : String) (modules : List String) : Prop :=
  ∃ comment ls, text.toList.splitOnP isLineTerminator = comment :: ls ++ [[]] ∧
    "//".toList <+: comment ∧ ls.map reexport? = modules.map some

theorem isLineTerminator_of_isWordChar {m : String} (hm : ∀ c ∈ m.toList, isWordChar c = true) :
    ∀ c ∈ ("export * from './" ++ m ++ "';").toList, isLineTerminator c = false := by
  have hword : ∀ c ∈ m.toList, isLineTerminator c = false := by
    intro c hc
    by_contra hend
    simp only [isLineTerminator, Bool.not_eq_false, Bool.or_eq_true, decide_eq_true_iff] at hend
    rcases hend with ((rfl | rfl) | rfl) | rfl <;> exact absurd (hm _ hc) (by decide)
  rw [String.toList_append, String.toList_append, List.forall_mem_append, List.forall_mem_append]
  exact ⟨⟨isLineTerminator_of_all (by decide), hword⟩, isLineTerminator_of_all (by decide)⟩

/-- Modules that are named with words are gathered. -/
theorem gathers_aggregatorText {modules : List String}
    (h : ∀ m ∈ modules, ∀ c ∈ m.toList, isWordChar c = true) :
    Gathers (aggregatorText modules) modules := by
  have hbanner : ∀ c ∈ banner.toList, isLineTerminator c = false :=
    isLineTerminator_of_all (by decide)
  have hexports : ∀ l ∈ modules.map fun m => "export * from './" ++ m ++ "';",
      ∀ c ∈ l.toList, isLineTerminator c = false :=
    List.forall_mem_map.mpr fun m hm => isLineTerminator_of_isWordChar (h m hm)
  refine ⟨banner.toList, (modules.map fun m => "export * from './" ++ m ++ "';").map String.toList,
    splitOnP_unlines (List.forall_mem_cons.mpr ⟨hbanner, hexports⟩), by decide, ?_⟩
  rw [List.map_map, List.map_map]
  exact List.map_congr_left fun m hm => reexport?_eq_some (h m hm)

/-! ### Blocks of lines -/

/-- The blocks stand in the lines, one after the other. -/
inductive StandIn : List (List String) → List String → Prop
  | nil (lines : List String) : StandIn [] lines
  | cons (before block : List String) {blocks : List (List String)} {lines : List String}
      (h : StandIn blocks lines) : StandIn (block :: blocks) (before ++ block ++ lines)

namespace StandIn

variable {blocks : List (List String)} {lines : List String}

theorem append_left (before : List String) (h : StandIn blocks lines) :
    StandIn blocks (before ++ lines) := by
  cases h with
  | nil => exact nil _
  | cons before' block h =>
    rw [← List.append_assoc, ← List.append_assoc]
    exact cons (before ++ before') block h

/-- A block for each item stands in what is made of all items, if it stands in what is made of the
item. -/
theorem flatMap {α : Type} {block part : α → List String} (h : ∀ x, block x <:+: part x)
    (xs : List α) : StandIn (xs.map block) (xs.flatMap part) := by
  induction xs with
  | nil => exact nil _
  | cons x xs ih =>
    obtain ⟨before, after, hpart⟩ := h x
    rw [List.map_cons, List.flatMap_cons, ← hpart, List.append_assoc (before ++ block x)]
    exact cons before (block x) (ih.append_left after)

end StandIn

/-- The declarations of the functions of a module stand in it, in order. -/
theorem standIn_controllerLines (m : ControllerModule) :
    StandIn (m.functions.map (functionLines m.wrapper)) m.lines := by
  have hfunction (f : RequestFunction) :
      functionLines m.wrapper f <:+: "" :: functionComment f ++ functionLines m.wrapper f :=
    (List.suffix_append _ _).isInfix
  exact (StandIn.flatMap hfunction m.functions).append_left _

/-- The entries for functions stand in the object that the factory returns, in order, and only the
one that adds headers comes after them. -/
theorem exists_returnedLines_eq (m : Factory) :
    ∃ more, returnedLines m.lines =
        "  return \x7b" :: m.functions.flatMap (Factory.entryLines m.wrapper) ++ more ∧
      more.filterMap memberName? = ["addHeaders"] :=
  ⟨_, returnedLines_factoryLines m, by decide⟩

end ClientGen.Package
