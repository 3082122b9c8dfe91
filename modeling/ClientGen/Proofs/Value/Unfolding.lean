import Mathlib.Data.Finset.Union
import ClientGen.Proofs.Value.Web

/-!
# Value graphs as webs

A value graph is a web: its nodes are its parts, and the entries of its ordered lists of entries.
Writing a part out as a tree gives the value of the node, so that the tree of a part shows the trees
of its own parts, and more fuel than there are parts changes nothing.

## Main definitions

* `ClientGen.GraphNode`, `ClientGen.ValueGraph.webOf` : a value graph as a web.
* `ClientGen.ValueGraph.part` : a part of a value graph as a tree.

## Main results

* `ClientGen.ValueGraph.unfold_eq_tree` : the tree of a part is the value of its node.
* `ClientGen.ValueGraph.unfold_of_size_lt` : the fuel that a graph needs.
-/

namespace ClientGen

open Relation

/-- The nodes of a value graph. -/
inductive GraphNode where
  /-- The part of that number. -/
  | cell (id : Nat)
  /-- An entry of the part of that number. -/
  | entry (id index : Nat)
  deriving DecidableEq

namespace ValueGraph

open GraphNode

/-- The entry of that index, in the part of that number. -/
def entryAt? (cells : Array Cell) (id index : Nat) : Option (Nat × Nat) :=
  match cells[id]? with
  | some (.pairs es) => es[index]?
  | _ => none

/-- What the node of a part is made of. -/
def cellShape (id : Nat) : Option Cell → Shape GraphNode
  | none => .scalar .null
  | some (.scalar s) => .scalar s
  | some (.members ks) => .members ks
  | some (.sequence ids) => .sequence (ids.map cell)
  | some (.mapping es) => .mapping (es.map fun e => (e.1, cell e.2))
  | some (.pairs es) => .sequence (es.mapIdx fun i _ => entry id i)

/-- What the node of an entry is made of. -/
def entryShape : Option (Nat × Nat) → Shape GraphNode
  | some e => .pair (cell e.1) (cell e.2)
  | none => .scalar .null

/-- What a node is made of. -/
def shapeOf (cells : Array Cell) : GraphNode → Shape GraphNode
  | cell id => cellShape id cells[id]?
  | entry id i => entryShape (entryAt? cells id i)

/-- The name of a node. -/
def nameOf (cells : Array Cell) : GraphNode → Nat
  | cell id => id
  | entry id i => pairName cells id i

/-- The number of entries of a part. -/
def entryCount (cells : Array Cell) (id : Nat) : Nat :=
  match cells[id]? with
  | some (.pairs es) => es.length
  | _ => 0

/-- The nodes of the parts and of their entries. -/
def innerOf (cells : Array Cell) : Finset GraphNode :=
  (Finset.range cells.size).image cell ∪
    (Finset.range cells.size).biUnion fun id =>
      (Finset.range (entryCount cells id)).image (entry id)

variable {cells : Array Cell}

theorem cell_mem_innerOf {id : Nat} : cell id ∈ innerOf cells ↔ id < cells.size := by
  simp [innerOf]

theorem entry_mem_innerOf {id i : Nat} :
    entry id i ∈ innerOf cells ↔ id < cells.size ∧ i < entryCount cells id := by
  simp [innerOf]

theorem lt_size_of_getElem? {id : Nat} {c : Cell} (h : cells[id]? = some c) : id < cells.size := by
  by_contra hsize
  cases (Array.getElem?_eq_none (Nat.not_lt.mp hsize)).symm.trans h

theorem lt_entryCount {id i : Nat} {e : Nat × Nat} (h : entryAt? cells id i = some e) :
    id < cells.size ∧ i < entryCount cells id := by
  unfold entryAt? at h
  split at h
  · rename_i es hid
    rw [entryCount, hid]
    exact ⟨lt_size_of_getElem? hid, (List.getElem?_eq_some_iff.mp h).1⟩
  · cases h

theorem mem_innerOf {n c : GraphNode} (h : c ∈ (shapeOf cells n).parts) : n ∈ innerOf cells := by
  cases n with
  | cell id =>
    rw [cell_mem_innerOf]
    rw [shapeOf] at h
    cases hid : cells[id]? with
    | none => rw [hid] at h; cases h
    | some c => exact lt_size_of_getElem? hid
  | entry id i =>
    rw [entry_mem_innerOf]
    rw [shapeOf] at h
    cases he : entryAt? cells id i with
    | none => rw [he] at h; cases h
    | some e => exact lt_entryCount he

theorem size_le_pairName {id i : Nat} : cells.size ≤ pairName cells id i :=
  Nat.le_add_right_of_le (Nat.le_mul_of_pos_right _ (Nat.succ_pos i))

theorem eq_of_nameOf {a b : GraphNode} (ha : a ∈ innerOf cells) (hb : b ∈ innerOf cells)
    (h : nameOf cells a = nameOf cells b) : a = b := by
  cases a with
  | cell id =>
    rw [cell_mem_innerOf] at ha
    cases b with
    | cell id' => exact congrArg cell h
    | entry id' i' =>
      have hle : cells.size ≤ id := le_of_le_of_eq size_le_pairName h.symm
      omega
  | entry id i =>
    rw [entry_mem_innerOf] at ha
    cases b with
    | cell id' =>
      rw [cell_mem_innerOf] at hb
      have hle : cells.size ≤ id' := le_of_le_of_eq size_le_pairName h
      omega
    | entry id' i' =>
      rw [entry_mem_innerOf] at hb
      have hid : id = id' := by
        have hmod := congrArg (· % cells.size) h
        simpa [nameOf, pairName, Nat.mod_eq_of_lt ha.1, Nat.mod_eq_of_lt hb.1] using hmod
      have hi : i = i' := by
        have hmul : cells.size * (i + 1) = cells.size * (i' + 1) := by
          simpa [nameOf, pairName, hid] using h
        have := Nat.eq_of_mul_eq_mul_left (by omega) hmul
        omega
      rw [hid, hi]

/-- A value graph as a web. -/
def webOf (cells : Array Cell) : Web GraphNode where
  shape := shapeOf cells
  name := nameOf cells
  inner := innerOf cells
  mem_inner := mem_innerOf
  eq_of_name := eq_of_nameOf

/-! ### Parts written out -/

/-- Only the part of that number leads to an entry. -/
theorem eq_of_child_entry {n : GraphNode} {id i : Nat} (h : (webOf cells).Child n (entry id i)) :
    n = cell id := by
  change entry id i ∈ (shapeOf cells n).parts at h
  cases n with
  | cell id' =>
    rw [shapeOf] at h
    rcases hc : cells[id']? with _ | _ | ids | es | _ | es <;> rw [hc] at h
    · cases h
    · cases h
    · simp [cellShape, Shape.parts] at h
    · simp [cellShape, Shape.parts] at h
    · cases h
    · simp only [cellShape, Shape.parts, List.mem_mapIdx] at h
      obtain ⟨j, -, hj⟩ := h
      rw [(entry.inj hj).1]
  | entry id' i' =>
    rw [shapeOf] at h
    rcases he : entryAt? cells id' i' with _ | e <;> rw [he] at h
    · cases h
    · simp [entryShape, Shape.parts] at h

/-- An entry on the way changes nothing below a part that is on the way itself. -/
theorem tree_entry_cons {path : List GraphNode} {id i k : Nat} (h : cell id ∈ path) :
    (webOf cells).tree (entry id i :: path) (cell k) = (webOf cells).tree path (cell k) := by
  refine Web.tree_congr fun m hm => ?_
  have hne : m ≠ entry id i := by
    rintro rfl
    rcases hm.cases_tail with hm | ⟨n, -, hnot, hchild⟩
    · cases hm
    · rw [eq_of_child_entry hchild] at hnot
      exact hnot (List.mem_cons_of_mem _ h)
  rw [List.mem_cons]
  exact or_iff_right hne

theorem tree_entry {path : List GraphNode} {id i : Nat} {e : Nat × Nat} (h : cell id ∈ path)
    (hnot : entry id i ∉ path) (he : entryAt? cells id i = some e) :
    (webOf cells).tree path (entry id i) =
      (Value.pair ((webOf cells).tree path (cell e.1)) ((webOf cells).tree path (cell e.2))).tie
        (pairName cells id i) := by
  rw [Web.tree_of_not_mem hnot]
  change ((entryShape (entryAt? cells id i)).build _).tie _ = _
  rw [he, entryShape, Shape.build, tree_entry_cons h, tree_entry_cons h]
  rfl

theorem card_unvisited_lt {path : List Nat} {id : Nat} (hid : id < cells.size) (h : id ∉ path) :
    ((Finset.range cells.size).filter (· ∉ id :: path)).card <
      ((Finset.range cells.size).filter (· ∉ path)).card := by
  refine Finset.card_lt_card ⟨fun m hm => ?_, fun hsub => ?_⟩
  · rw [Finset.mem_filter] at hm ⊢
    exact ⟨hm.1, fun hmem => hm.2 (List.mem_cons_of_mem _ hmem)⟩
  · have hmem := hsub (Finset.mem_filter.mpr ⟨Finset.mem_range.mpr hid, h⟩)
    exact (Finset.mem_filter.mp hmem).2 List.mem_cons_self

/-- The tree of a part is the value of its node, if there is fuel for the parts that are not on the
way. -/
theorem unfold_eq_tree {fuel : Nat} {path : List Nat} {id : Nat}
    (hfuel : ((Finset.range cells.size).filter (· ∉ path)).card < fuel) :
    unfold cells fuel path id = (webOf cells).tree (path.map cell) (cell id) := by
  -- a part that is not on the way uses up one unit of fuel and joins the way
  induction fuel generalizing path id with
  | zero => omega
  | succ fuel ih =>
    rw [unfold]
    by_cases hid : id ∈ path
    · rw [if_pos (by simpa using hid), Web.tree_of_mem (List.mem_map_of_mem hid)]
      rfl
    · have hid' : cell id ∉ path.map cell := by simpa using hid
      rw [if_neg (by simpa using hid), Web.tree_of_not_mem hid']
      have hparts {c : Cell} (hc : cells[id]? = some c) (k : Nat) :
          unfold cells fuel (id :: path) k =
            (webOf cells).tree (cell id :: path.map cell) (cell k) := by
        have hlt := card_unvisited_lt (lt_size_of_getElem? hc) hid
        exact @ih (id :: path) k (by omega)
      change _ = ((cellShape id cells[id]?).build _).tie id
      rcases hc : cells[id]? with _ | _ | ids | es | _ | es
      · rfl
      · rfl
      · simp only [cellShape, Shape.build, List.map_map]
        rw [List.map_congr_left fun k _ => hparts hc k]
        rfl
      · simp only [cellShape, Shape.build, List.map_map]
        rw [List.map_congr_left fun e _ => congrArg (Prod.mk e.1) (hparts hc e.2)]
        rfl
      · rfl
      · simp only [cellShape, Shape.build]
        refine congrArg (fun xs => (Value.sequence xs).tie id) (List.ext_getElem (by simp) ?_)
        intro i hi _
        have hlt : i < es.length := by simpa using hi
        have he : entryAt? cells id i = some es[i] := by
          rw [entryAt?, hc]
          exact List.getElem?_eq_getElem hlt
        rw [List.getElem_mapIdx, List.getElem_map, List.getElem_mapIdx,
          tree_entry List.mem_cons_self (by simp) he, hparts hc, hparts hc]

/-- More fuel than there are parts changes nothing. -/
theorem unfold_of_size_lt {fuel : Nat} (hfuel : cells.size < fuel) (id : Nat) :
    unfold cells fuel [] id = (webOf cells).part (cell id) := by
  refine @unfold_eq_tree cells fuel [] id ?_
  have hcard := Finset.card_filter_le (Finset.range cells.size) (· ∉ ([] : List Nat))
  rw [Finset.card_range] at hcard
  omega

/-- A part of a value graph as a tree. -/
def part (g : ValueGraph) (id : Nat) : Value := unfold g.cells (g.cells.size + 1) [] id

theorem part_eq (g : ValueGraph) (id : Nat) : g.part id = (webOf g.cells).part (cell id) :=
  unfold_of_size_lt (Nat.lt_succ_self _) id

end ValueGraph

end ClientGen
