import ClientGen.Value.Basic

/-!
# Values with shared parts

In a value graph the parts of containers are given by numbers. Two containers can share a part,
and a container can hold itself. Written out as a tree, a shared part appears once for every way
that leads to it, and a container that can be reached from itself is tied by a knot.

## Main definitions

* `ClientGen.Cell`, `ClientGen.ValueGraph` : value graphs.
* `ClientGen.ValueGraph.value` : the graph as a tree.
-/

namespace ClientGen

/-- A part of a value graph; its own parts are given by their numbers. -/
inductive Cell where
  /-- An undivided value. -/
  | scalar (s : Scalar)
  /-- A list of parts. -/
  | sequence (items : List Nat)
  /-- Entries with distinct keys. -/
  | mapping (entries : List (Scalar × Nat))
  /-- A set of scalars. -/
  | members (elements : List Scalar)
  /-- An ordered list of entries whose keys may be any values. -/
  | pairs (entries : List (Nat × Nat))
  deriving Inhabited

/-- A graph of values. -/
structure ValueGraph where
  /-- The parts, by their numbers. -/
  cells : Array Cell
  /-- The outermost part. -/
  root : Nat

namespace Value

mutual

/-- The value refers to a container around it, other than those of the names in `inside`. -/
def isOpen (inside : List Nat) : Value → Bool
  | scalar _ | members _ => false
  | sequence xs => anyOpen inside xs
  | mapping es => anyOpenEntry inside es
  | pair k v => isOpen inside k || isOpen inside v
  | knot n b => isOpen (n :: inside) b
  | again n => !inside.contains n

/-- `isOpen` for some item. -/
def anyOpen (inside : List Nat) : List Value → Bool
  | [] => false
  | x :: xs => isOpen inside x || anyOpen inside xs

/-- `isOpen` for the value of some entry. -/
def anyOpenEntry (inside : List Nat) : List (Scalar × Value) → Bool
  | [] => false
  | (_, v) :: es => isOpen inside v || anyOpenEntry inside es

end

/-- Names a container that can be reached from itself: one that refers to itself or to a container
around it. -/
def tie (name : Nat) (v : Value) : Value := if v.isOpen [] then knot name v else v

end Value

namespace ValueGraph

/-- The name of a pair in a list of pairs, which no part has. -/
def pairName (cells : Array Cell) (id index : Nat) : Nat := cells.size * (index + 1) + id

/-- The part of that number as a tree; `path` lists the containers around it. A path without
repetitions is no longer than the number of parts, which bounds the fuel. -/
def unfold (cells : Array Cell) (fuel : Nat) (path : List Nat) (id : Nat) : Value :=
  match fuel with
  | 0 => .null
  | fuel + 1 =>
    if path.contains id then .again id
    else
      let part := unfold cells fuel (id :: path)
      match cells[id]? with
      | none => .null
      | some (.scalar s) => .scalar s
      | some (.members ks) => .members ks
      | some (.sequence ids) => (Value.sequence (ids.map part)).tie id
      | some (.mapping es) => (Value.mapping (es.map fun e => (e.1, part e.2))).tie id
      | some (.pairs es) =>
        (Value.sequence (es.mapIdx fun i e =>
          (Value.pair (part e.1) (part e.2)).tie (pairName cells id i))).tie id

/-- The graph as a tree. -/
def value (g : ValueGraph) : Value := unfold g.cells (g.cells.size + 1) [] g.root

end ValueGraph

end ClientGen
