import ClientGen.Value.Graph
import ClientGen.Value.SetOrder
import ClientGen.Yaml.Graph
import ClientGen.Yaml.Scalar

/-!
# Reading YAML

The node graph of a document becomes a value graph, and that a value. Scalars get their values in
the order in which the collections around them are filled: the outermost collection first, then
those that it holds, level by level. A mapping takes the entries of the mappings under a merge key
before its own, so that its own entries win.

## Main definitions

* `ClientGen.Yaml.Graph.toValueGraph` : the values of the nodes.
* `ClientGen.Yaml.read` : the value that a text writes.
-/

namespace ClientGen.Yaml

/-- The state while nodes get their values. -/
structure Filling where
  /-- The nodes; merge keys are removed on the way. -/
  nodes : Array Node
  /-- The values of the nodes so far; that of a collection is empty until it is filled. -/
  cells : Array (Option Cell)
  /-- The collections to be filled, the next one first. -/
  queue : List Nat

/-- A step of giving nodes their values. -/
abbrev Fill := StateT Filling (Except ReadError)

namespace Fill

/-- The node of that number. -/
def node (id : Nat) : Fill Node := do return (← get).nodes[id]?.getD default

/-- Gives a mapping other entries. -/
def setEntries (id : Nat) (es : List (Nat × Nat)) : Fill Unit :=
  modify fun f => { f with nodes := f.nodes.modify id fun n => { n with shape := .mapping es } }

/-- The entries of a mapping. -/
def entries (id : Nat) : Fill (List (Nat × Nat)) := do
  match (← node id).shape with
  | .mapping es => return es
  | _ => throw .malformed

/-- The entries before the first merge key, its value, and the entries after it. -/
def splitAtMerge (nodes : Array Node) (before : List (Nat × Nat)) :
    List (Nat × Nat) → Option (List (Nat × Nat) × Nat × List (Nat × Nat))
  | [] => none
  | (k, v) :: es =>
    if (nodes[k]?.getD default).kind == .merge then some (before.reverse, v, es)
    else splitAtMerge nodes ((k, v) :: before) es

/-- Makes the key of an entry a text, if it is the mark for a default value. -/
def retagDefault (nodes : Array Node) (e : Nat × Nat) : Array Node :=
  if (nodes[e.1]?.getD default).kind == .default then
    nodes.modify e.1 fun n => { n with kind := .text }
  else nodes

mutual

/-- Puts the entries under merge keys before the mapping's own ones, and makes keys of the mark
for a default value texts. Every step but the last removes a merge key. -/
def flatten (fuel : Nat) (id : Nat) : Fill Unit := do
  match fuel with
  | 0 => return ()
  | fuel + 1 =>
    let merged ← mergedEntries fuel id []
    let own ← entries id
    modify fun f => { f with nodes := own.foldl retagDefault f.nodes }
    setEntries id (merged ++ own)

/-- Removes the merge keys of a mapping and gives the entries under them, after those in `done`. -/
def mergedEntries (fuel : Nat) (id : Nat) (done : List (Nat × Nat)) :
    Fill (List (Nat × Nat)) := do
  match fuel with
  | 0 => return done
  | fuel + 1 =>
    match splitAtMerge (← get).nodes [] (← entries id) with
    | none => return done
    | some (before, source, after) =>
      setEntries id (before ++ after)
      let more ← match (← node source).shape with
        | .mapping _ => do
          flatten fuel source
          entries source
        | .sequence ids => do
          let lists ← ids.mapM fun i => do
            let _ ← entries i
            flatten fuel i
            entries i
          pure lists.reverse.flatten
        | .scalar _ => throw .malformed
      mergedEntries fuel id (done ++ more)

end

/-- The text of a scalar, or of the default value of a mapping. -/
def text (fuel : Nat) (id : Nat) : Fill String := do
  match fuel with
  | 0 => throw .tooDeep
  | fuel + 1 =>
    match (← node id).shape with
    | .scalar s => return s
    | .sequence _ => throw .malformed
    | .mapping es =>
      let nodes := (← get).nodes
      match es.find? fun e => (nodes[e.1]?.getD default).kind == .default with
      | some (_, v) => text fuel v
      | none => throw .malformed

/-- Gives a node its value; a collection only joins the queue. -/
def start (id : Nat) : Fill Unit := do
  let f ← get
  if (f.cells[id]?.join).isSome then return ()
  let put (c : Cell) : Fill Unit :=
    modify fun f => { f with cells := f.cells.set! id (some c) }
  match (← node id).kind with
  | .sequence | .mapping | .set | .omap | .pairs =>
    put (.sequence [])
    modify fun f => { f with queue := f.queue ++ [id] }
  | .merge | .default | .unknown => throw .malformed
  | k => do
    let s ← text (f.nodes.size + 1) id
    -- a default value is taken for a text everywhere else
    if k == .timestamp && (← node id).isMapping then throw (.fault .textExpected)
    put (.scalar (← Scalar.ofText id k s))

/-- Gives a key its value, which has to be a scalar. -/
def key (id : Nat) : Fill ClientGen.Scalar := do
  start id
  match (← get).cells[id]?.join with
  | some (.scalar s) => return s
  | _ => throw .malformed

/-- The entries of a mapping with the values of their keys. -/
def keyedEntries (fuel : Nat) (id : Nat) : Fill (List (ClientGen.Scalar × Nat)) := do
  let _ ← entries id
  flatten fuel id
  let es ← entries id
  let es ← es.mapM fun (k, v) => do
    let s ← key k
    start v
    return (s, v)
  return Table.ofEntriesWith ClientGen.Scalar.sameKey es

/-- The only entry of a mapping. -/
def singleEntry (id : Nat) : Fill (Nat × Nat) := do
  match ← entries id with
  | [(k, v)] => do
    start k
    start v
    return (k, v)
  | _ => throw .malformed

/-- The items of a sequence. -/
def items (id : Nat) : Fill (List Nat) := do
  match (← node id).shape with
  | .sequence ids => return ids
  | _ => throw .malformed

/-- The contents of a collection. -/
def contents (fuel : Nat) (id : Nat) : Fill Cell := do
  match (← node id).kind with
  | .mapping => return .mapping (← keyedEntries fuel id)
  | .set => return .members (Scalar.listed ((← keyedEntries fuel id).map (·.1)))
  | .omap | .pairs => return .pairs (← (← items id).mapM singleEntry)
  | _ => do
    let ids ← items id
    for i in ids do start i
    return .sequence ids

/-- Fills the collections in the queue, and those that join it. Each node joins it once. -/
def run (mergeFuel fuel : Nat) : Fill Unit := do
  match fuel with
  | 0 => return ()
  | fuel + 1 =>
    let f ← get
    match f.queue with
    | [] => return ()
    | id :: queue =>
      set { f with queue }
      let c ← contents mergeFuel id
      modify fun f => { f with cells := f.cells.set! id (some c) }
      run mergeFuel fuel

end Fill

/-- The number of entries of all mappings. -/
def Graph.entryCount (g : Graph) : Nat :=
  g.nodes.toList.foldl (fun count n => match n.shape with
    | .mapping es => count + es.length
    | _ => count) 0

/-- The values of the nodes of a graph, from a node on. -/
def Graph.toValueGraph (g : Graph) (root : Nat) : Except ReadError ValueGraph := do
  let f : Filling := { nodes := g.nodes, cells := .replicate g.nodes.size none, queue := [] }
  let fill : Fill Unit := do
    Fill.start root
    Fill.run (4 * g.entryCount + 8) (g.nodes.size + 1)
  let ((), f) ← StateT.run fill f
  return { cells := f.cells.map (·.getD (.scalar .null)), root }

/-- The value that a text writes; an empty text writes null. -/
def read (s : String) : Except ReadError Value := do
  let g ← Graph.ofTokens (tokens s)
  match g.root with
  | none => return .null
  | some root => return (← g.toValueGraph root).value

end ClientGen.Yaml
