import ClientGen.Yaml.Kind
import ClientGen.Yaml.Lexer

/-!
# YAML node graphs

A document is a graph of nodes. An alias stands for the very node that its anchor names, so nodes
can be shared, and a collection can hold itself. The nodes of a graph are numbered in the order
in which they start in the text.

## Main definitions

* `ClientGen.Yaml.Node`, `ClientGen.Yaml.Graph` : nodes and graphs.
* `ClientGen.Yaml.Graph.ofTokens` : the graph of the only document of a text.
-/

namespace ClientGen.Yaml

/-- What a node consists of; other nodes are given by their numbers. -/
inductive Shape where
  /-- A text. -/
  | scalar (text : String)
  /-- A list of nodes. -/
  | sequence (items : List Nat)
  /-- Keys and values. -/
  | mapping (entries : List (Nat × Nat))
  deriving Inhabited

/-- A node. -/
structure Node where
  /-- Its kind. -/
  kind : Kind
  /-- What it consists of. -/
  shape : Shape

instance : Inhabited Node := ⟨⟨.null, .scalar ""⟩⟩

/-- The node consists of keys and values. -/
def Node.isMapping (n : Node) : Bool := n.shape matches .mapping _

/-- A document: its nodes, and the number of the outermost one if there is any. -/
structure Graph where
  /-- The nodes, by their numbers. -/
  nodes : Array Node
  /-- The outermost node. -/
  root : Option Nat
  /-- The nodes that aliases stand for. -/
  aliased : List Nat

/-- The number of containers inside each other that are followed. -/
def depthLimit : Nat := 480

/-- The state while a graph is built. -/
structure Builder where
  /-- The tokens still to be read. -/
  tokens : List Token
  /-- The nodes so far. -/
  nodes : Array Node
  /-- The named nodes. -/
  anchors : List (String × Nat)
  /-- The nodes that aliases stand for. -/
  aliased : List Nat
  /-- What the tag handles are short for. -/
  handles : List (String × String)

/-- A step that reads tokens and adds nodes. -/
abbrev Build := StateT Builder (Except ReadError)

namespace Build

/-- The next token; the end of the text is never passed, and an error not looked at. -/
def peek : Build Token := do
  match (← get).tokens.headD .streamEnd with
  | .bad e => throw e
  | t => return t

/-- Moves on to the token after the next. -/
def skip : Build Unit := modify fun b => { b with tokens := b.tokens.tail }

/-- The next token is out of place. -/
def reject {α : Type} : Build α := throw .malformed

/-- Adds a node and names it. No name is given twice. -/
def add (anchor : Option String) (n : Node) : Build Nat := do
  let b ← get
  let id := b.nodes.size
  match anchor with
  | none => set { b with nodes := b.nodes.push n }
  | some a =>
    if (b.anchors.lookup a).isSome then throw .malformed
    set { b with nodes := b.nodes.push n, anchors := (a, id) :: b.anchors }
  return id

/-- Says what a node consists of. -/
def fill (id : Nat) (s : Shape) : Build Unit :=
  modify fun b => { b with nodes := b.nodes.modify id fun n => { n with shape := s } }

/-- Adds the empty scalar that stands where a node is left out. -/
def empty : Build Nat := add none ⟨Kind.ofText "", .scalar ""⟩

/-- Reads an anchor, if there is one. -/
def anchor? : Build (Option String) := do
  match ← peek with
  | .anchor a => skip; return some a
  | _ => return none

/-- Reads a tag, if there is one, and writes out its handle. -/
def tag? : Build (Option String) := do
  match ← peek with
  | .tag none s => skip; return some s
  | .tag (some h) s =>
    match (← get).handles.lookup h with
    | some meaning => skip; return some (meaning ++ s)
    | none => throw .malformed
  | _ => return none

/-- Reads an anchor and a tag, in either order. -/
def properties : Build (Option String × Option String) := do
  match ← anchor? with
  | some a => return (some a, ← tag?)
  | none =>
    match ← tag? with
    | some t => return (← anchor?, some t)
    | none => return (none, none)

/-- The kind of a collection. -/
def collectionKind (tag : Option String) (usual : Kind) : Kind :=
  match tag with
  | none | some "!" => usual
  | some t => .ofTag t

/-- The kind of a scalar. -/
def scalarKind (tag : Option String) (text : String) (plain : Bool) : Kind :=
  match tag with
  | none => if plain then .ofText text else .text
  | some "!" => .ofText text
  | some t => .ofTag t

/-- No node starts with this token, inside a block collection. -/
def endsBlockNode : Token → Bool
  | .key | .value | .blockEnd => true
  | _ => false

/-- No node starts with this token, inside brackets. -/
def endsFlowItem : Token → Bool
  | .flowEntry | .flowSequenceEnd => true
  | _ => false

/-- No node starts with this token, inside braces. -/
def endsFlowEntry : Token → Bool
  | .flowEntry | .flowMappingEnd => true
  | _ => false

mutual

/-- Reads a node inside `depth` collections. In `block` context block collections may start here,
and if `indentless` also a sequence that is not indented. Every call has read a token since the
call before the last, so twice the number of tokens suffices as fuel. -/
def node (fuel depth : Nat) (block indentless : Bool) : Build Nat := do
  match fuel with
  | 0 => throw .malformed
  | fuel + 1 =>
    match ← peek with
    | .alias n =>
      match (← get).anchors.lookup n with
      | none => throw .malformed
      | some id =>
        skip
        modify fun b => { b with aliased := id :: b.aliased }
        return id
    | _ =>
      let (anchor, tag) ← properties
      let collection (usual : Kind) (read : Nat → Build Shape) : Build Nat := do
        if depthLimit ≤ depth then throw .tooDeep
        let id ← add anchor ⟨collectionKind tag usual, .scalar ""⟩
        fill id (← read (depth + 1))
        return id
      match ← peek, block with
      | .scalar s plain, _ =>
        skip
        add anchor ⟨scalarKind tag s plain, .scalar s⟩
      | .flowSequenceStart, _ =>
        skip
        collection .sequence fun depth => flowItems fuel depth true []
      | .flowMappingStart, _ =>
        skip
        collection .mapping fun depth => flowEntries fuel depth true []
      | .blockSequenceStart, true =>
        skip
        collection .sequence fun depth => blockItems fuel depth []
      | .blockMappingStart, true =>
        skip
        collection .mapping fun depth => blockEntries fuel depth []
      | .blockEntry, _ =>
        if indentless then collection .sequence fun depth => indentlessItems fuel depth []
        else if anchor.isSome || tag.isSome then
          add anchor ⟨scalarKind tag "" true, .scalar ""⟩
        else reject
      | _, _ =>
        if anchor.isSome || tag.isSome then add anchor ⟨scalarKind tag "" true, .scalar ""⟩
        else reject

/-- Reads the items of a block sequence; those before are in `done`, in reverse. -/
def blockItems (fuel depth : Nat) (done : List Nat) : Build Shape := do
  match fuel with
  | 0 => throw .malformed
  | fuel + 1 =>
    match ← peek with
    | .blockEntry =>
      skip
      let t ← peek
      let id ← if t == .blockEntry || t == .blockEnd then empty else node fuel depth true false
      blockItems fuel depth (id :: done)
    | .blockEnd => skip; return .sequence done.reverse
    | _ => reject

/-- Reads the items of a sequence that is not indented; those before are in `done`, in reverse. -/
def indentlessItems (fuel depth : Nat) (done : List Nat) : Build Shape := do
  match fuel with
  | 0 => throw .malformed
  | fuel + 1 =>
    match ← peek with
    | .blockEntry =>
      skip
      let t ← peek
      let id ← if t == .blockEntry || endsBlockNode t then empty else node fuel depth true false
      indentlessItems fuel depth (id :: done)
    | _ => return .sequence done.reverse

/-- Reads the entries of a block mapping; those before are in `done`, in reverse. -/
def blockEntries (fuel depth : Nat) (done : List (Nat × Nat)) : Build Shape := do
  match fuel with
  | 0 => throw .malformed
  | fuel + 1 =>
    match ← peek with
    | .key =>
      skip
      let k ← if endsBlockNode (← peek) then empty else node fuel depth true true
      let v ←
        if (← peek) == .value then do
          skip
          if endsBlockNode (← peek) then empty else node fuel depth true true
        else empty
      blockEntries fuel depth ((k, v) :: done)
    | .blockEnd => skip; return .mapping done.reverse
    | _ => reject

/-- Reads the items inside brackets; those before are in `done`, in reverse. A key among them
starts a mapping with a single entry. -/
def flowItems (fuel depth : Nat) (first : Bool) (done : List Nat) : Build Shape := do
  match fuel with
  | 0 => throw .malformed
  | fuel + 1 =>
    if (← peek) == .flowSequenceEnd then
      skip
      return .sequence done.reverse
    if !first then
      if (← peek) == .flowEntry then skip else reject
    match ← peek with
    | .flowSequenceEnd => skip; return .sequence done.reverse
    | .key =>
      skip
      if depthLimit ≤ depth then throw .tooDeep
      let id ← add none ⟨.mapping, .scalar ""⟩
      let t ← peek
      let k ← if t == .value || endsFlowItem t then empty else node fuel (depth + 1) false false
      let v ←
        if (← peek) == .value then do
          skip
          if endsFlowItem (← peek) then empty else node fuel (depth + 1) false false
        else empty
      fill id (.mapping [(k, v)])
      flowItems fuel depth false (id :: done)
    | _ =>
      let id ← node fuel depth false false
      flowItems fuel depth false (id :: done)

/-- Reads the entries inside braces; those before are in `done`, in reverse. -/
def flowEntries (fuel depth : Nat) (first : Bool) (done : List (Nat × Nat)) : Build Shape := do
  match fuel with
  | 0 => throw .malformed
  | fuel + 1 =>
    if (← peek) == .flowMappingEnd then
      skip
      return .mapping done.reverse
    if !first then
      if (← peek) == .flowEntry then skip else reject
    match ← peek with
    | .flowMappingEnd => skip; return .mapping done.reverse
    | .key =>
      skip
      let t ← peek
      let k ← if t == .value || endsFlowEntry t then empty else node fuel depth false false
      let v ←
        if (← peek) == .value then do
          skip
          if endsFlowEntry (← peek) then empty else node fuel depth false false
        else empty
      flowEntries fuel depth false ((k, v) :: done)
    | _ =>
      let k ← node fuel depth false false
      let v ← empty
      flowEntries fuel depth false ((k, v) :: done)

end

/-- What tag handles are short for without a directive. -/
def defaultHandles : List (String × String) := [("!", "!"), ("!!", Kind.commonTags)]

/-- Reads the directives before a document. At most one gives the version, which starts with 1,
and no handle is given twice. -/
def directives (fuel : Nat) (versioned : Bool) (handles : List (String × String)) : Build Unit := do
  match fuel with
  | 0 => throw .malformed
  | fuel + 1 =>
    match ← peek with
    | .directive (.version major _) =>
      if versioned || major != 1 then throw .malformed
      skip
      directives fuel true handles
    | .directive (.tag h meaning) =>
      if (handles.lookup h).isSome then throw .malformed
      skip
      directives fuel versioned ((h, meaning) :: handles)
    | .directive .other => skip; directives fuel versioned handles
    | _ => modify fun b => { b with handles := handles ++ defaultHandles }

/-- Reads the points that end a document. -/
def documentEnds (fuel : Nat) : Build Unit := do
  match fuel with
  | 0 => throw .malformed
  | fuel + 1 =>
    match ← peek with
    | .documentEnd => skip; documentEnds fuel
    | _ => return ()

/-- Reads the outermost node of the first document, if there is a document. -/
def root (fuel : Nat) : Build (Option Nat) := do
  match ← peek with
  | .streamEnd => return none
  | .directive _ | .documentStart =>
    directives fuel false []
    if (← peek) != .documentStart then reject
    skip
    match ← peek with
    | .directive _ | .documentStart | .documentEnd | .streamEnd => return some (← empty)
    | _ => return some (← node fuel 0 true false)
  | _ => return some (← node fuel 0 true false)

/-- Reads the only document. Of a further one no more than the directives is looked at. -/
def document (fuel : Nat) : Build (Option Nat) := do
  let id ← root fuel
  documentEnds fuel
  if (← peek) == .streamEnd then return id
  directives fuel false []
  reject

end Build

/-- The graph of the only document that the tokens write. -/
def Graph.ofTokens (ts : List Token) : Except ReadError Graph := do
  let b : Builder :=
    { tokens := ts, nodes := #[], anchors := [], aliased := [], handles := Build.defaultHandles }
  let (root, b) ← (Build.document (2 * ts.length + 4)).run b
  return { nodes := b.nodes, root, aliased := b.aliased }

end ClientGen.Yaml
