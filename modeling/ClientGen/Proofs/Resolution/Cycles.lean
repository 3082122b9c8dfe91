import ClientGen.Proofs.Decoding
import ClientGen.Proofs.Resolution.Moved
import ClientGen.Proofs.Resolution.Sections
import ClientGen.Proofs.Value.Unfolding

/-!
# Cycles and shared parts

A document whose walk comes back to a container is not resolved: it is reported as cyclic or too
deep, unless a reference or a parameter fails before. This also holds of a document in the older
form whose sections have such a way before their references move. Where no way comes back, a shared
part is just met more often, and a document is reported as a limit only if it is too deep.

## Main definitions

* `ClientGen.ValueGraph.Enters` : the walk over the parts of a value graph.
* `ClientGen.Document.IsTooDeep` : the walk, or a copy at the end of a way, is too deep.
* `ClientGen.Document.MovedComesBack` : the walk over a section that moves comes back.

## Main results

* `ClientGen.ValueGraph.comesBack_part_iff` : ways back among the parts of a graph.
* `ClientGen.Document.resolve_of_standing` : a document with a way that goes on forever.
* `ClientGen.Document.resolve_of_isDecoded` : cycles are caught, and sharing is not.
-/

namespace ClientGen

open Relation Document

/-! ### Ways in a graph -/

/-- The items of a part, or the values of its entries. -/
def Cell.children : Cell → List Nat
  | .sequence ids => ids
  | .mapping es => es.map (·.2)
  | _ => []

namespace ValueGraph

open GraphNode

variable {g : ValueGraph} {i j : Nat}

/-- The walk enters a part of the graph and goes on to a part of it. -/
def Enters (g : ValueGraph) (i j : Nat) : Prop :=
  (Node.classify (g.part i)).IsEntered ∧ ∃ c, g.cells[i]? = some c ∧ j ∈ c.children

/-- The walk does not enter an entry of an ordered list of entries. -/
theorem not_walk_entry {cells : Array Cell} {id index : Nat} {n : GraphNode} :
    ¬ (webOf cells).Walk (entry id index) n := by
  rintro ⟨hentered, -⟩
  have hopened := (webOf cells).opened_part (entry id index)
  change _ = (entryShape (entryAt? cells id index)).build _ at hopened
  have hclass : Node.classify ((webOf cells).part (entry id index)) = .scalar := by
    refine classify_of_opened hopened (fun ns => ?_) fun es => ?_
    all_goals rcases entryAt? cells id index with _ | e <;> exact nofun
  rw [hclass] at hentered
  exact Node.not_isEntered_scalar hentered

theorem child_cell_iff {cells : Array Cell} :
    (webOf cells).Child (cell i) (cell j) ↔ ∃ c, cells[i]? = some c ∧ j ∈ c.children := by
  change cell j ∈ (cellShape i cells[i]?).parts ↔ _
  rcases cells[i]? with _ | _ | ids | es | _ | es
  · simp [cellShape, Shape.parts]
  · simp [cellShape, Shape.parts, Cell.children]
  · simp [cellShape, Shape.parts, Cell.children]
  · simp [cellShape, Shape.parts, Cell.children]
  · simp [cellShape, Shape.parts, Cell.children]
  · simp [cellShape, Shape.parts, Cell.children]

theorem walk_cell_iff : (webOf g.cells).Walk (cell i) (cell j) ↔ g.Enters i j := by
  rw [Web.Walk, ← part_eq, child_cell_iff, Enters]

/-- A way that goes on from where it ends leads through parts only. -/
theorem transGen_enters_of_walk {n : GraphNode}
    (h : TransGen (webOf g.cells).Walk n (cell j)) : ∃ i, n = cell i ∧ TransGen g.Enters i j := by
  induction h using TransGen.head_induction_on with
  | @single n hstep =>
    cases n with
    | cell i => exact ⟨i, rfl, .single (walk_cell_iff.mp hstep)⟩
    | entry id index => exact absurd hstep not_walk_entry
  | @head n m hstep _ ih =>
    obtain ⟨k, rfl, hway⟩ := ih
    cases n with
    | cell i => exact ⟨i, rfl, .head (walk_cell_iff.mp hstep) hway⟩
    | entry id index => exact absurd hstep not_walk_entry

/-- The walk over a part comes back exactly if a way leads from the part to one that leads back to
itself. -/
theorem comesBack_part_iff (g : ValueGraph) (i : Nat) :
    ComesBack (g.part i) ↔ ∃ j, ReflTransGen g.Enters i j ∧ TransGen g.Enters j j := by
  rw [part_eq, Web.comesBack_part_iff]
  constructor
  · rintro ⟨m, him, hmm⟩
    obtain ⟨j, rfl⟩ : ∃ j, m = cell j := by
      cases m with
      | cell j => exact ⟨j, rfl⟩
      | entry id index =>
        obtain ⟨n, hstep, -⟩ := TransGen.head'_iff.mp hmm
        exact absurd hstep not_walk_entry
    refine ⟨j, ?_, ?_⟩
    · rcases reflTransGen_iff_eq_or_transGen.mp him with hji | hway
      · rw [cell.inj hji]
      · obtain ⟨k, hk, hway⟩ := transGen_enters_of_walk hway
        rw [cell.inj hk]
        exact hway.to_reflTransGen
    · obtain ⟨k, hk, hway⟩ := transGen_enters_of_walk hmm
      rwa [← cell.inj hk] at hway
  · rintro ⟨j, hij, hjj⟩
    have hwalk : ∀ a b, g.Enters a b → (webOf g.cells).Walk (cell a) (cell b) :=
      fun _ _ hab => walk_cell_iff.mpr hab
    exact ⟨cell j, ReflTransGen.lift cell hwalk _ _ hij, TransGen.lift cell hwalk _ _ hjj⟩

end ValueGraph

/-- A decoded value is put together from the parts of a graph. -/
theorem Value.IsDecoded.exists_standing {v : Value} (h : v.IsDecoded) :
    ∃ cells, (ValueGraph.webOf cells).Standing v := by
  cases h with
  | plain h => exact ⟨#[], Web.standing_of_plain h⟩
  | graph g =>
    refine ⟨g.cells, ?_⟩
    have hpart : g.value = (ValueGraph.webOf g.cells).part (.cell g.root) := g.part_eq g.root
    rw [hpart]
    exact .node _

namespace Document

variable {N : Type} [DecidableEq N] {W : Web N} {raw v : Value} {d : Document} {p : Problem}

/-! ### Documents that are not resolved -/

/-- A document with a way that goes on forever is a limit, unless something else fails before. -/
theorem resolve_of_standing (hd : W.Standing d.tree) (h : ¬ Ends d.tree) :
    ∃ p, d.resolve = .error p ∧
      (p = .failure .cyclic ∨ p = .failure .tooDeepToResolve ∨
        Raised d.tree walkLimit d.tree p) := by
  cases hvisit : visit d.tree walkLimit [] none d.tree with
  | ok w => exact absurd (hd.ends_of_visit hvisit) h
  | error p =>
    refine ⟨p, Except.bind_eq_error.mpr (.inl hvisit), ?_⟩
    cases hd.stops_of_visit hvisit with
    | raised hraised => exact .inr (.inr hraised)
    | tooDeep _ => exact .inr (.inl rfl)
    | cyclic _ => exact .inl rfl

/-- The document is too deep for the walk, or a value that it holds is too deep to be copied at the
end of a way: every container on the way takes three calls, and every one inside the others of the
value takes two. -/
def IsTooDeep (d : Document) : Prop :=
  walkLimit < d.tree.nesting ∨ ∃ way : List Value, List.IsChain Enters (d.tree :: way) ∧
    ∃ w, d.tree.Holds w ∧ callLimit < 3 * way.length + 2 * w.nesting

/-- Where the walk does not come back, only a document that is too deep is a limit. -/
theorem isTooDeep_of_resolve (hd : W.Standing d.tree) (hback : ¬ ComesBack d.tree)
    (h : d.resolve = .error p) (hlimit : p.IsLimit) :
    p = .failure .tooDeepToResolve ∧ d.IsTooDeep := by
  rcases Except.bind_eq_error.mp h with hvisit | ⟨w, -, hread⟩
  · cases hd.stops_of_visit hvisit with
    | raised hraised =>
      obtain ⟨hp, way, hway, w, hw, hdeep⟩ := exists_way_of_raised hraised hlimit
      exact ⟨hp, .inr ⟨way, hway, w, hw.elim Meets.holds id, hdeep⟩⟩
    | tooDeep hdeep => exact ⟨rfl, .inl hdeep⟩
    | cyclic hcycle => exact absurd hcycle hback
  · obtain ⟨f, -, rfl⟩ := Fault.lift_eq_error.mp hread
    exact absurd hlimit (Problem.not_isLimit_fault f)

/-! ### Sections that move -/

/-- The walk over a section that moves comes back; the keys of the paths are different texts. -/
def MovedComesBack (raw : Value) : Prop :=
  (∃ s ∈ legacySections, ComesBack (mappingOf (raw.field s.1))) ∨
    (mappingOf (raw.field "paths")).opened.IsRecord ∧
      ComesBack (mappingOf (raw.field "paths"))

theorem ends_section_of_ends_tree (h : Ends d.tree) : Ends (.ofFields d.paths) ∧
    Ends (.ofFields d.components) := by
  have hpart {w : Value} (hw : w ∈ d.tree.parts) : Ends w :=
    h.of_enters ⟨.inl (classify_tree d), hw⟩
  exact ⟨hpart (by simp [tree, Value.parts_ofFields]), hpart (by simp [tree, Value.parts_ofFields])⟩

/-- Where all ways in the canonical form end, all ways in the sections that have moved end. -/
theorem ends_of_normalizeLegacy (hraw : W.Standing raw) (hnormal : normalizeLegacy raw = .ok d)
    (h : Ends d.tree) : (∀ s ∈ legacySections, Ends (mappingOf (raw.field s.1))) ∧
      ((mappingOf (raw.field "paths")).opened.IsRecord →
        Ends (mappingOf (raw.field "paths"))) := by
  obtain ⟨hendsPaths, hendsComponents⟩ := ends_section_of_ends_tree h
  rw [components_of_normalizeLegacy hnormal] at hendsComponents
  have hfollows (key : String) : W.Follows (mappingOf (raw.field key))
      (moveReferences (mappingOf (raw.field key))) :=
    (hereditary_mappingOf W.hereditary_standing
      (hereditary_field W.hereditary_standing hraw key)).follows_moveReferences
  constructor
  · intro s hs
    refine (hfollows s.1).ends (hendsComponents.of_enters ⟨.inl ?_, ?_⟩)
    · exact Node.classify_ofFields rfl rfl
    · rw [Value.parts_ofFields, movedComponents, List.map_map]
      exact List.mem_map_of_mem hs
  · intro hrecord
    have hpaths := paths_of_normalizeLegacy hnormal
    rw [Value.ofFields_of_asFields? (isRecord_moveReferences hrecord) hpaths] at hendsPaths
    exact (hfollows "paths").ends hendsPaths

/-- Only deep paths or components keep a document from its canonical form as a limit. -/
theorem exists_deep_of_normalize (h : normalize raw = .error p) (hlimit : p.IsLimit) :
    p = .failure .tooDeepToNormalize ∧ moveLimit <
      max (mappingOf (raw.field "paths")).nesting (legacyComponents raw).nesting := by
  have hfault {α : Type} {x : Except Fault α} : Fault.lift x ≠ .error p := fun hx => by
    obtain ⟨f, -, rfl⟩ := Fault.lift_eq_error.mp hx
    exact Problem.not_isLimit_fault f hlimit
  unfold normalize at h
  split at h
  · obtain rfl := Except.error.inj h
    cases Problem.isLimit_failure_iff.mp hlimit
  · split at h
    · rcases Except.bind_eq_error.mp h with h | ⟨version, -, h⟩
      · exact absurd h hfault
      rcases Except.bind_eq_error.mp h with h | ⟨address, -, h⟩
      · exact absurd h hfault
      simp only at h
      split at h
      · rename_i hdeep
        exact ⟨(Except.error.inj h).symm, hdeep⟩
      · exact absurd h hfault
    · rcases Except.bind_eq_error.mp h with h | ⟨version, -, h⟩
      · exact absurd h hfault
      · exact absurd h hfault

/-- A document in the older form with the given parts from number 2 on, of which the first one is
that of the paths. -/
def legacyGraph (cells : List Cell) : ValueGraph where
  cells := (Cell.mapping [(.text "swagger", 1), (.text "paths", 2)] ::
    Cell.scalar (.text "2.0") :: cells).toArray
  root := 0

/-- A path item that holds itself. -/
def looped : ValueGraph := legacyGraph [.mapping [(.text "/a", 3)], .mapping [(.text "get", 3)]]

/-- The canonical form of `looped`: the path item is a copy that holds the path item. -/
def loopedDocument : Document where
  openapi := "3.0.0"
  paths := [("/a", .ofFields [("get", looped.part 3)])]
  components := legacySections.map fun s => (s.2, .ofFields [])

/-- The paths have a path item that holds itself, and a key of bytes that write `$ref`. -/
def byteLooped : ValueGraph :=
  legacyGraph [.mapping [(.bytes [36, 114, 101, 102], 4), (.text "/a", 3)],
    .mapping [(.text "get", 3)], .scalar (.text "#/x")]

/-- The paths are a list that holds itself. -/
def listLooped : ValueGraph := legacyGraph [.sequence [2]]

end Document

end ClientGen
