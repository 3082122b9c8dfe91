import Mathlib.Data.Finset.Card
import Mathlib.Logic.Relation
import ClientGen.Proofs.Value.Parts
import ClientGen.Value.Graph

/-!
# Webs of values

A web is made of nodes, and every node has a shape over other nodes. Seen from one of its nodes, a
web is a value: the nodes on the way from there are known by name, a node that lies on a cycle is
tied by a knot, and a node on the way that is met again refers to it. Opening such a value shows
the values of the parts of the node, each seen from itself.

## Main definitions

* `ClientGen.Shape`, `ClientGen.Web` : webs of nodes.
* `ClientGen.Web.tree`, `ClientGen.Web.part` : a node with a way that leads to it, and on its own.
* `ClientGen.Web.OnCycle` : a way leads from the node back to it.
* `ClientGen.Web.Known` : the nodes on the way lead to a node, and are known on their own.

## Main results

* `ClientGen.Web.isOpen_tree_iff` : what refers to the way that leads to a node.
* `ClientGen.Web.fold_tree` : forgetting what is known about nodes on the way.
* `ClientGen.Web.close_tree` : writing out nodes on the way.
* `ClientGen.Web.opened_part` : a node on its own shows its parts on their own.
-/

namespace ClientGen

open Relation

/-! ### Shapes -/

/-- What a node is made of. -/
inductive Shape (N : Type) where
  /-- An undivided value. -/
  | scalar (s : Scalar)
  /-- A set of scalars. -/
  | members (ks : List Scalar)
  /-- A list of nodes. -/
  | sequence (items : List N)
  /-- Nodes under keys. -/
  | mapping (entries : List (Scalar × N))
  /-- A key and a value. -/
  | pair (key value : N)

namespace Shape

variable {N : Type}

/-- The nodes of a shape. -/
def parts : Shape N → List N
  | scalar _ | members _ => []
  | sequence ns => ns
  | mapping es => es.map (·.2)
  | pair k v => [k, v]

/-- The value of a shape whose nodes stand for values. -/
def build (f : N → Value) : Shape N → Value
  | scalar s => .scalar s
  | members ks => .members ks
  | sequence ns => .sequence (ns.map f)
  | mapping es => .mapping (es.map fun e => (e.1, f e.2))
  | pair k v => .pair (f k) (f v)

theorem build_congr {f g : N → Value} {s : Shape N} (h : ∀ n ∈ s.parts, f n = g n) :
    s.build f = s.build g := by
  cases s with
  | scalar s | members ks => rfl
  | sequence ns => exact congrArg Value.sequence (List.map_congr_left h)
  | mapping es =>
    refine congrArg Value.mapping (List.map_congr_left fun e he => ?_)
    rw [h e.2 (List.mem_map_of_mem he)]
  | pair k v =>
    rw [build, build, h k List.mem_cons_self, h v (List.mem_cons_of_mem _ List.mem_cons_self)]

theorem fold_build (names : List Nat) (f : N → Value) (s : Shape N) :
    (s.build f).fold names = s.build fun n => (f n).fold names := by
  cases s with
  | scalar s | members ks | pair k v => rfl
  | sequence ns => rw [build, Value.fold, Value.foldItems_eq_map, List.map_map]; rfl
  | mapping es => rw [build, Value.fold, Value.foldEntries_eq_map, List.map_map]; rfl

theorem close_build (outer : List (Nat × Value)) (bound : List Nat) (f : N → Value) (s : Shape N) :
    (s.build f).close outer bound = s.build fun n => (f n).close outer bound := by
  cases s with
  | scalar s | members ks | pair k v => rfl
  | sequence ns => rw [build, Value.close, Value.closeItems_eq_map, List.map_map]; rfl
  | mapping es => rw [build, Value.close, Value.closeEntries_eq_map, List.map_map]; rfl

theorem opened_build (f : N → Value) (s : Shape N) : (s.build f).opened = s.build f := by
  cases s <;> rfl

theorem parts_of_opened {v : Value} {f : N → Value} {s : Shape N} (h : v.opened = s.build f) :
    v.parts = s.parts.map f := by
  rw [Value.parts, h]
  cases s with
  | scalar s | members ks | sequence ns | pair k v => rfl
  | mapping es =>
    change (es.map fun e => (e.1, f e.2)).map (·.2) = (es.map (·.2)).map f
    rw [List.map_map, List.map_map]
    rfl

end Shape

namespace Value

theorem anyOpen_eq_true_iff {inside : List Nat} : {xs : List Value} →
    (anyOpen inside xs = true ↔ ∃ x ∈ xs, x.isOpen inside = true)
  | [] => by simp [anyOpen]
  | x :: xs => by
    rw [anyOpen, Bool.or_eq_true, anyOpen_eq_true_iff, List.exists_mem_cons_iff]

theorem anyOpenEntry_eq (inside : List Nat) : (es : List (Scalar × Value)) →
    anyOpenEntry inside es = anyOpen inside (es.map (·.2))
  | [] => rfl
  | (k, v) :: es => by rw [anyOpenEntry, List.map_cons, anyOpen, anyOpenEntry_eq inside es]

/-- Knowing fewer names, a value refers to more that is around it. -/
theorem isOpen_of_subset {v : Value} : ∀ {inside inside' : List Nat}, inside ⊆ inside' →
    v.isOpen inside' = true → v.isOpen inside = true := by
  induction v with
  | scalar s | members ks => exact fun _ h => h
  | sequence xs ih =>
    intro inside inside' hsub h
    obtain ⟨x, hx, hopen⟩ := anyOpen_eq_true_iff.mp h
    exact anyOpen_eq_true_iff.mpr ⟨x, hx, ih x hx hsub hopen⟩
  | mapping es ih =>
    intro inside inside' hsub h
    rw [isOpen, anyOpenEntry_eq] at h ⊢
    obtain ⟨x, hx, hopen⟩ := anyOpen_eq_true_iff.mp h
    obtain ⟨e, he, rfl⟩ := List.mem_map.mp hx
    exact anyOpen_eq_true_iff.mpr ⟨e.2, hx, ih e he hsub hopen⟩
  | pair k v hk hv =>
    intro inside inside' hsub h
    rw [isOpen, Bool.or_eq_true] at h ⊢
    exact h.imp (hk hsub) (hv hsub)
  | knot n b hb =>
    intro inside inside' hsub h
    exact hb (List.cons_subset_cons n hsub) h
  | again n =>
    intro inside inside' hsub h
    simp only [isOpen, Bool.not_eq_true', List.contains_eq_mem, decide_eq_false_iff_not] at h ⊢
    exact fun hmem => h (hsub hmem)

/-- A tied container knows its own name. -/
theorem isOpen_tie (name : Nat) (inside : List Nat) (v : Value) :
    (v.tie name).isOpen inside = v.isOpen (name :: inside) := by
  unfold tie
  split
  · rfl
  · rename_i hclosed
    have hnot (inside : List Nat) : v.isOpen inside = false := by
      cases hopen : v.isOpen inside with
      | false => rfl
      | true => exact absurd (isOpen_of_subset (List.nil_subset _) hopen) hclosed
    rw [hnot, hnot]

end Value

theorem Shape.isOpen_build_iff {N : Type} {inside : List Nat} {f : N → Value} {s : Shape N} :
    (s.build f).isOpen inside = true ↔ ∃ n ∈ s.parts, (f n).isOpen inside = true := by
  cases s with
  | scalar s | members ks => simp [build, parts, Value.isOpen]
  | sequence ns => simp [build, parts, Value.isOpen, Value.anyOpen_eq_true_iff]
  | mapping es =>
    rw [build, Value.isOpen, Value.anyOpenEntry_eq, Value.anyOpen_eq_true_iff, parts]
    simp only [List.mem_map, exists_exists_and_eq_and]
  | pair k v => simp [build, parts, Value.isOpen]

/-! ### Webs -/

/-- Nodes with their shapes. The nodes that have parts are finitely many, and known by name. -/
structure Web (N : Type) where
  /-- What a node is made of. -/
  shape : N → Shape N
  /-- The name of a node. -/
  name : N → Nat
  /-- The nodes that may have parts. -/
  inner : Finset N
  /-- No other node has parts. -/
  mem_inner : ∀ {n c : N}, c ∈ (shape n).parts → n ∈ inner
  /-- Nodes that may have parts are told apart by their names. -/
  eq_of_name : ∀ {a b : N}, a ∈ inner → b ∈ inner → name a = name b → a = b

namespace Web

variable {N : Type} [DecidableEq N] (W : Web N)

/-- A node is a part of another one. -/
def Child (n c : N) : Prop := c ∈ (W.shape n).parts

/-- A way leads from the node back to it. -/
def OnCycle (n : N) : Prop := TransGen W.Child n n

variable {W} {n c m p : N} {path : List N}

omit [DecidableEq N] in
theorem OnCycle.mem_inner (h : W.OnCycle n) : n ∈ W.inner := by
  obtain ⟨c, hc, -⟩ := TransGen.head'_iff.mp h
  exact W.mem_inner hc

theorem card_unvisited_lt (hn : n ∈ W.inner) (h : n ∉ path) :
    (W.inner.filter (· ∉ n :: path)).card < (W.inner.filter (· ∉ path)).card := by
  refine Finset.card_lt_card ⟨fun m hm => ?_, fun hsub => ?_⟩
  · rw [Finset.mem_filter] at hm ⊢
    exact ⟨hm.1, fun hmem => hm.2 (List.mem_cons_of_mem _ hmem)⟩
  · have hmem := hsub (Finset.mem_filter.mpr ⟨hn, h⟩)
    exact (Finset.mem_filter.mp hmem).2 List.mem_cons_self

variable (W)

/-- The value of a node at the end of a way from which nothing is left out. -/
def tree (path : List N) (n : N) : Value :=
  if _hpath : n ∈ path then .again (W.name n)
  else if _hinner : n ∈ W.inner then
    ((W.shape n).build fun c => tree (n :: path) c).tie (W.name n)
  else (W.shape n).build fun _ => .null
termination_by (W.inner.filter (· ∉ path)).card
decreasing_by exact card_unvisited_lt _hinner _hpath

/-- The value of a node on its own. -/
def part (n : N) : Value := W.tree [] n

variable {W}

theorem tree_of_mem (h : n ∈ path) : W.tree path n = .again (W.name n) := by
  rw [tree, dif_pos h]

theorem tree_of_not_mem (h : n ∉ path) :
    W.tree path n = ((W.shape n).build (W.tree (n :: path))).tie (W.name n) := by
  rw [tree, dif_neg h]
  by_cases hinner : n ∈ W.inner
  · rw [dif_pos hinner]
  · have hparts : ∀ c, c ∉ (W.shape n).parts := fun c hc => hinner (W.mem_inner hc)
    have hbuild : (W.shape n).build (fun _ => Value.null) =
        (W.shape n).build (W.tree (n :: path)) :=
      Shape.build_congr fun c hc => absurd hc (hparts c)
    have hclosed : ¬ ((W.shape n).build (W.tree (n :: path))).isOpen [] = true := fun hopen => by
      obtain ⟨c, hc, -⟩ := Shape.isOpen_build_iff.mp hopen
      exact hparts c hc
    rw [dif_neg hinner, hbuild, Value.tie, if_neg hclosed]

/-- From a node to its parts, until a node on the way is met again. -/
theorem tree_induction {motive : List N → N → Prop}
    (visited : ∀ path n, n ∈ path → motive path n)
    (fresh : ∀ path n, n ∉ path → (∀ c, W.Child n c → motive (n :: path) c) → motive path n)
    (path : List N) (n : N) : motive path n := by
  induction hcard : (W.inner.filter (· ∉ path)).card using Nat.strong_induction_on
    generalizing path n with
  | _ k ih =>
    by_cases h : n ∈ path
    · exact visited path n h
    · refine fresh path n h fun c hc => ih _ ?_ (n :: path) c rfl
      rw [← hcard]
      exact card_unvisited_lt (W.mem_inner hc) h

/-! ### What refers to the way -/

/-- A way on which no node but the last one is among the given ones. -/
def Avoids (W : Web N) (nodes : List N) : N → N → Prop :=
  ReflTransGen fun a b => a ∉ nodes ∧ W.Child a b

/-- A way that avoids some nodes and does not end in `n` avoids `n` too, at least from where it
leaves `n` for the last time. -/
theorem avoids_cons {nodes : List N} (h : W.Avoids nodes p m) :
    W.Avoids (n :: nodes) p m ∨ ∃ c, W.Child n c ∧ W.Avoids (n :: nodes) c m := by
  induction h using ReflTransGen.head_induction_on with
  | refl => exact .inl .refl
  | @head a b hab _ ih =>
    rcases ih with ih | ih
    · by_cases han : a = n
      · exact .inr ⟨b, han ▸ hab.2, ih⟩
      · refine .inl (.head ⟨fun hmem => ?_, hab.2⟩ ih)
        rcases List.mem_cons.mp hmem with rfl | hmem
        · exact han rfl
        · exact hab.1 hmem
    · exact .inr ih

/-- What refers to nodes around it is led to them by its parts. -/
theorem exists_of_isOpen : ∀ {inside : List N},
    (W.tree path n).isOpen (inside.map W.name) = true →
      ∃ m ∈ path, m ∉ inside ∧ ReflTransGen W.Child n m := by
  induction path, n using tree_induction (W := W) with
  | visited path n hn =>
    intro inside h
    rw [tree_of_mem hn, Value.isOpen, Bool.not_eq_true', List.contains_eq_mem,
      decide_eq_false_iff_not] at h
    exact ⟨n, hn, fun hmem => h (List.mem_map_of_mem hmem), .refl⟩
  | fresh path n hn ih =>
    intro inside h
    rw [tree_of_not_mem hn, Value.isOpen_tie] at h
    obtain ⟨c, hc, hopen⟩ := Shape.isOpen_build_iff.mp h
    obtain ⟨m, hm, hnot, hway⟩ := @ih c hc (n :: inside) hopen
    obtain ⟨hne, hnot⟩ := List.ne_and_not_mem_of_not_mem_cons hnot
    exact ⟨m, (List.mem_cons.mp hm).resolve_left hne, hnot, .head hc hway⟩

/-- A way to a node on the path shows in the value, if it avoids the nodes that are known. -/
theorem isOpen_of_avoids : ∀ {inside : List N}, (∀ p ∈ path, p ∈ W.inner) → inside ⊆ path →
    m ∈ path → m ∉ inside → W.Avoids inside n m →
      (W.tree path n).isOpen (inside.map W.name) = true := by
  induction path, n using tree_induction (W := W) with
  | visited path n hn =>
    intro inside hinner hsub _ hnot hway
    rw [tree_of_mem hn, Value.isOpen, Bool.not_eq_true', List.contains_eq_mem,
      decide_eq_false_iff_not]
    intro hmem
    obtain ⟨p, hp, hname⟩ := List.mem_map.mp hmem
    obtain rfl := W.eq_of_name (hinner p (hsub hp)) (hinner n hn) hname
    rcases hway.cases_head with rfl | ⟨c, hc, -⟩
    · exact hnot hp
    · exact hc.1 hp
  | fresh path n hn ih =>
    intro inside hinner hsub hm hnot hway
    -- inside its own value `n` is known, so the way has to avoid it from here on
    have hcut : ∃ c, W.Child n c ∧ W.Avoids (n :: inside) c m := by
      rcases avoids_cons (n := n) hway with hway | hway
      · rcases hway.cases_head with rfl | ⟨c, hc, -⟩
        · exact absurd hm hn
        · exact absurd List.mem_cons_self hc.1
      · exact hway
    obtain ⟨c, hc, hway⟩ := hcut
    have hinner' : ∀ p ∈ n :: path, p ∈ W.inner :=
      List.forall_mem_cons.mpr ⟨W.mem_inner hc, hinner⟩
    have hnot' : m ∉ n :: inside :=
      List.not_mem_cons_of_ne_of_not_mem (fun hmn => hn (hmn ▸ hm)) hnot
    have hopen := ih c hc hinner' (List.cons_subset_cons n hsub) (List.mem_cons_of_mem n hm) hnot'
      hway
    rw [tree_of_not_mem hn, Value.isOpen_tie]
    exact Shape.isOpen_build_iff.mpr ⟨c, hc, hopen⟩

/-- The value of a node refers to a way that leads to it exactly if the node leads to a node on
that way. -/
theorem isOpen_tree_iff (hinner : ∀ p ∈ path, p ∈ W.inner) :
    (W.tree path n).isOpen [] = true ↔ ∃ m ∈ path, ReflTransGen W.Child n m := by
  constructor
  · intro h
    obtain ⟨m, hm, -, hway⟩ := @exists_of_isOpen N _ W n path [] h
    exact ⟨m, hm, hway⟩
  · rintro ⟨m, hm, hway⟩
    have havoids : W.Avoids [] n m :=
      ReflTransGen.lift id (fun _ _ hstep => ⟨List.not_mem_nil, hstep⟩) _ _ hway
    exact @isOpen_of_avoids N _ W n m path [] hinner (List.nil_subset _) hm List.not_mem_nil havoids

/-! ### Nodes on a way that leads to a node -/

/-- Every node of the path may have parts, and leads to the node if a way leads back to it. -/
def Around (W : Web N) (path : List N) (n : N) : Prop :=
  ∀ p ∈ path, p ∈ W.inner ∧ (ReflTransGen W.Child n p → TransGen W.Child p n)

omit [DecidableEq N] in
theorem around_nil : W.Around [] n := fun _ hp => absurd hp List.not_mem_nil

omit [DecidableEq N] in
theorem Around.mono {path' : List N} (h : W.Around path n) (hsub : path' ⊆ path) :
    W.Around path' n := fun p hp => h p (hsub hp)

omit [DecidableEq N] in
theorem Around.child (h : W.Around path n) (hc : W.Child n c) : W.Around (n :: path) c := by
  intro p hp
  rcases List.mem_cons.mp hp with rfl | hp
  · exact ⟨W.mem_inner hc, fun _ => .single hc⟩
  · exact ⟨(h p hp).1, fun hway => ((h p hp).2 (.head hc hway)).tail hc⟩

/-- A node is tied exactly if it lies on a cycle. -/
theorem isOpen_build_iff (h : W.Around path n) :
    ((W.shape n).build (W.tree (n :: path))).isOpen [] = true ↔ W.OnCycle n := by
  constructor
  · intro hopen
    obtain ⟨c, hc, hopen⟩ := Shape.isOpen_build_iff.mp hopen
    have hinner : ∀ p ∈ n :: path, p ∈ W.inner := fun p hp => ((h.child hc) p hp).1
    obtain ⟨m, hm, hway⟩ := (isOpen_tree_iff hinner).mp hopen
    rcases List.mem_cons.mp hm with rfl | hm
    · exact .head' hc hway
    · exact (TransGen.head' hc hway).trans ((h m hm).2 (.head hc hway))
  · intro hcycle
    obtain ⟨c, hc, hway⟩ := TransGen.head'_iff.mp hcycle
    have hinner : ∀ p ∈ n :: path, p ∈ W.inner := fun p hp => ((h.child hc) p hp).1
    exact Shape.isOpen_build_iff.mpr
      ⟨c, hc, (isOpen_tree_iff hinner).mpr ⟨n, List.mem_cons_self, hway⟩⟩

theorem tree_of_onCycle (hn : n ∉ path) (h : W.Around path n) (hcycle : W.OnCycle n) :
    W.tree path n = .knot (W.name n) ((W.shape n).build (W.tree (n :: path))) := by
  rw [tree_of_not_mem hn, Value.tie, if_pos ((isOpen_build_iff h).mpr hcycle)]

theorem tree_of_not_onCycle (hn : n ∉ path) (h : W.Around path n) (hcycle : ¬ W.OnCycle n) :
    W.tree path n = (W.shape n).build (W.tree (n :: path)) := by
  rw [tree_of_not_mem hn, Value.tie, if_neg (mt (isOpen_build_iff h).mp hcycle)]

/-- The value of a node depends only on the nodes of the way that it leads to. -/
theorem tree_congr {path path' : List N} (h : ∀ m, W.Avoids path n m → (m ∈ path ↔ m ∈ path')) :
    W.tree path n = W.tree path' n := by
  induction path, n using tree_induction (W := W) generalizing path' with
  | visited path n hn => rw [tree_of_mem hn, tree_of_mem ((h n .refl).mp hn)]
  | fresh path n hn ih =>
    have hn' : n ∉ path' := mt (h n .refl).mpr hn
    have hparts : ∀ c ∈ (W.shape n).parts, W.tree (n :: path) c = W.tree (n :: path') c := by
      intro c hc
      refine ih c hc fun m hm => ?_
      have havoids : W.Avoids path c m :=
        ReflTransGen.lift id
          (fun _ _ hstep => ⟨fun hmem => hstep.1 (List.mem_cons_of_mem _ hmem), hstep.2⟩) _ _ hm
      rw [List.mem_cons, List.mem_cons, h m (.head ⟨hn, hc⟩ havoids)]
    rw [tree_of_not_mem hn, tree_of_not_mem hn', Shape.build_congr hparts]

omit [DecidableEq N] in
theorem Avoids.reach {nodes : List N} (h : W.Avoids nodes n m) : ReflTransGen W.Child n m :=
  ReflTransGen.lift id (fun _ _ hstep => hstep.2) _ _ h

omit [DecidableEq N] in
theorem contains_name_iff {nodes : List N} (hnodes : ∀ p ∈ nodes, p ∈ W.inner)
    (hn : n ∈ W.inner) : (nodes.map W.name).contains (W.name n) = true ↔ n ∈ nodes := by
  rw [List.contains_eq_mem, decide_eq_true_iff]
  constructor
  · intro h
    obtain ⟨p, hp, hname⟩ := List.mem_map.mp h
    exact W.eq_of_name (hnodes p hp) hn hname ▸ hp
  · exact fun h => List.mem_map_of_mem h

/-- Forgetting what is known about some nodes puts them on the way. -/
theorem fold_tree {nodes : List N} (h : W.Around (nodes ++ path) n) :
    (W.tree path n).fold (nodes.map W.name) = W.tree (nodes ++ path) n := by
  induction path, n using tree_induction (W := W) with
  | visited path n hn =>
    rw [tree_of_mem hn, tree_of_mem (List.mem_append_right _ hn)]
    rfl
  | fresh path n hn ih =>
    have hpath : W.Around path n := h.mono (List.subset_append_right _ _)
    have hinner : ∀ p ∈ nodes, p ∈ W.inner := fun p hp => (h p (List.mem_append_left _ hp)).1
    have hparts : ∀ c ∈ (W.shape n).parts,
        (W.tree (n :: path) c).fold (nodes.map W.name) = W.tree (n :: (nodes ++ path)) c := by
      intro c hc
      -- only which nodes are on the way counts, not their order
      have hperm (m : N) : m ∈ nodes ++ n :: path ↔ m ∈ n :: (nodes ++ path) := by
        simp only [List.mem_append, List.mem_cons]
        tauto
      rw [ih c hc ((h.child hc).mono fun m hm => (hperm m).mp hm)]
      exact tree_congr fun m _ => hperm m
    by_cases hmem : n ∈ nodes
    · have happend : n ∈ nodes ++ path := List.mem_append_left _ hmem
      have hcycle : W.OnCycle n := (h n happend).2 .refl
      rw [tree_of_onCycle hn hpath hcycle, tree_of_mem happend, Value.fold,
        if_pos ((contains_name_iff hinner hcycle.mem_inner).mpr hmem)]
    · have happend : n ∉ nodes ++ path := fun h => (List.mem_append.mp h).elim hmem hn
      by_cases hcycle : W.OnCycle n
      · have hname : ¬ (nodes.map W.name).contains (W.name n) = true :=
          mt (contains_name_iff hinner hcycle.mem_inner).mp hmem
        rw [tree_of_onCycle hn hpath hcycle, tree_of_onCycle happend h hcycle, Value.fold,
          if_neg hname, Shape.fold_build, Shape.build_congr hparts]
      · rw [tree_of_not_onCycle hn hpath hcycle, tree_of_not_onCycle happend h hcycle,
          Shape.fold_build, Shape.build_congr hparts]

/-- Writing out the nodes on a way that leads to a node leaves those that stay known. -/
theorem close_tree {outer : List (Nat × Value)} {nodes : List N} (h : W.Around path n)
    (hsub : nodes ⊆ path) (houter : ∀ p ∈ path, p ∉ nodes → ReflTransGen W.Child n p →
      outer.lookup (W.name p) = some (W.part p)) :
    (W.tree path n).close outer (nodes.map W.name) = W.tree nodes n := by
  induction path, n using tree_induction (W := W) generalizing nodes with
  | visited path n hn =>
    have hinner : ∀ p ∈ nodes, p ∈ W.inner := fun p hp => (h p (hsub hp)).1
    have hiff := contains_name_iff hinner (h n hn).1
    rw [tree_of_mem hn, Value.close]
    by_cases hmem : n ∈ nodes
    · rw [if_pos (hiff.mpr hmem), tree_of_mem hmem]
    · have haround : W.Around (nodes ++ []) n := by
        rw [List.append_nil]
        exact h.mono hsub
      have hfold : (W.tree [] n).fold (nodes.map W.name) = W.tree (nodes ++ []) n :=
        fold_tree haround
      rw [if_neg (mt hiff.mp hmem), houter n hn hmem .refl]
      rw [List.append_nil] at hfold
      exact hfold
  | fresh path n hn ih =>
    have hmem : n ∉ nodes := fun hmem => hn (hsub hmem)
    have hnodes : W.Around nodes n := h.mono hsub
    by_cases hcycle : W.OnCycle n
    · have hparts : ∀ c ∈ (W.shape n).parts,
          (W.tree (n :: path) c).close outer (W.name n :: nodes.map W.name) =
            W.tree (n :: nodes) c := by
        intro c hc
        refine @ih c hc (n :: nodes) (h.child hc) (List.cons_subset_cons n hsub)
          fun p hp hnot hway => ?_
        obtain ⟨hne, hnot⟩ := List.ne_and_not_mem_of_not_mem_cons hnot
        exact houter p ((List.mem_cons.mp hp).resolve_left hne) hnot (.head hc hway)
      rw [tree_of_onCycle hn h hcycle, tree_of_onCycle hmem hnodes hcycle, Value.close,
        Shape.close_build, Shape.build_congr hparts]
    · have hparts : ∀ c ∈ (W.shape n).parts,
          (W.tree (n :: path) c).close outer (nodes.map W.name) = W.tree (n :: nodes) c := by
        intro c hc
        have hback {m : N} (hway : ReflTransGen W.Child c m) : m ≠ n := by
          rintro rfl
          exact hcycle (.head' hc hway)
        rw [ih c hc (h.child hc) (fun p hp => List.mem_cons_of_mem _ (hsub hp))
          fun p hp hnot hway => houter p ((List.mem_cons.mp hp).resolve_left (hback hway)) hnot
            (.head hc hway)]
        refine tree_congr fun m hm => ?_
        rw [List.mem_cons]
        exact (or_iff_right (hback hm.reach)).symm
      rw [tree_of_not_onCycle hn h hcycle, tree_of_not_onCycle hmem hnodes hcycle,
        Shape.close_build, Shape.build_congr hparts]

/-- Writing out all nodes on a way leaves the node on its own. -/
theorem close_tree_nil {outer : List (Nat × Value)} (h : W.Around path n)
    (houter : ∀ p ∈ path, ReflTransGen W.Child n p → outer.lookup (W.name p) = some (W.part p)) :
    (W.tree path n).close outer [] = W.part n := by
  have hclose : (W.tree path n).close outer (([] : List N).map W.name) = W.tree [] n :=
    close_tree h (List.nil_subset _) fun p hp _ hway => houter p hp hway
  exact hclose

/-- A node on its own shows its parts on their own. -/
theorem opened_part (W : Web N) (n : N) : (W.part n).opened = (W.shape n).build W.part := by
  have hn : n ∉ ([] : List N) := List.not_mem_nil
  by_cases hcycle : W.OnCycle n
  · have hpart : W.part n = .knot (W.name n) ((W.shape n).build (W.tree [n])) :=
      tree_of_onCycle hn around_nil hcycle
    have hparts : ∀ c ∈ (W.shape n).parts,
        (W.tree [n] c).close [(W.name n, W.part n)] [] = W.part c := by
      intro c hc
      refine close_tree_nil (around_nil.child hc) fun p hp _ => ?_
      obtain rfl := List.mem_singleton.mp hp
      exact List.lookup_cons_self
    rw [hpart, Value.opened, ← hpart, Shape.close_build, Shape.build_congr hparts]
  · have hparts : ∀ c ∈ (W.shape n).parts, W.tree [n] c = W.part c := by
      intro c hc
      refine tree_congr fun m hm => ?_
      have hne : m ≠ n := by
        rintro rfl
        exact hcycle (.head' hc hm.reach)
      simp [hne]
    rw [part, tree_of_not_onCycle hn around_nil hcycle, Shape.opened_build,
      Shape.build_congr hparts]

theorem parts_part (W : Web N) (n : N) : (W.part n).parts = (W.shape n).parts.map W.part :=
  Shape.parts_of_opened (W.opened_part n)

/-! ### What is known on the way -/

/-- The nodes on the way lead to the node; those that it leads to are known on their own. -/
structure Known (W : Web N) (path : List N) (outer : List (Nat × Value)) (n : N) : Prop where
  /-- The nodes on the way may have parts. -/
  inner : ∀ p ∈ path, p ∈ W.inner
  /-- They lead to the node. -/
  reach : ∀ p ∈ path, TransGen W.Child p n
  /-- They are known where they can be met again. -/
  lookup : ∀ p ∈ path, ReflTransGen W.Child n p → outer.lookup (W.name p) = some (W.part p)

theorem known_nil : W.Known [] [] n := ⟨by simp, by simp, by simp⟩

variable {outer : List (Nat × Value)}

theorem Known.around (h : W.Known path outer n) : W.Around path n :=
  fun p hp => ⟨h.inner p hp, fun _ => h.reach p hp⟩

theorem Known.close_eq (h : W.Known path outer n) : (W.tree path n).close outer [] = W.part n :=
  close_tree_nil h.around h.lookup

/-- The way to a part of a node that is not tied. -/
theorem Known.child (h : W.Known path outer n) (hcycle : ¬ W.OnCycle n) (hc : W.Child n c) :
    W.Known (n :: path) outer c where
  inner := List.forall_mem_cons.mpr ⟨W.mem_inner hc, h.inner⟩
  reach := List.forall_mem_cons.mpr ⟨.single hc, fun p hp => (h.reach p hp).tail hc⟩
  lookup p hp hway := by
    rcases List.mem_cons.mp hp with rfl | hp
    · exact absurd (TransGen.head' hc hway) hcycle
    · exact h.lookup p hp (.head hc hway)

/-- The way to a part of a node that is tied. -/
theorem Known.tied (h : W.Known path outer n) (hn : n ∉ path) (hc : W.Child n c) :
    W.Known (n :: path) ((W.name n, W.part n) :: outer) c where
  inner := List.forall_mem_cons.mpr ⟨W.mem_inner hc, h.inner⟩
  reach := List.forall_mem_cons.mpr ⟨.single hc, fun p hp => (h.reach p hp).tail hc⟩
  lookup p hp hway := by
    rcases List.mem_cons.mp hp with rfl | hp
    · exact List.lookup_cons_self
    · have hname : (W.name p == W.name n) = false := by
        rw [beq_eq_false_iff_ne]
        intro hname
        exact hn (W.eq_of_name (h.inner p hp) (W.mem_inner hc) hname ▸ hp)
      rw [List.lookup_cons, hname]
      exact h.lookup p hp (.head hc hway)

end Web

end ClientGen
