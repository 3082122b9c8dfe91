import ClientGen.Proofs.Resolution.Return

/-!
# The walk over a web

The walk over the value of a node visits the node's parts with the node on the way. It fails where
it meets a node on the way, and gives a value only if no way from the node goes on forever. So the
walk over a value that is put together from nodes comes back to a container exactly where the value
does.

## Main definitions

* `ClientGen.Web.Walk` : the walk enters a node and goes on to one of its parts.
* `ClientGen.Web.Standing` : values that are put together from nodes.

## Main results

* `ClientGen.Web.ends_of_visit_tree`, `ClientGen.Web.stops_of_visit_tree` : the walk over a node.
* `ClientGen.Web.comesBack_part_iff` : ways back among values and among nodes.
* `ClientGen.Web.Standing.ends_of_visit`, `ClientGen.Web.Standing.stops_of_visit` : the walk over a
  value that is put together from nodes.
-/

namespace ClientGen.Web

open Relation Document

variable {N : Type} [DecidableEq N] {W : Web N} {n c m : N} {path : List N} {root v w : Value}
  {budget : Nat} {outer : List (Nat × Value)} {p : Problem}

/-! ### Ways among nodes -/

/-- The walk enters a node and goes on to one of its parts. -/
def Walk (W : Web N) (n c : N) : Prop := (Node.classify (W.part n)).IsEntered ∧ W.Child n c

theorem Walk.enters (h : W.Walk n c) : Enters (W.part n) (W.part c) := by
  refine ⟨h.1, ?_⟩
  rw [parts_part]
  exact List.mem_map_of_mem h.2

theorem exists_walk_of_enters (h : Enters (W.part n) w) : ∃ c, W.Walk n c ∧ w = W.part c := by
  obtain ⟨hentered, hw⟩ := h
  rw [parts_part] at hw
  obtain ⟨c, hc, rfl⟩ := List.mem_map.mp hw
  exact ⟨c, ⟨hentered, hc⟩, rfl⟩

theorem transGen_enters (h : TransGen W.Walk n c) : TransGen Enters (W.part n) (W.part c) :=
  TransGen.lift W.part (fun _ _ hstep => hstep.enters) _ _ h

theorem meets_part (h : ReflTransGen W.Walk n c) : Meets (W.part n) (W.part c) :=
  ReflTransGen.lift W.part (fun _ _ hstep => hstep.enters) _ _ h

/-- No way from a node goes on forever if none goes on forever among the nodes. -/
theorem ends_part (h : Acc (fun c n => W.Walk n c) n) : Ends (W.part n) := by
  induction h with
  | intro n _ ih =>
    refine .intro _ fun w hw => ?_
    obtain ⟨c, hc, rfl⟩ := exists_walk_of_enters hw
    exact ih c hc

/-- A way that goes on forever comes back to a node, as only finitely many nodes have parts. -/
theorem acc_of_forall_not_transGen (h : ∀ m, ReflTransGen W.Walk n m → ¬ TransGen W.Walk m m) :
    Acc (fun c n => W.Walk n c) n := by
  classical
  -- no step leads back to `n`, so fewer nodes with parts are within reach after it
  induction hcard : (W.inner.filter (ReflTransGen W.Walk n)).card using Nat.strong_induction_on
    generalizing n with
  | _ k ih =>
    refine .intro n fun c hc => ih _ ?_ (fun m hm => h m (.head hc hm)) rfl
    rw [← hcard]
    refine Finset.card_lt_card ⟨fun m hm => ?_, fun hsub => ?_⟩
    · rw [Finset.mem_filter] at hm ⊢
      exact ⟨hm.1, .head hc hm.2⟩
    · have hn := hsub (Finset.mem_filter.mpr ⟨W.mem_inner hc.2, .refl⟩)
      exact h n .refl (.head' hc (Finset.mem_filter.mp hn).2)

/-- The walk over the value of a node comes back exactly if a way leads from the node to one that
leads back to itself. -/
theorem comesBack_part_iff :
    ComesBack (W.part n) ↔ ∃ m, ReflTransGen W.Walk n m ∧ TransGen W.Walk m m := by
  constructor
  · intro h
    by_contra hno
    push Not at hno
    exact (ends_part (acc_of_forall_not_transGen hno)).not_comesBack h
  · rintro ⟨m, hnm, hmm⟩
    exact ⟨W.part m, meets_part hnm, transGen_enters hmm⟩

/-! ### The walk over a node -/

/-- The walk over a node goes to its shape. The node is known on its own if it can be met again. -/
theorem visit_tree (hn : n ∉ path) (h : W.Known path outer n) (root : Value) (budget : Nat) :
    ∃ outer' whole, visit root budget outer none (W.tree path n) =
        visit root budget outer' whole ((W.shape n).build (W.tree (n :: path))) ∧
      whole.getD (((W.shape n).build (W.tree (n :: path))).close outer' []) = W.part n ∧
      ∀ c, W.Child n c → W.Known (n :: path) outer' c := by
  by_cases hcycle : W.OnCycle n
  · have htree := tree_of_onCycle hn h.around hcycle
    refine ⟨(W.name n, W.part n) :: outer, some (W.part n), ?_, rfl, fun c hc => h.tied hn hc⟩
    have hclose := h.close_eq
    rw [htree] at hclose ⊢
    rw [visit, hclose]
  · have htree := tree_of_not_onCycle hn h.around hcycle
    refine ⟨outer, none, by rw [htree], ?_, fun c hc => h.child hcycle hc⟩
    rw [Option.getD_none, ← htree]
    exact h.close_eq

theorem nesting_tree (hn : n ∉ path) :
    (W.tree path n).nesting = ((W.shape n).build (W.tree (n :: path))).nesting := by
  rw [tree_of_not_mem hn, Value.tie]
  split <;> rfl

/-- Where the walk over a node gives a value, no way from the node goes on forever. -/
theorem ends_of_visit_tree (hk : W.Known path outer n)
    (h : visit root budget outer none (W.tree path n) = .ok w) : Ends (W.part n) := by
  induction path, n using tree_induction (W := W) generalizing budget outer w with
  | visited path n hn =>
    rw [tree_of_mem hn] at h
    cases h
  | fresh path n hn ih =>
    obtain ⟨outer', whole, hvisit, hwhole, hknown⟩ := visit_tree hn hk root budget
    rw [hvisit] at h
    exact ends_of_visit_build hwhole (W.opened_part n)
      (fun _ c hc _ hx => ih c hc (hknown c hc) hx) h

/-- The walk over a node stops only for a reason. -/
theorem stops_of_visit_tree (hk : W.Known path outer n) (hwalk : ∀ m ∈ path, TransGen W.Walk m n)
    (h : visit root budget outer none (W.tree path n) = .error p) :
    Stops root budget (W.part n) (budget < (W.tree path n).nesting) p := by
  induction path, n using tree_induction (W := W) generalizing budget outer p with
  | visited path n hn =>
    rw [tree_of_mem hn] at h
    obtain rfl := Except.error.inj h
    exact .cyclic ⟨W.part n, .refl, transGen_enters (hwalk n hn)⟩
  | fresh path n hn ih =>
    obtain ⟨outer', whole, hvisit, hwhole, hknown⟩ := visit_tree hn hk root budget
    rw [hvisit] at h
    rw [nesting_tree hn]
    refine stops_of_visit_build hwhole (W.opened_part n)
      (fun _ c hc _ hx => ends_of_visit_tree (hknown c hc) hx) (fun hentered c hc _ hx => ?_) h
    have hwalk' : ∀ m ∈ n :: path, TransGen W.Walk m c :=
      List.forall_mem_cons.mpr
        ⟨.single ⟨hentered, hc⟩, fun m hm => (hwalk m hm).tail ⟨hentered, hc⟩⟩
    exact ih c hc (hknown c hc) hwalk' hx

/-! ### Values put together from nodes -/

/-- The value of a node, or a value whose parts are such values. -/
inductive Standing (W : Web N) : Value → Prop
  /-- The value of a node. -/
  | node (n : N) : W.Standing (W.part n)
  /-- A value whose parts are such values. -/
  | build {M : Type} {s : Shape M} {f : M → Value} (h : ∀ m ∈ s.parts, W.Standing (f m)) :
      W.Standing (s.build f)

theorem Standing.of_mem_parts (h : W.Standing v) (hw : w ∈ v.parts) : W.Standing w := by
  cases h with
  | node n =>
    rw [parts_part] at hw
    obtain ⟨c, -, rfl⟩ := List.mem_map.mp hw
    exact .node c
  | @build M s f h =>
    rw [Shape.parts_of_opened (Shape.opened_build f s)] at hw
    obtain ⟨m, hm, rfl⟩ := List.mem_map.mp hw
    exact h m hm

theorem standing_scalar (s : Scalar) : W.Standing (.scalar s) :=
  .build (M := Empty) (s := .scalar s) (f := Empty.elim) nofun

theorem standing_sequence {xs : List Value} (h : ∀ x ∈ xs, W.Standing x) :
    W.Standing (.sequence xs) := by
  have hbuild : W.Standing ((Shape.sequence xs).build id) := .build h
  rwa [Shape.build, List.map_id] at hbuild

theorem standing_mapping {es : Table Scalar Value} (h : ∀ e ∈ es, W.Standing e.2) :
    W.Standing (.mapping es) := by
  have hbuild : W.Standing ((Shape.mapping es).build id) :=
    .build (List.forall_mem_map.mpr h)
  have hsame : es.map (fun e => (e.1, id e.2)) = es := List.map_id es
  rwa [Shape.build, hsame] at hbuild

theorem hereditary_standing (W : Web N) : Value.Hereditary W.Standing where
  of_mem_parts := Standing.of_mem_parts
  null := standing_scalar _
  text _ := standing_scalar _
  sequence := standing_sequence
  ofFields h := standing_mapping (List.forall_mem_map.mpr h)

/-- A plain value is put together from scalars. -/
theorem standing_of_plain (h : v.Plain) : W.Standing v := by
  induction v with
  | scalar s => exact standing_scalar s
  | members ks => exact .build (M := Empty) (s := .members ks) (f := Empty.elim) nofun
  | sequence xs ih =>
    exact standing_sequence fun x hx => ih x hx (Value.plain_sequence.mp h x hx)
  | mapping es ih => exact standing_mapping fun e he => ih e he (Value.plain_mapping.mp h e he)
  | pair k v hk hv =>
    obtain ⟨hk', hv'⟩ := Value.plain_pair.mp h
    refine .build (M := Value) (s := .pair k v) (f := id) fun x hx => ?_
    rcases List.mem_cons.mp hx with rfl | hx
    · exact hk hk'
    · rw [List.mem_singleton.mp hx]
      exact hv hv'
  | knot n b => exact absurd h Value.not_plain_knot
  | again n => exact absurd h Value.not_plain_again

/-- Where the walk gives a value, no way goes on forever. -/
theorem Standing.ends_of_visit (hv : W.Standing v) (h : visit root budget [] none v = .ok w) :
    Ends v := by
  induction hv generalizing budget w with
  | node n => exact ends_of_visit_tree known_nil h
  | @build M s f _ ih =>
    have hwhole : (none : Option Value).getD ((s.build f).close [] []) = s.build f :=
      Value.close_nil _ _
    exact ends_of_visit_build hwhole (Shape.opened_build f s) (fun _ m hm _ hx => ih m hm hx) h

/-- The walk stops only for a reason. -/
theorem Standing.stops_of_visit (hv : W.Standing v)
    (h : visit root budget [] none v = .error p) : Stops root budget v (budget < v.nesting) p := by
  induction hv generalizing budget p with
  | node n => exact stops_of_visit_tree known_nil (fun _ hm => absurd hm List.not_mem_nil) h
  | @build M s f hparts ih =>
    have hwhole : (none : Option Value).getD ((s.build f).close [] []) = s.build f :=
      Value.close_nil _ _
    exact stops_of_visit_build hwhole (Shape.opened_build f s)
      (fun _ m hm _ hx => (hparts m hm).ends_of_visit hx) (fun _ m hm _ hx => ih m hm hx) h

end ClientGen.Web
