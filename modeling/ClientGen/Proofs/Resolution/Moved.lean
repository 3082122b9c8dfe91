import ClientGen.Proofs.Normalization.References
import ClientGen.Proofs.Resolution.WebWalk

/-!
# Moved references

Moving the references of a value copies its containers, but a container on the way that is met
again stays as it was, with all that it leads to. So the copy starts with containers of its own and
goes on with those of the value. The walk over the copy still comes back wherever the walk over the
value does: a container of the copy is entered if the one that it was copied from is.

## Main definitions

* `ClientGen.Web.Follows` : a value takes the place of another one.

## Main results

* `ClientGen.Web.follows_build` : a copied container, from its parts.
* `ClientGen.Web.follows_tree` : what a node with a way that leads to it is copied to.
* `ClientGen.Web.Standing.follows_moveReferences` : what any value is copied to.
-/

namespace ClientGen

open Relation

namespace Document

variable {outer : List (Nat × Value)}

theorem moveIn_knot {n : Nat} {b : Value} (h : ∀ k x, b ≠ .pair k x) :
    moveIn outer (.knot n b) = moveIn ((n, (Value.knot n b).close outer []) :: outer) b := by
  rw [moveIn]
  exact h

/-- An empty text is not moved. -/
theorem isFilled_movePointer {r : String} (h : (Value.text r).isFilled = false) :
    (Value.text (movePointer r)).isFilled = false := by
  have hr : r.isEmpty = true := by simpa [Value.isFilled] using h
  obtain rfl : r = "" := String.isEmpty_iff.mp hr
  rfl

end Document

namespace Web

open Document

variable {N M : Type} [DecidableEq N] {W : Web N} {n : N} {path : List N} {v w : Value}
  {outer : List (Nat × Value)}

/-- A value takes the place of another one: it is put together from nodes, counts as the other one
does, and has a way that goes on forever if the other one has. -/
structure Follows (W : Web N) (v w : Value) : Prop where
  /-- It is put together from nodes. -/
  standing : W.Standing w
  /-- It counts as the other one does. -/
  resembles : Value.Resembles v w
  /-- If its ways end, so do those of the other one. -/
  ends : Ends w → Ends v

theorem Standing.follows_self (h : W.Standing v) : W.Follows v v := ⟨h, .refl v, id⟩

theorem follows_text (r : String) : W.Follows (.text r) (.text (movePointer r)) where
  standing := standing_scalar _
  resembles := by
    refine ⟨fun hnone => ?_, isFilled_movePointer⟩
    cases hnone
  ends _ := ends_of_not_isEntered Node.not_isEntered_scalar

/-- A value that counts as missing is not tied. -/
theorem opened_of_isFilled_eq_false (h : v.isFilled = false) : v.opened = v := by
  cases v with
  | knot n b => cases h
  | _ => rfl

/-! ### Copied containers -/

variable {s : Shape M} {f g : M → Value}

theorem follows_sequence {ns : List M} (hopened : v.opened = (Shape.sequence ns).build g)
    (h : ∀ m ∈ ns, W.Follows (g m) (moveIn outer (f m))) :
    W.Follows v (.sequence (ns.map fun m => moveIn outer (f m))) where
  standing := standing_sequence (List.forall_mem_map.mpr fun m hm => (h m hm).standing)
  resembles := by
    refine ⟨fun _ => rfl, fun hempty => ?_⟩
    rw [← opened_of_isFilled_eq_false hempty, hopened] at hempty
    cases ns with
    | nil => rfl
    | cons m ns => cases hempty
  ends hends := by
    refine ends_of_parts fun _ x hx => ?_
    rw [Shape.parts_of_opened hopened] at hx
    obtain ⟨m, hm, rfl⟩ := List.mem_map.mp hx
    exact (h m hm).ends (hends.of_enters ⟨.inr rfl, List.mem_map_of_mem hm⟩)

theorem follows_movedUnder {k : Scalar} {x y : Value} (hclose : x.close outer [] = y)
    (h : W.Follows y (moveIn outer x)) : W.Follows y (movedUnder outer k x) := by
  rcases @movedUnder_eq outer k x with hsame | ⟨r, rfl, hmoved⟩
  · rw [hsame]
    exact h
  · rw [hmoved, ← hclose]
    exact follows_text r

theorem follows_mapping {es : List (Scalar × M)} (hopened : v.opened = (Shape.mapping es).build g)
    (hclose : ∀ e ∈ es, (f e.2).close outer [] = g e.2)
    (h : ∀ e ∈ es, W.Follows (g e.2) (moveIn outer (f e.2))) :
    W.Follows v (.mapping (es.map fun e => (e.1, movedUnder outer e.1 (f e.2)))) := by
  have hentry : ∀ e ∈ es, W.Follows (g e.2) (movedUnder outer e.1 (f e.2)) :=
    fun e he => follows_movedUnder (hclose e he) (h e he)
  refine ⟨standing_mapping (List.forall_mem_map.mpr fun e he => (hentry e he).standing), ?_, ?_⟩
  · refine ⟨fun _ => rfl, fun hempty => ?_⟩
    rw [← opened_of_isFilled_eq_false hempty, hopened] at hempty
    cases es with
    | nil => rfl
    | cons e es => cases hempty
  · intro hends
    refine ends_of_parts fun hv x hx => ?_
    -- the copy is entered too, as it is a reference or a parameter only where `v` is one
    have hmapping : Node.classify ((Shape.mapping es).build g) = .mapping := by
      rw [← Node.classify_congr (hopened.trans (Shape.opened_build g _).symm)]
      exact Node.classify_of_isEntered (isMapping_of_opened hopened) hv
    have hresembles : List.Forall₂ (fun e f => e.1 = f.1 ∧ Value.Resembles e.2 f.2)
        (es.map fun e => (e.1, g e.2)) (es.map fun e => (e.1, movedUnder outer e.1 (f e.2))) := by
      rw [List.forall₂_map_left_iff, List.forall₂_map_right_iff, List.forall₂_same]
      exact fun e he => ⟨rfl, (hentry e he).resembles⟩
    have hentered := Value.classify_of_resembles hresembles hmapping
    rw [Shape.parts_of_opened hopened, Shape.parts, List.map_map] at hx
    obtain ⟨e, he, rfl⟩ := List.mem_map.mp hx
    refine (hentry e he).ends (hends.of_enters ⟨.inl hentered, ?_⟩)
    exact List.mem_map_of_mem (f := fun e => e.2)
      (List.mem_map_of_mem (f := fun e => (e.1, movedUnder outer e.1 (f e.2))) he)

/-- A copied container takes the place of the container, if its copied parts do. -/
theorem follows_build (hv : W.Standing v) (hopened : v.opened = s.build g)
    (hleaf : s.parts = [] → v = s.build g) (hpair : ∀ k x, s ≠ .pair k x)
    (hclose : ∀ m ∈ s.parts, (f m).close outer [] = g m)
    (h : ∀ m ∈ s.parts, W.Follows (g m) (moveIn outer (f m))) :
    W.Follows v (moveIn outer (s.build f)) := by
  cases s with
  | scalar s | members ks =>
    obtain rfl := hleaf rfl
    exact hv.follows_self
  | pair k x => exact absurd rfl (hpair k x)
  | sequence ns =>
    rw [Shape.build, moveIn, moveItems_eq_map, List.map_map]
    exact follows_sequence hopened h
  | mapping es =>
    have hmem {e : Scalar × M} (he : e ∈ es) : e.2 ∈ (Shape.mapping es).parts :=
      List.mem_map_of_mem he
    rw [Shape.build, moveIn, moveEntries_eq_map, List.map_map]
    exact follows_mapping hopened (fun e he => hclose e.2 (hmem he)) fun e he => h e.2 (hmem he)

/-! ### Copied nodes -/

omit [DecidableEq N] in
theorem build_ne_pair {s : Shape M} {f : M → Value} (h : ∀ k x, s ≠ .pair k x) (k x : Value) :
    s.build f ≠ .pair k x := by
  cases s with
  | pair l y => exact absurd rfl (h l y)
  | _ => exact nofun

theorem part_of_parts_eq_nil (h : (W.shape n).parts = []) :
    W.part n = (W.shape n).build W.part := by
  have hcycle : ¬ W.OnCycle n := fun hcycle => by
    obtain ⟨c, hc, -⟩ := TransGen.head'_iff.mp hcycle
    rw [Child, h] at hc
    cases hc
  rw [part, tree_of_not_onCycle List.not_mem_nil around_nil hcycle]
  exact Shape.build_congr fun c hc => by rw [h] at hc; cases hc

/-- A node with a way that leads to it stays as it is on its own, or its shape is copied. -/
theorem moveIn_tree (hn : n ∉ path) (h : W.Known path outer n) :
    moveIn outer (W.tree path n) = W.part n ∨
      (∀ k x, W.shape n ≠ .pair k x) ∧ ∃ outer', moveIn outer (W.tree path n) =
          moveIn outer' ((W.shape n).build (W.tree (n :: path))) ∧
        ∀ c, W.Child n c → W.Known (n :: path) outer' c := by
  have hclose := h.close_eq
  by_cases hpair : ∃ k x, W.shape n = .pair k x
  · left
    obtain ⟨k, x, hshape⟩ := hpair
    rw [← hclose, tree_of_not_mem hn, hshape, Shape.build, Value.tie]
    split <;> rfl
  · have hpair' : ∀ k x, W.shape n ≠ .pair k x := fun k x hs => hpair ⟨k, x, hs⟩
    refine .inr ⟨hpair', ?_⟩
    by_cases hcycle : W.OnCycle n
    · refine ⟨(W.name n, W.part n) :: outer, ?_, fun c hc => h.tied hn hc⟩
      rw [tree_of_onCycle hn h.around hcycle] at hclose ⊢
      rw [moveIn_knot (build_ne_pair hpair'), hclose]
    · refine ⟨outer, ?_, fun c hc => h.child hcycle hc⟩
      rw [tree_of_not_onCycle hn h.around hcycle]

/-- What a node with a way that leads to it is copied to takes the place of the node. -/
theorem follows_tree (h : W.Known path outer n) :
    W.Follows (W.part n) (moveIn outer (W.tree path n)) := by
  induction path, n using tree_induction (W := W) generalizing outer with
  | visited path n hn =>
    rw [tree_of_mem hn, moveIn, h.lookup n hn .refl]
    exact (Standing.node n).follows_self
  | fresh path n hn ih =>
    rcases moveIn_tree hn h with hpart | ⟨hpair, outer', hmove, hknown⟩
    · rw [hpart]
      exact (Standing.node n).follows_self
    · rw [hmove]
      exact follows_build (.node n) (W.opened_part n) part_of_parts_eq_nil hpair
        (fun c hc => (hknown c hc).close_eq) fun c hc => ih c hc (hknown c hc)

/-- A value with its references moved takes the place of the value. -/
theorem Standing.follows_moveReferences (h : W.Standing v) : W.Follows v (moveReferences v) := by
  induction h with
  | node n => exact follows_tree known_nil
  | @build M s f hparts ih =>
    by_cases hpair : ∃ k x, s = .pair k x
    · obtain ⟨k, x, rfl⟩ := hpair
      have hself : moveReferences ((Shape.pair k x).build f) = (Shape.pair k x).build f :=
        Value.close_nil _ _
      rw [hself]
      exact (Standing.build hparts).follows_self
    · exact follows_build (.build hparts) (Shape.opened_build f s) (fun _ => rfl)
        (fun k x hs => hpair ⟨k, x, hs⟩) (fun m _ => Value.close_nil _ _) ih

end Web

end ClientGen
