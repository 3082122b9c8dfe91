import ClientGen.Proofs.Resolution.Settled
import ClientGen.Proofs.Value.Web

/-!
# Ways back and failures of the walk

The walk over a value comes back if a value that it meets leads to itself. A value that the walk
cannot follow forever is accessible for the relation of entering, and from there the walk does not
come back. The walk stops at a reference or a parameter that cannot be replaced, at a way back, or
because it is too deep; this file says so for a single container, from its parts to itself.

## Main definitions

* `ClientGen.Problem.IsLimit` : problems that are reported as a limit.
* `ClientGen.Document.ComesBack` : a way leads from a value that is met back to it.
* `ClientGen.Document.Ends` : no way goes on forever.
* `ClientGen.Document.Raised` : a reference or a parameter fails before any way back.
* `ClientGen.Document.Stops` : why the walk stops.

## Main results

* `ClientGen.Document.Ends.not_comesBack` : where all ways end, none leads back.
* `ClientGen.Document.ends_of_visit_build`, `ClientGen.Document.stops_of_visit_build` : the walk
  over a single container.
* `ClientGen.Document.exists_way_of_raised` : only a deep value at the end of a way fails as a
  limit.
-/

namespace ClientGen

open Relation

namespace Problem

/-- The problem is reported as a limit: the document is cyclic or too deep. -/
def IsLimit (p : Problem) : Prop := ∃ f : Failure, p = .failure f ∧ f.report.category = .depth

theorem not_isLimit_fault (f : Fault) : ¬ (fault f).IsLimit := by
  rintro ⟨_, h, -⟩
  cases h

theorem isLimit_failure_iff {f : Failure} : (failure f).IsLimit ↔ f.report.category = .depth := by
  constructor
  · rintro ⟨g, hg, hlimit⟩
    rwa [failure.inj hg]
  · exact fun hlimit => ⟨f, rfl, hlimit⟩

end Problem

namespace Document

variable {root v w : Value} {budget : Nat} {p : Problem}

/-! ### Ways -/

/-- A value that the walk meets leads back to itself. -/
def ComesBack (v : Value) : Prop := ∃ w, Meets v w ∧ TransGen Enters w w

/-- No way on which the walk enters one value after another goes on forever. -/
def Ends (v : Value) : Prop := Acc (fun w v => Enters v w) v

theorem ends_of_parts (h : (Node.classify v).IsEntered → ∀ w ∈ v.parts, Ends w) : Ends v :=
  .intro v fun w hw => h hw.1 w hw.2

theorem Ends.of_enters (h : Ends v) (hw : Enters v w) : Ends w := h.inv hw

theorem ends_of_not_isEntered (h : ¬ (Node.classify v).IsEntered) : Ends v :=
  ends_of_parts fun he => absurd he h

/-- Where all ways end, none leads back. -/
theorem Ends.not_comesBack (h : Ends v) : ¬ ComesBack v := by
  induction h with
  | intro v _ ih =>
    rintro ⟨w, hvw, hww⟩
    rcases hvw.cases_head with rfl | ⟨u, hvu, huw⟩
    · obtain ⟨u, hvu, huv⟩ := TransGen.head'_iff.mp hww
      exact ih u hvu ⟨u, .refl, .tail' huv hvu⟩
    · exact ih u hvu ⟨w, huw, hww⟩

theorem ComesBack.of_enters (h : ComesBack w) (hvw : Enters v w) : ComesBack v := by
  obtain ⟨u, hwu, huu⟩ := h
  exact ⟨u, .head hvw hwu, huu⟩

/-! ### Failures -/

/-- The walk, which may still enter `budget` containers inside each other, meets a reference or a
parameter that cannot be replaced, and no value that it meets before has a way that comes back. -/
inductive Raised (root : Value) : Nat → Value → Problem → Prop
  /-- The reference cannot be replaced. -/
  | reference {budget : Nat} {v : Value} {r : String} {p : Problem}
      (hv : Node.classify v = .reference r) (h : replaceReference root budget r = .error p) :
      Raised root budget v p
  /-- The parameter cannot be replaced. -/
  | parameter {budget : Nat} {v : Value} {p : Problem} (hv : Node.classify v = .parameter)
      (h : replaceParameter budget v none = .error p) : Raised root budget v p
  /-- A part fails, after parts from which the walk does not come back. -/
  | part {budget : Nat} {v w : Value} {p : Problem} {before after : List Value}
      (hv : (Node.classify v).IsEntered) (hparts : v.parts = before ++ w :: after)
      (hbefore : ∀ u ∈ before, ¬ ComesBack u) (h : Raised root budget w p) :
      Raised root (budget + 1) v p

/-- Why the walk over a value stops; `deep` says that it is deeper than the walk can go. -/
inductive Stops (root : Value) (budget : Nat) (v : Value) (deep : Prop) : Problem → Prop
  /-- A reference or a parameter cannot be replaced. -/
  | raised {p : Problem} (h : Raised root budget v p) : Stops root budget v deep p
  /-- The value is too deep. -/
  | tooDeep (h : deep) : Stops root budget v deep (.failure .tooDeepToResolve)
  /-- The walk comes back to a container. -/
  | cyclic (h : ComesBack v) : Stops root budget v deep (.failure .cyclic)

/-- What stops the walk over a part stops it over the whole, if it does not come back before. -/
theorem Stops.of_part {deep deep' : Prop} {before after : List Value}
    (hv : (Node.classify v).IsEntered) (hparts : v.parts = before ++ w :: after)
    (hbefore : ∀ u ∈ before, ¬ ComesBack u) (hdeep : deep → deep')
    (h : Stops root budget w deep p) : Stops root (budget + 1) v deep' p := by
  cases h with
  | raised h => exact .raised (.part hv hparts hbefore h)
  | tooDeep h => exact .tooDeep (hdeep h)
  | cyclic h => exact .cyclic (h.of_enters ⟨hv, by simp [hparts]⟩)

/-- The values that are put in place as they are fail only if they are too deep to be copied. -/
theorem copied_eq_error {u : Value} :
    copied budget u = .error p ↔
      p = .failure .tooDeepToResolve ∧ 3 * budget < 2 * u.nesting := by
  unfold copied
  split
  · rename_i h
    simp [h, eq_comm]
  · rename_i h
    simp [h]

theorem replaceParameter_eq_error {name : Option String}
    (h : replaceParameter budget v name = .error p) :
    (∃ f, p = .fault f) ∨ p = .failure .tooDeepToResolve ∧ 3 * budget < 2 * v.nesting := by
  unfold replaceParameter at h
  rcases Except.bind_eq_error.mp h with h | ⟨found, -, h⟩
  · obtain ⟨f, -, rfl⟩ := Fault.lift_eq_error.mp h
    exact .inl ⟨f, rfl⟩
  · cases found with
    | some q => cases h
    | none => exact .inr (copied_eq_error.mp h)

/-- A reference that cannot be replaced is not a way back. It is too deep only if it names a value
that is too deep to be copied. -/
theorem replaceReference_eq_error {ref : String}
    (h : replaceReference root budget ref = .error p) :
    (p = .failure .tooDeepToResolve ∧ ∃ t, root.Holds t ∧ 3 * budget < 2 * t.nesting) ∨
      (∃ f, p = .fault f) ∨ (∃ segment, p = .failure (.danglingReference ref segment)) ∨
      p = .failure (.externalReference ref) := by
  unfold replaceReference at h
  split at h
  · rcases Except.bind_eq_error.mp h with h | ⟨t, ht, h⟩
    · unfold Pointer.lookup at h
      split at h
      · rcases Pointer.walk_eq_error h with hf | hdangling
        · exact .inr (.inl hf)
        · exact .inr (.inr (.inl hdangling))
      · exact .inr (.inr (.inr (Except.error.inj h).symm))
    · rcases replaceParameter_eq_error h with hf | ⟨hp, hdeep⟩
      · exact .inr (.inl hf)
      · exact .inl ⟨hp, t, Pointer.holds_of_lookup ht, hdeep⟩
  · cases h

/-- If a failing reference or parameter is reported as a limit, a value is too deep to be copied at
the end of a way: every container on the way has taken three calls of the walk, and every one
inside the others of the value takes two. -/
theorem exists_way_of_raised (h : Raised root budget v p) (hlimit : p.IsLimit) :
    p = .failure .tooDeepToResolve ∧ ∃ way : List Value, List.IsChain Enters (v :: way) ∧
      ∃ w, (Meets v w ∨ root.Holds w) ∧ 3 * budget < 3 * way.length + 2 * w.nesting := by
  induction h with
  | @reference budget v r p hv h =>
    rcases replaceReference_eq_error h with ⟨hp, t, ht, hdeep⟩ | ⟨f, rfl⟩ | ⟨s, rfl⟩ | rfl
    · exact ⟨hp, [], .singleton v, t, .inr ht, by simpa using hdeep⟩
    · exact absurd hlimit (Problem.not_isLimit_fault f)
    · cases Problem.isLimit_failure_iff.mp hlimit
    · cases Problem.isLimit_failure_iff.mp hlimit
  | @parameter budget v p hv h =>
    rcases replaceParameter_eq_error h with ⟨f, rfl⟩ | ⟨hp, hdeep⟩
    · exact absurd hlimit (Problem.not_isLimit_fault f)
    · exact ⟨hp, [], .singleton v, v, .inl .refl, by simpa using hdeep⟩
  | @part budget v w p before after hv hparts _ _ ih =>
    obtain ⟨hp, way, hway, u, hu, hdeep⟩ := ih hlimit
    have hstep : Enters v w := ⟨hv, by simp [hparts]⟩
    refine ⟨hp, w :: way, .cons_cons hstep hway, u, hu.imp_left fun hu => .head hstep hu, ?_⟩
    rw [List.length_cons]
    omega

/-! ### A single container -/

section Build

variable {N : Type} {s : Shape N} {f g : N → Value} {outer : List (Nat × Value)}
  {whole : Option Value}

theorem nesting_lt_nesting_build {n : N} (hn : n ∈ s.parts) :
    (f n).nesting < (s.build f).nesting := by
  cases s with
  | scalar s | members ks => cases hn
  | sequence ns =>
    change n ∈ ns at hn
    have := Value.nesting_le_nestingItems (List.mem_map_of_mem (f := f) hn)
    rw [Shape.build, Value.nesting]
    omega
  | mapping es =>
    obtain ⟨e, he, rfl⟩ := List.mem_map.mp hn
    have hmem : f e.2 ∈ (es.map fun e => (e.1, f e.2)).map (·.2) :=
      List.mem_map_of_mem (List.mem_map_of_mem (f := fun e => (e.1, f e.2)) he)
    have := Value.nesting_le_nestingItems hmem
    rw [Shape.build, Value.nesting, Value.nestingEntries_eq]
    omega
  | pair k v =>
    rw [Shape.build, Value.nesting]
    rcases List.mem_cons.mp hn with rfl | hn
    · omega
    · obtain rfl := List.mem_singleton.mp hn
      omega

theorem classify_of_opened (h : v.opened = s.build g)
    (hs : ∀ ns, s ≠ .sequence ns) (hm : ∀ es, s ≠ .mapping es) : Node.classify v = .scalar := by
  refine Node.classify_of_scalar ?_ ?_
  · rw [Value.isSequence, Value.items?, h]
    cases s with
    | sequence ns => exact absurd rfl (hs ns)
    | _ => rfl
  · rw [Value.isMapping, Value.entries?, h]
    cases s with
    | mapping es => exact absurd rfl (hm es)
    | _ => rfl

theorem classify_of_opened_sequence {ns : List N} (h : v.opened = (Shape.sequence ns).build g) :
    Node.classify v = .sequence := by
  refine Node.classify_of_isSequence ?_
  rw [Value.isSequence, Value.items?_eq_some.mpr h]
  rfl

theorem isMapping_of_opened {es : List (Scalar × N)} (h : v.opened = (Shape.mapping es).build g) :
    v.isMapping = true := by
  rw [Value.isMapping, Value.entries?_eq_some.mpr h]
  rfl

theorem map_snd_build (es : List (Scalar × N)) :
    (es.map fun e => (e.1, f e.2)).map (·.2) = (es.map (·.2)).map f := by
  rw [List.map_map, List.map_map]
  rfl

/-- The walk over a container that is entered gives the walk over its parts. -/
theorem visit_build_eq_ok (hwhole : whole.getD ((s.build f).close outer []) = v)
    (hopened : v.opened = s.build g) (hv : (Node.classify v).IsEntered)
    (h : visit root budget outer whole (s.build f) = .ok w) :
    ∃ ws, visitItems root (budget - 1) outer (s.parts.map f) = .ok ws := by
  cases s with
  | scalar s | members ks | pair k x =>
    rw [classify_of_opened hopened (fun _ => nofun) fun _ => nofun] at hv
    exact absurd hv Node.not_isEntered_scalar
  | sequence ns =>
    rw [Shape.build, visit] at h
    split at h
    · cases h
    · obtain ⟨ws, hws, -⟩ := Except.map_eq_ok.mp h
      exact ⟨ws, hws⟩
  | mapping es =>
    rw [Shape.build, visit] at h
    rw [Shape.build] at hwhole
    simp only [hwhole] at h
    rw [Node.classify_of_isEntered (isMapping_of_opened hopened) hv] at h
    simp only at h
    split at h
    · cases h
    · obtain ⟨fs, hfs, -⟩ := Except.map_eq_ok.mp h
      have hitems : List.Forall₂ (fun x y => visit root (budget - 1) outer none x = .ok y)
          ((es.map fun e => (e.1, f e.2)).map (·.2)) (fs.map (·.2)) := by
        rw [List.forall₂_map_left_iff, List.forall₂_map_right_iff]
        exact (visitEntries_eq_ok_iff.mp hfs).imp fun _ _ hef => hef.2
      rw [map_snd_build] at hitems
      exact ⟨_, visitItems_eq_ok_iff.mpr hitems⟩

/-- The walk over a container fails because it is too deep, because the container is replaced and
cannot be, or in its parts. -/
theorem visit_build_eq_error (hwhole : whole.getD ((s.build f).close outer []) = v)
    (hopened : v.opened = s.build g) (h : visit root budget outer whole (s.build f) = .error p) :
    (p = .failure .tooDeepToResolve ∧ budget < (s.build f).nesting) ∨ Raised root budget v p ∨
      (Node.classify v).IsEntered ∧ budget ≠ 0 ∧
        visitItems root (budget - 1) outer (s.parts.map f) = .error p := by
  cases s with
  | scalar s | members ks | pair k x => cases h
  | sequence ns =>
    rw [Shape.build, visit] at h
    split at h
    · rename_i hzero
      obtain rfl := Except.error.inj h
      refine .inl ⟨rfl, ?_⟩
      rw [Shape.build, Value.nesting]
      omega
    · rename_i hbudget
      refine .inr (.inr ⟨.inr (classify_of_opened_sequence hopened), hbudget, ?_⟩)
      exact Except.map_eq_error.mp h
  | mapping es =>
    rw [Shape.build, visit] at h
    rw [Shape.build] at hwhole
    simp only [hwhole] at h
    have hm := isMapping_of_opened hopened
    cases hclass : Node.classify v with
    | reference r =>
      rw [hclass] at h
      exact .inr (.inl (.reference hclass h))
    | parameter =>
      rw [hclass] at h
      exact .inr (.inl (.parameter hclass h))
    | sequence => cases (Node.classify_of_isEntered hm (.inr hclass)).symm.trans hclass
    | scalar => exact absurd hclass (Node.classify_ne_scalar hm)
    | mapping =>
      rw [hclass] at h
      simp only at h
      split at h
      · rename_i hzero
        obtain rfl := Except.error.inj h
        refine .inl ⟨rfl, ?_⟩
        rw [Shape.build, Value.nesting]
        omega
      · rename_i hbudget
        refine .inr (.inr ⟨.inl rfl, hbudget, ?_⟩)
        have hitems := visitEntries_eq_error_iff.mp (Except.map_eq_error.mp h)
        rwa [map_snd_build] at hitems

/-- Where the walk over a container gives a value, no way from it goes on forever, if this holds of
its parts. -/
theorem ends_of_visit_build (hwhole : whole.getD ((s.build f).close outer []) = v)
    (hopened : v.opened = s.build g)
    (hends : (Node.classify v).IsEntered → ∀ n ∈ s.parts, ∀ x,
      visit root (budget - 1) outer none (f n) = .ok x → Ends (g n))
    (h : visit root budget outer whole (s.build f) = .ok w) : Ends v := by
  refine ends_of_parts fun hv u hu => ?_
  obtain ⟨ws, hws⟩ := visit_build_eq_ok hwhole hopened hv h
  rw [visitItems_eq_ok_iff, List.forall₂_map_left_iff] at hws
  rw [Shape.parts_of_opened hopened] at hu
  obtain ⟨n, hn, rfl⟩ := List.mem_map.mp hu
  obtain ⟨x, -, hx⟩ := exists_of_forall₂ (List.Forall₂.flip hws) hn
  exact hends hv n hn x hx

/-- The walk over a container stops only for a reason, if this holds of its parts. -/
theorem stops_of_visit_build (hwhole : whole.getD ((s.build f).close outer []) = v)
    (hopened : v.opened = s.build g)
    (hends : (Node.classify v).IsEntered → ∀ n ∈ s.parts, ∀ x,
      visit root (budget - 1) outer none (f n) = .ok x → Ends (g n))
    (hstops : (Node.classify v).IsEntered → ∀ n ∈ s.parts, ∀ q,
      visit root (budget - 1) outer none (f n) = .error q →
        Stops root (budget - 1) (g n) (budget - 1 < (f n).nesting) q)
    (h : visit root budget outer whole (s.build f) = .error p) :
    Stops root budget v (budget < (s.build f).nesting) p := by
  rcases visit_build_eq_error hwhole hopened h with
    ⟨rfl, hdeep⟩ | hraised | ⟨hv, hbudget, hitems⟩
  · exact .tooDeep hdeep
  · exact .raised hraised
  · obtain ⟨before, x, after, hsplit, hbefore, hx⟩ := visitItems_eq_error_iff.mp hitems
    obtain ⟨bs, cs, hparts, rfl, hcs⟩ := List.map_eq_append_iff.mp hsplit
    obtain ⟨n, as, rfl, rfl, rfl⟩ := List.map_eq_cons_iff.mp hcs
    have hmem {m : N} (hm : m ∈ bs ++ n :: as) : m ∈ s.parts := by
      rw [hparts]
      exact hm
    have hn : n ∈ s.parts := hmem (by simp)
    have hdeep : budget - 1 < (f n).nesting → budget < (s.build f).nesting := by
      intro hdeep
      have hlt := nesting_lt_nesting_build (f := f) hn
      omega
    have hsplit' : v.parts = bs.map g ++ g n :: as.map g := by
      rw [Shape.parts_of_opened hopened, hparts, List.map_append, List.map_cons]
    obtain ⟨less, rfl⟩ := Nat.exists_eq_add_one_of_ne_zero hbudget
    -- the parts before this one gave values, so no way from them goes on forever
    refine (hstops hv n hn p hx).of_part hv hsplit' (fun u hu => ?_) hdeep
    obtain ⟨m, hm, rfl⟩ := List.mem_map.mp hu
    obtain ⟨z, hz⟩ := hbefore _ (List.mem_map_of_mem hm)
    exact (hends hv m (hmem (List.mem_append_left _ hm)) z hz).not_comesBack

end Build

end Document

end ClientGen
