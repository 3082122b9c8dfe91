import Mathlib.Data.List.Forall2
import ClientGen.Failure
import ClientGen.Value.Fields

/-!
# Outcomes of steps in turn

Steps that may fail are taken apart by what they give: a chain of steps gives a value exactly if
every step does, and fails with the problem of the first step that fails.

## Main results

* `ClientGen.Except.bind_eq_ok`, `ClientGen.Except.bind_eq_error` : two steps in turn.
* `ClientGen.Fault.lift_eq_ok`, `ClientGen.need_eq_ok` : the single steps of the tool.
* `ClientGen.mapM_eq_some_iff`, `ClientGen.mapM_eq_ok_iff`, `ClientGen.mapM_eq_error_iff` : one step
  for every item of a list.
* `ClientGen.exists_of_forall₂`, `ClientGen.forall₂_of_mem` : what every item of a list gives.
-/

namespace ClientGen

namespace Except

variable {ε α β : Type} {x : Except ε α} {f : α → Except ε β}

theorem bind_eq_ok {b : β} : (x >>= f) = .ok b ↔ ∃ a, x = .ok a ∧ f a = .ok b := by
  cases x <;> simp [bind, Except.bind]

theorem bind_eq_error {e : ε} :
    (x >>= f) = .error e ↔ x = .error e ∨ ∃ a, x = .ok a ∧ f a = .error e := by
  cases x <;> simp [bind, Except.bind]

theorem map_eq_ok {g : α → β} {b : β} : x.map g = .ok b ↔ ∃ a, x = .ok a ∧ g a = b := by
  cases x <;> simp [Except.map]

theorem map_eq_error {g : α → β} {e : ε} : x.map g = .error e ↔ x = .error e := by
  cases x <;> simp [Except.map]

/-- It can be evaluated whether a step gives a value with a property. -/
instance decidableExistsOkAnd (x : Except ε α) (p : α → Prop) [DecidablePred p] :
    Decidable (∃ a, x = .ok a ∧ p a) :=
  match x with
  | .ok a => decidable_of_iff (p a) ⟨fun h => ⟨a, rfl, h⟩, fun ⟨_, hb, h⟩ => Except.ok.inj hb ▸ h⟩
  | .error _ => isFalse fun ⟨_, hb, _⟩ => nomatch hb

instance decidableExistsOk (x : Except ε α) : Decidable (∃ a, x = .ok a) :=
  match x with
  | .ok a => isTrue ⟨a, rfl⟩
  | .error _ => isFalse fun ⟨_, hb⟩ => nomatch hb

theorem pure_eq_ok {a b : α} : (pure a : Except ε α) = .ok b ↔ a = b := by
  simp [pure, Except.pure]

theorem bind_pure_eq_error {g : α → β} {e : ε} :
    (x >>= fun a => pure (g a)) = .error e ↔ x = .error e := by
  cases x <;> simp [bind, Except.bind, pure, Except.pure]

theorem ok_bind {a : α} : (Except.ok a >>= f) = f a := rfl

theorem error_bind {e : ε} : (Except.error e >>= f) = .error e := rfl

end Except

theorem Fault.lift_eq_ok {α : Type} {x : Except Fault α} {a : α} :
    Fault.lift x = .ok a ↔ x = .ok a := by
  cases x <;> simp [Fault.lift]

theorem Fault.lift_eq_error {α : Type} {x : Except Fault α} {p : Problem} :
    Fault.lift x = .error p ↔ ∃ f, x = .error f ∧ p = .fault f := by
  cases x <;> simp [Fault.lift, eq_comm]

/-! ### Lists with related items -/

section Forall₂

variable {α β : Type} {R S : α → β → Prop} {xs : List α} {ys : List β}

theorem exists_of_forall₂ {y : β} (h : List.Forall₂ R xs ys) (hy : y ∈ ys) :
    ∃ x ∈ xs, R x y := by
  induction h with
  | nil => cases hy
  | cons hxy _ ih =>
    rcases List.mem_cons.mp hy with rfl | hy
    · exact ⟨_, List.mem_cons_self, hxy⟩
    · obtain ⟨x, hx, hxy⟩ := ih hy
      exact ⟨x, List.mem_cons_of_mem _ hx, hxy⟩

theorem forall₂_of_mem (h : List.Forall₂ R xs ys) (himp : ∀ x ∈ xs, ∀ y, R x y → S x y) :
    List.Forall₂ S xs ys := by
  induction h with
  | nil => exact .nil
  | cons hxy _ ih =>
    exact .cons (himp _ List.mem_cons_self _ hxy)
      (ih fun x hx => himp x (List.mem_cons_of_mem _ hx))

/-- Related items that have something in between are related to a list of what is in between. -/
theorem exists_forall₂_comp {γ : Type} {T : α → γ → Prop} {U : γ → β → Prop}
    (h : List.Forall₂ R xs ys) (hR : ∀ x y, R x y → ∃ z, T x z ∧ U z y) :
    ∃ zs, List.Forall₂ T xs zs ∧ List.Forall₂ U zs ys := by
  induction h with
  | nil => exact ⟨[], .nil, .nil⟩
  | cons hxy _ ih =>
    obtain ⟨z, hxz, hzy⟩ := hR _ _ hxy
    obtain ⟨zs, hxs, hys⟩ := ih
    exact ⟨z :: zs, .cons hxz hxs, .cons hzy hys⟩

/-- Items that are related to some of the second items come from the pairs with these. -/
theorem forall₂_zip_filter {γ : Type} {T : β → γ → Prop} {p : β → Bool} {zs : List γ}
    (h : List.Forall₂ R xs ys) (hzs : List.Forall₂ T (ys.filter p) zs) :
    List.Forall₂ (fun xy z => R xy.1 xy.2 ∧ T xy.2 z) ((xs.zip ys).filter fun xy => p xy.2) zs := by
  induction h generalizing zs with
  | nil =>
    obtain rfl := List.forall₂_nil_left_iff.mp hzs
    exact .nil
  | @cons x y xs ys hxy _ ih =>
    rw [List.zip_cons_cons]
    cases hp : p y with
    | false =>
      rw [List.filter_cons_of_neg (by simp [hp])] at hzs ⊢
      exact ih hzs
    | true =>
      rw [List.filter_cons_of_pos (by simp [hp])] at hzs ⊢
      obtain ⟨z, zs, hz, htail, rfl⟩ := List.forall₂_cons_left_iff.mp hzs
      exact .cons ⟨hxy, hz⟩ (ih htail)

end Forall₂

/-! ### Steps for every item -/

theorem mapM_eq_some_iff {α β : Type} {f : α → Option β} {xs : List α} {ys : List β} :
    xs.mapM f = some ys ↔ List.Forall₂ (fun x y => f x = some y) xs ys := by
  induction xs generalizing ys with
  | nil => simp [eq_comm]
  | cons x xs ih =>
    simp only [List.mapM_cons, Option.bind_eq_bind, Option.bind_eq_some_iff, ih, Option.pure_def,
      Option.some.injEq, List.forall₂_cons_left_iff]
    constructor
    · rintro ⟨y, hy, zs, hzs, rfl⟩
      exact ⟨y, zs, hy, hzs, rfl⟩
    · rintro ⟨y, zs, hy, hzs, rfl⟩
      exact ⟨y, hy, zs, hzs, rfl⟩

/-- One step for every item gives values exactly if every single one does. -/
theorem exists_mapM_eq_some_iff {α β : Type} {f : α → Option β} {xs : List α} :
    (∃ ys, xs.mapM f = some ys) ↔ ∀ x ∈ xs, ∃ y, f x = some y := by
  simp only [mapM_eq_some_iff]
  constructor
  · rintro ⟨ys, hys⟩ x hx
    obtain ⟨y, -, hy⟩ := exists_of_forall₂ (List.Forall₂.flip hys) hx
    exact ⟨y, hy⟩
  · intro h
    induction xs with
    | nil => exact ⟨[], .nil⟩
    | cons x xs ih =>
      obtain ⟨⟨y, hy⟩, hxs⟩ := List.forall_mem_cons.mp h
      obtain ⟨ys, hys⟩ := ih hxs
      exact ⟨y :: ys, .cons hy hys⟩

theorem mapM_eq_ok_iff {α β ε : Type} {f : α → Except ε β} {xs : List α} {ys : List β} :
    xs.mapM f = .ok ys ↔ List.Forall₂ (fun x y => f x = .ok y) xs ys := by
  induction xs generalizing ys with
  | nil => rw [List.mapM_nil, Except.pure_eq_ok, List.forall₂_nil_left_iff, eq_comm]
  | cons x xs ih =>
    simp only [List.mapM_cons, Except.bind_eq_ok, ih, Except.pure_eq_ok,
      List.forall₂_cons_left_iff]
    constructor
    · rintro ⟨y, hy, zs, hzs, rfl⟩
      exact ⟨y, zs, hy, hzs, rfl⟩
    · rintro ⟨y, zs, hy, hzs, rfl⟩
      exact ⟨y, hy, zs, hzs, rfl⟩

theorem exists_mapM_eq_ok {α β ε : Type} {f : α → Except ε β} {xs : List α}
    (h : ∀ x ∈ xs, ∃ y, f x = .ok y) : ∃ ys, xs.mapM f = .ok ys := by
  induction xs with
  | nil => exact ⟨[], rfl⟩
  | cons x xs ih =>
    obtain ⟨⟨y, hy⟩, hxs⟩ := List.forall_mem_cons.mp h
    obtain ⟨ys, hys⟩ := ih hxs
    refine ⟨y :: ys, ?_⟩
    rw [List.mapM_cons, hy, hys]
    rfl

/-- One step for every item fails where the step for an item does, and the steps for the items in
front of it do not. -/
theorem mapM_eq_error_iff {α β ε : Type} {f : α → Except ε β} {xs : List α} {e : ε} :
    xs.mapM f = .error e ↔ ∃ before x after, xs = before ++ x :: after ∧
      (∀ u ∈ before, ∃ y, f u = .ok y) ∧ f x = .error e := by
  induction xs with
  | nil => simp [pure, Except.pure]
  | cons x xs ih =>
    rw [List.mapM_cons]
    constructor
    · intro h
      rcases Except.bind_eq_error.mp h with h | ⟨y, hy, h⟩
      · exact ⟨[], x, xs, rfl, List.forall_mem_nil _, h⟩
      · rcases Except.bind_eq_error.mp h with h | ⟨ys, -, h⟩
        · obtain ⟨before, z, after, rfl, hbefore, hz⟩ := ih.mp h
          exact ⟨x :: before, z, after, rfl, List.forall_mem_cons.mpr ⟨⟨y, hy⟩, hbefore⟩, hz⟩
        · cases h
    · rintro ⟨before, z, after, hxs, hbefore, hz⟩
      cases before with
      | nil =>
        obtain ⟨rfl, -⟩ := List.cons.inj hxs
        exact Except.bind_eq_error.mpr (.inl hz)
      | cons b before =>
        obtain ⟨rfl, rfl⟩ := List.cons.inj hxs
        obtain ⟨⟨y, hy⟩, hbefore⟩ := List.forall_mem_cons.mp hbefore
        have htail := ih.mpr ⟨before, z, after, rfl, hbefore, hz⟩
        exact Except.bind_eq_error.mpr (.inr ⟨y, hy, Except.bind_eq_error.mpr (.inl htail)⟩)

/-- If a step fails in one way only, steps for items fail if one of them does. -/
theorem mapM_eq_error_iff_exists {α β ε : Type} {f : α → Except ε β} {xs : List α} {g : ε}
    {p : α → Prop} (hf : ∀ x e, f x = .error e ↔ e = g ∧ p x) {e : ε} :
    xs.mapM f = .error e ↔ e = g ∧ ∃ x ∈ xs, p x := by
  constructor
  · intro h
    obtain ⟨before, x, after, rfl, -, hx⟩ := mapM_eq_error_iff.mp h
    obtain ⟨rfl, hp⟩ := (hf x e).mp hx
    exact ⟨rfl, x, by simp, hp⟩
  · rintro ⟨rfl, x, hx, hp⟩
    cases hmap : xs.mapM f with
    | ok ys =>
      obtain ⟨y, -, hy⟩ := exists_of_forall₂ (mapM_eq_ok_iff.mp hmap).flip hx
      cases ((hf x e).mpr ⟨rfl, hp⟩).symm.trans hy
    | error e' =>
      obtain ⟨before, y, after, -, -, hy⟩ := mapM_eq_error_iff.mp hmap
      rw [((hf y e').mp hy).1]

/-- Steps in turn fail with the first one that fails, from what the steps in front of it give. -/
theorem foldlM_eq_error_iff {α β ε : Type} {f : β → α → Except ε β} {xs : List α} {b : β} {e : ε} :
    xs.foldlM f b = .error e ↔ ∃ before x after c, xs = before ++ x :: after ∧
      before.foldlM f b = .ok c ∧ f c x = .error e := by
  induction xs generalizing b with
  | nil => simp [pure, Except.pure]
  | cons x xs ih =>
    rw [List.foldlM_cons, Except.bind_eq_error]
    constructor
    · rintro (h | ⟨c, hc, h⟩)
      · exact ⟨[], x, xs, b, rfl, rfl, h⟩
      · obtain ⟨before, y, after, last, rfl, hlast, h⟩ := ih.mp h
        exact ⟨x :: before, y, after, last, rfl, Except.bind_eq_ok.mpr ⟨c, hc, hlast⟩, h⟩
    · rintro ⟨before, y, after, last, hxs, hlast, h⟩
      cases before with
      | nil =>
        obtain ⟨rfl, -⟩ := List.cons.inj hxs
        obtain rfl := Except.pure_eq_ok.mp hlast
        exact .inl h
      | cons z before =>
        obtain ⟨rfl, rfl⟩ := List.cons.inj hxs
        obtain ⟨c, hc, hlast⟩ := Except.bind_eq_ok.mp hlast
        exact .inr ⟨c, hc, ih.mpr ⟨before, y, after, last, rfl, hlast, h⟩⟩

theorem exists_foldlM_eq_ok {α β ε : Type} {f : β → α → Except ε β} {xs : List α}
    (h : ∀ x ∈ xs, ∀ b, ∃ c, f b x = .ok c) (b : β) : ∃ c, xs.foldlM f b = .ok c := by
  induction xs generalizing b with
  | nil => exact ⟨b, rfl⟩
  | cons x xs ih =>
    obtain ⟨hx, hxs⟩ := List.forall_mem_cons.mp h
    obtain ⟨c, hc⟩ := hx b
    obtain ⟨last, hlast⟩ := ih hxs c
    refine ⟨last, ?_⟩
    rw [List.foldlM_cons, hc]
    exact hlast

theorem need_eq_ok {α : Type} {x : Option α} {a : α} : need x = .ok a ↔ x = some a := by
  cases x <;> simp [need]

theorem need_eq_error {α : Type} {x : Option α} {f : Fault} :
    need x = .error f ↔ x = none ∧ f = .shapeMismatch := by
  cases x <;> simp [need, eq_comm]

end ClientGen
