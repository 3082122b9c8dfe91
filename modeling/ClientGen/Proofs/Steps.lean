import ClientGen.Proofs.Outcome
import ClientGen.World.Basic

/-!
# Steps of a run

A step of a run sees the world that the steps before it leave. Steps in turn give a value exactly if
every one does, and stop with the problem of the first one that stops.

## Main definitions

* `ClientGen.Action.Compositional` : properties that run through steps in turn.
* `ClientGen.Action.FailsOnly` : every failure of a step is one of some failures.
* `ClientGen.Action.KeepsRest` : a step changes nothing but the files.

## Main results

* `ClientGen.Action.bind_eq_ok`, `ClientGen.Action.bind_eq_error` : two steps in turn.
* `ClientGen.Action.compositional_failsOnly`, `ClientGen.Action.compositional_keepsRest` : the two
  properties run through steps in turn.
-/

namespace ClientGen.Action

variable {α β : Type} {x : Action α} {f : α → Action β} {p : Problem} {w w' : World}

/-! ### Two steps in turn -/

theorem bind_eq_ok {b : β} :
    (x >>= f) w = .ok b w' ↔ ∃ a v, x w = .ok a v ∧ f a v = .ok b w' := by
  change EStateM.bind x f w = _ ↔ _
  unfold EStateM.bind
  cases x w <;> simp

theorem bind_eq_error : (x >>= f) w = .error p w' ↔
    x w = .error p w' ∨ ∃ a v, x w = .ok a v ∧ f a v = .error p w' := by
  change EStateM.bind x f w = _ ↔ _
  unfold EStateM.bind
  cases x w <;> simp

theorem bind_of_ok {a : α} (h : x w = .ok a w') : (x >>= f) w = f a w' := by
  change EStateM.bind x f w = _
  rw [EStateM.bind, h]

theorem bind_of_error (h : x w = .error p w') : (x >>= f) w = .error p w' := by
  change EStateM.bind x f w = _
  rw [EStateM.bind, h]

/-! ### Steps that a problem stops -/

theorem tryCatch_of_ok {a : α} {g : Problem → Action α} (h : x w = .ok a w') :
    tryCatch x g w = .ok a w' := by
  change EStateM.tryCatch x g w = _
  delta EStateM.tryCatch
  rw [h]

theorem tryCatch_of_error {g : Problem → Action α} (h : x w = .error p w') :
    tryCatch x g w = g p w' := by
  change EStateM.tryCatch x g w = _
  delta EStateM.tryCatch
  rw [h]
  rfl

/-! ### Single steps -/

theorem pure_eq_ok {a b : α} : (pure a : Action α) w = .ok b w' ↔ a = b ∧ w = w' := by
  change EStateM.pure a w = _ ↔ _
  simp [EStateM.pure]

theorem see_bind {g : World → α} : (see g >>= f) w = f (g w) w := rfl

theorem fail_eq_error {g : Failure} :
    (fail g : Action α) w = .error p w' ↔ p = .failure g ∧ w = w' := by
  change EStateM.Result.error (Problem.failure g) w = _ ↔ _
  rw [EStateM.Result.error.injEq, eq_comm]

theorem ofExcept_eq_ok {y : Except Problem α} {a : α} :
    ofExcept y w = .ok a w' ↔ y = .ok a ∧ w = w' := by
  cases y <;> simp [ofExcept]

theorem ofExcept_eq_error {y : Except Problem α} :
    ofExcept y w = .error p w' ↔ y = .error p ∧ w = w' := by
  cases y <;> simp [ofExcept]

theorem ofFault_eq_ok {y : Except Fault α} {a : α} :
    ofFault y w = .ok a w' ↔ y = .ok a ∧ w = w' := by
  rw [ofFault, ofExcept_eq_ok, Fault.lift_eq_ok]

theorem ofFault_eq_error {y : Except Fault α} :
    ofFault y w = .error p w' ↔ (∃ g, y = .error g ∧ p = .fault g) ∧ w = w' := by
  rw [ofFault, ofExcept_eq_error, Fault.lift_eq_error]

/-- It can be evaluated whether a step gives a value and leaves a world with a property. -/
instance decidableExistsOkAnd [DecidableEq α] (x : Action α) (w : World) (a : α)
    (P : World → Prop) [DecidablePred P] : Decidable (∃ w', x w = .ok a w' ∧ P w') :=
  match x w with
  | .ok b v => decidable_of_iff (b = a ∧ P v)
      ⟨fun ⟨h, hv⟩ => ⟨v, by rw [h], hv⟩, fun ⟨_, h, hv⟩ => by cases h; exact ⟨rfl, hv⟩⟩
  | .error _ _ => isFalse nofun

/-- It can be evaluated whether a step gives a value and leaves a world that are related. -/
instance decidableExistsExistsOkAnd (x : Action α) (w : World) (P : α → World → Prop)
    [∀ a v, Decidable (P a v)] : Decidable (∃ a w', x w = .ok a w' ∧ P a w') :=
  match x w with
  | .ok b v => decidable_of_iff (P b v)
      ⟨fun h => ⟨b, v, rfl, h⟩, fun ⟨_, _, h, hv⟩ => by cases h; exact hv⟩
  | .error _ _ => isFalse nofun

/-- It can be evaluated whether a step stops with a problem. -/
instance decidableExistsError (x : Action α) (w : World) (p : Problem) :
    Decidable (∃ w', x w = .error p w') :=
  match x w with
  | .ok _ _ => isFalse nofun
  | .error q v => decidable_of_iff (q = p)
      ⟨fun h => ⟨v, by rw [h]⟩, fun ⟨_, h⟩ => by cases h; rfl⟩

/-! ### Properties of steps -/

/-- A property that steps in turn have if each of them has it. -/
structure Compositional (P : ∀ {α : Type}, Action α → Prop) : Prop where
  /-- Two steps in turn. -/
  bind : ∀ {α β : Type} {x : Action α} {f : α → Action β}, P x → (∀ a, P (f a)) → P (x >>= f)
  /-- No step. -/
  pure : ∀ {α : Type} (a : α), P (Pure.pure a : Action α)
  /-- A look at the world. -/
  see : ∀ {α : Type} (g : World → α), P (see g)
  /-- A result, or a fault. -/
  ofFault : ∀ {α : Type} (y : Except Fault α), P (ofFault y)
  /-- An operation on the files. -/
  onFiles : ∀ {α : Type} (y : FileAction α), P (onFiles y)

/-- Every failure of the step is one of the given ones. -/
def FailsOnly (P : Failure → Prop) (x : Action α) : Prop :=
  ∀ w g w', x w = .error (.failure g) w' → P g

namespace FailsOnly

variable {P : Failure → Prop}

theorem bind (hx : FailsOnly P x) (hf : ∀ a, FailsOnly P (f a)) : FailsOnly P (x >>= f) := by
  intro w g w' h
  rcases bind_eq_error.mp h with h | ⟨a, v, -, h⟩
  · exact hx w g w' h
  · exact hf a v g w' h

theorem pure (a : α) : FailsOnly P (Pure.pure a : Action α) := fun _ _ _ => nofun

theorem see (g : World → α) : FailsOnly P (see g) := fun _ _ _ => nofun

theorem fail {g : Failure} (hg : P g) : FailsOnly P (fail g : Action α) := by
  intro w g' w' h
  obtain ⟨⟨⟩, -⟩ := fail_eq_error.mp h
  exact hg

theorem ofFault (y : Except Fault α) : FailsOnly P (ofFault y) := by
  intro w g w' h
  obtain ⟨⟨f, -, hf⟩, -⟩ := ofFault_eq_error.mp h
  cases hf

theorem onFiles (y : FileAction α) : FailsOnly P (onFiles y) := by
  refine .bind (fun w g w' h => ?_) .ofFault
  unfold attempt at h
  split at h <;> cases h

end FailsOnly

theorem compositional_failsOnly (P : Failure → Prop) : Compositional (FailsOnly P) where
  bind := .bind
  pure := .pure
  see := .see
  ofFault := .ofFault
  onFiles := .onFiles

/-- The step changes nothing but the files. -/
def KeepsRest (x : Action α) : Prop := ∀ w a w', x w = .ok a w' → w' = { w with files := w'.files }

theorem compositional_keepsRest : Compositional KeepsRest where
  bind hx hf := by
    intro w b w' h
    obtain ⟨a, v, hv, h⟩ := bind_eq_ok.mp h
    rw [hf a v b w' h, hx w a v hv]
  pure a := by
    rintro w b w' ⟨⟩
    rfl
  see g := by
    rintro w b w' ⟨⟩
    rfl
  ofFault y := by
    intro w b w' h
    obtain ⟨-, rfl⟩ := ofFault_eq_ok.mp h
    rfl
  onFiles y := by
    intro w b w' h
    obtain ⟨z, v, hv, h⟩ := bind_eq_ok.mp h
    obtain ⟨-, rfl⟩ := ofFault_eq_ok.mp h
    unfold attempt at hv
    split at hv <;> cases hv <;> rfl

end ClientGen.Action
