import Mathlib.Logic.Function.Iterate
import Mathlib.Order.Bounds.Basic
import ClientGen.Proofs.TypeScript.Arguments

/-!
# Searches for free names

A fresh name is what a search comes to that looks at one name after the other and goes on as long
as the name is taken. Nothing bounds such a search but that the names it looks at are distinct and
only so many names are taken: it ends, and in front of its end every name is taken.

## Main definitions

* `ClientGen.TypeScript.Search` : a search, from where it starts to where it ends.

## Main results

* `ClientGen.TypeScript.search_iff` : where a search ends.
* `ClientGen.TypeScript.search_add_one_iff`, `ClientGen.TypeScript.search_underscore_iff` : the
  search for the least number, and for the least number of underscores.
* `ClientGen.TypeScript.isLeast_of_freshVariable_and_wrapperName` : fresh names.
-/

namespace ClientGen.TypeScript

/-! ### Searches -/

section Search

variable {σ : Type} {name : σ → String} {next : σ → σ} {taken : List String} {s t : σ}

/-- A search for a free name starts at `s` and ends at `t`. As long as the name of a state is taken,
it goes on to the next state. -/
inductive Search (name : σ → String) (next : σ → σ) (taken : List String) : σ → σ → Prop
  /-- The name is free, and the search ends. -/
  | free {s : σ} (h : name s ∉ taken) : Search name next taken s s
  /-- The name is taken, and the search goes on. -/
  | taken {s t : σ} (h : name s ∈ taken) (hrest : Search name next taken (next s) t) :
    Search name next taken s t

/-- A search ends at the first state whose name is free. -/
theorem search_iff : Search name next taken s t ↔
    ∃ n, t = next^[n] s ∧ name (next^[n] s) ∉ taken ∧ ∀ m < n, name (next^[m] s) ∈ taken := by
  constructor
  · intro h
    induction h with
    | free h => exact ⟨0, rfl, h, nofun⟩
    | taken h _ ih =>
      obtain ⟨n, rfl, hfree, hbefore⟩ := ih
      refine ⟨n + 1, rfl, hfree, fun m hm => ?_⟩
      cases m with
      | zero => exact h
      | succ m => exact hbefore m (Nat.lt_of_succ_lt_succ hm)
  · rintro ⟨n, rfl, hfree, hbefore⟩
    induction n generalizing s with
    | zero => exact .free hfree
    | succ n ih =>
      have hstart : name s ∈ taken := hbefore 0 n.succ_pos
      exact .taken hstart (ih hfree fun m hm => hbefore (m + 1) (Nat.succ_lt_succ hm))

end Search

variable {taken : List String} {a : Nat}

/-- A search through the numbers ends at the least one whose name is free. -/
theorem search_add_one_iff {name : Nat → String} {k : Nat} :
    Search name (· + 1) taken a k ↔ IsLeast {k | a ≤ k ∧ name k ∉ taken} k := by
  have hstate (n : Nat) : (· + 1)^[n] a = a + n := by
    induction n with
    | zero => rfl
    | succ n ih => rw [Function.iterate_succ_apply', ih, Nat.add_assoc]
  simp only [search_iff, hstate]
  constructor
  · rintro ⟨n, rfl, hfree, hbefore⟩
    refine ⟨⟨Nat.le_add_right a n, hfree⟩, ?_⟩
    rintro j ⟨hj, hjfree⟩
    by_contra hlt
    have htaken := hbefore (j - a) (by omega)
    rw [Nat.add_sub_cancel' hj] at htaken
    exact hjfree htaken
  · rintro ⟨⟨hle, hfree⟩, hleast⟩
    refine ⟨k - a, by omega, by rwa [Nat.add_sub_cancel' hle], fun m hm => ?_⟩
    by_contra hfree'
    have hkm : k ≤ a + m := hleast ⟨Nat.le_add_right a m, hfree'⟩
    omega

theorem wrapperCandidate_succ (n : Nat) : wrapperCandidate (n + 1) = wrapperCandidate n ++ "_" := by
  simp [wrapperCandidate, List.replicate_succ', String.append_assoc]

/-- A search through names with more and more underscores ends at the least number of them that
makes the name free. -/
theorem search_underscore_iff {name : String} :
    Search id (· ++ "_") taken "ApiResponse" name ↔
      ∃ n, IsLeast {n | wrapperCandidate n ∉ taken} n ∧ name = wrapperCandidate n := by
  have hstate (n : Nat) : (· ++ "_")^[n] "ApiResponse" = wrapperCandidate n := by
    induction n with
    | zero => rfl
    | succ n ih => rw [Function.iterate_succ_apply', ih, wrapperCandidate_succ]
  simp only [search_iff, hstate, id]
  refine exists_congr fun n => ?_
  constructor
  · rintro ⟨rfl, hfree, hbefore⟩
    exact ⟨⟨hfree, fun m hm => not_lt.mp fun hlt => hm (hbefore m hlt)⟩, rfl⟩
  · rintro ⟨⟨hfree, hleast⟩, rfl⟩
    exact ⟨rfl, hfree, fun m hm => by_contra fun hm' => absurd (hleast hm') (not_le.mpr hm)⟩

/-! ### Fresh names -/

/-- The number that a fresh variable gets is the least one from two on that makes it free. -/
theorem exists_isLeast_freshVariable {base : String} (h : base ∈ taken) :
    ∃ k, IsLeast {k | 2 ≤ k ∧ base ++ "_" ++ toString k ∉ taken} k ∧
      freshVariable base taken = base ++ "_" ++ toString k := by
  obtain ⟨k, hk, hfree, hbefore⟩ := exists_firstFree_eq taken (numbered_injective base)
  cases k with
  | zero => exact absurd h hfree
  | succ k =>
    refine ⟨k + 2, ⟨⟨Nat.le_add_left 2 k, hfree⟩, ?_⟩, hk⟩
    rintro j ⟨hj, hjfree⟩
    by_contra hlt
    -- The candidate at `j - 1` is the one with the number `j`.
    obtain ⟨i, rfl⟩ := Nat.exists_eq_add_of_le' hj
    exact hjfree (hbefore (i + 1) (by omega))

/-- The alias for responses gets as few underscores as make it free. -/
theorem exists_isLeast_wrapperName (declared : List String) :
    ∃ n, IsLeast {n | wrapperCandidate n ∉ declared} n ∧
      wrapperName declared = wrapperCandidate n := by
  obtain ⟨n, hn, hfree, hbefore⟩ := exists_firstFree_eq declared wrapperCandidate_injective
  exact ⟨n, ⟨hfree, fun m hm => not_lt.mp fun hlt => hm (hbefore m hlt)⟩, hn⟩

/-- **Fresh names.** A fresh variable is the name itself if that is free, and otherwise the name
with the least number from two on that makes it free, where the search through these numbers ends.
The alias for responses is `ApiResponse` with the least number of underscores that makes it free,
where the search that adds one underscore after the other ends. -/
theorem isLeast_of_freshVariable_and_wrapperName (base : String) (taken declared : List String) :
    (freshVariable base taken ∉ taken ∧
      (base ∉ taken → freshVariable base taken = base) ∧
      (base ∈ taken → ∃ k, IsLeast {k | 2 ≤ k ∧ base ++ "_" ++ toString k ∉ taken} k ∧
        freshVariable base taken = base ++ "_" ++ toString k ∧
        ∀ j, Search (fun k => base ++ "_" ++ toString k) (· + 1) taken 2 j ↔ j = k)) ∧
    wrapperName declared ∉ declared ∧
    (∃ n, IsLeast {n | "ApiResponse" ++ String.ofList (List.replicate n '_') ∉ declared} n ∧
      wrapperName declared = "ApiResponse" ++ String.ofList (List.replicate n '_')) ∧
    ∀ name, Search id (· ++ "_") declared "ApiResponse" name ↔ name = wrapperName declared := by
  refine ⟨⟨freshVariable_not_mem base taken, fun h => ?_, fun h => ?_⟩,
    wrapperName_not_mem declared, exists_isLeast_wrapperName declared, fun name => ?_⟩
  · obtain ⟨k, hk, -, hbefore⟩ := exists_firstFree_eq taken (numbered_injective base)
    cases k with
    | zero => exact hk
    | succ k => exact absurd (hbefore 0 k.succ_pos) h
  · obtain ⟨k, hleast, hk⟩ := exists_isLeast_freshVariable h
    refine ⟨k, hleast, hk, fun j => ?_⟩
    rw [search_add_one_iff, hleast.isLeast_iff_eq, eq_comm]
  · obtain ⟨n, hleast, hn⟩ := exists_isLeast_wrapperName declared
    simp only [search_underscore_iff, hleast.isLeast_iff_eq, exists_eq_left', hn]

end ClientGen.TypeScript
