import Mathlib.Data.List.Nodup
import Mathlib.Data.List.Perm.Subperm
import ClientGen.Proofs.Grouping
import ClientGen.Text.Alphabetical
import ClientGen.TypeScript.FreshName
import ClientGen.TypeScript.Identifier

/-!
# Identifiers and fresh names

An identifier for a name consists of ASCII letters, ASCII digits and underscores. A fresh name is
the first of its candidates that is not taken: among more distinct candidates than names are taken,
one has to be free.

## Main results

* `ClientGen.TypeScript.isWordChar_of_mem_typeName`, `ClientGen.TypeScript.typeName_ne_empty` : the
  characters of the name of a declaration or a module.
* `ClientGen.TypeScript.isWordChar_of_mem_pascalCase` : the characters of the words of a text.
* `ClientGen.TypeScript.exists_firstFree_eq` : the first free candidate.
* `ClientGen.TypeScript.wrapperName_not_mem` : the alias for responses has a name of its own.
-/

namespace ClientGen

/-- Names in alphabetical order are listed once. -/
theorem Text.nodup_alphabetical (names : List String) : (alphabetical names).Nodup :=
  (List.mergeSort_perm _ _).nodup_iff.mpr (Projection.nodup_eraseDups names)

namespace TypeScript

/-! ### Characters of identifiers -/

theorem isWordChar_of_mem_guardDigit {cs : List Char} (h : ∀ c ∈ cs, isWordChar c = true) :
    ∀ c ∈ guardDigit cs, isWordChar c = true := by
  unfold guardDigit
  split
  · split
    · exact List.forall_mem_cons.mpr ⟨rfl, h⟩
    · exact h
  · exact h

/-- An identifier for a name has letters, digits and underscores only. -/
theorem isWordChar_of_mem_functionName {name : String} :
    ∀ c ∈ (functionName name).toList, isWordChar c = true := by
  rw [functionName, String.toList_ofList, word]
  refine isWordChar_of_mem_guardDigit (List.forall_mem_map.mpr fun c _ => ?_)
  split
  · assumption
  · rfl

theorem isWordChar_of_mem_typeName {name : String} :
    ∀ c ∈ (typeName name).toList, isWordChar c = true := by
  unfold typeName
  split
  · exact List.all_eq_true.mp rfl
  · exact isWordChar_of_mem_functionName

theorem guardDigit_ne_nil {cs : List Char} (h : cs ≠ []) : guardDigit cs ≠ [] := by
  unfold guardDigit
  split
  · split <;> exact List.cons_ne_nil _ _
  · exact absurd rfl h

/-- The name of a declaration or a module is not empty. -/
theorem typeName_ne_empty (name : String) : typeName name ≠ "" := by
  unfold typeName
  split
  · decide
  · rename_i hname
    have hcs : name.toList ≠ [] := fun h => hname (by simpa using String.toList_eq_nil_iff.mp h)
    rw [functionName, Ne, String.ofList_eq_empty_iff, word]
    exact guardDigit_ne_nil (by simpa using hcs)

/-- A small letter becomes a capital, and everything else stays. -/
theorem isAlphanum_toUpper {c : Char} (h : c.isAlphanum = true) : c.toUpper.isAlphanum = true := by
  unfold Char.toUpper
  split
  · rename_i hc
    have hlower : 97 ≤ c.val.toNat ∧ c.val.toNat ≤ 122 := hc
    have hupper : (c.val + ('A'.val - 'a'.val)).toNat = c.val.toNat - 32 := by
      have hsub : ('A'.val - 'a'.val).toNat = 4294967264 := rfl
      rw [UInt32.toNat_add, hsub]
      omega
    have hrange : 65 ≤ (c.val + ('A'.val - 'a'.val)).toNat ∧
        (c.val + ('A'.val - 'a'.val)).toNat ≤ 90 := by omega
    exact Bool.or_eq_true_iff.mpr (.inl (Bool.or_eq_true_iff.mpr (.inl (decide_eq_true hrange))))
  · exact h

theorem isWordChar_of_mem_joinWords {start : Bool} {cs : List Char} :
    ∀ c ∈ joinWords start cs, isWordChar c = true := by
  induction cs generalizing start with
  | nil => exact List.forall_mem_nil _
  | cons c cs ih =>
    unfold joinWords
    split
    · rename_i hc
      refine List.forall_mem_cons.mpr ⟨?_, ih⟩
      have hword : (if start = true then c.toUpper else c).isAlphanum = true := by
        split
        · exact isAlphanum_toUpper hc
        · exact hc
      simp [isWordChar, hword]
    · exact ih

/-- The words of a text as one identifier have letters, digits and underscores only. -/
theorem isWordChar_of_mem_pascalCase {text : String} :
    ∀ c ∈ (pascalCase text).toList, isWordChar c = true := by
  simp only [pascalCase]
  split
  · exact List.all_eq_true.mp rfl
  · rw [String.toList_ofList]
    exact isWordChar_of_mem_guardDigit isWordChar_of_mem_joinWords

/-! ### Fresh names -/

section FirstFree

variable {candidate : Nat → String} (taken : List String)

/-- Among more distinct candidates than names are taken, one is free. -/
theorem exists_candidate_not_mem (hinj : Function.Injective candidate) :
    ∃ k < taken.length + 1, candidate k ∉ taken := by
  by_contra! hall
  have hnodup : ((List.range (taken.length + 1)).map candidate).Nodup :=
    (List.nodup_map_iff hinj).mpr List.nodup_range
  have hsubset : (List.range (taken.length + 1)).map candidate ⊆ taken := by
    intro s hs
    obtain ⟨k, hk, rfl⟩ := List.mem_map.mp hs
    exact hall k (List.mem_range.mp hk)
  have hlength := (List.subperm_of_subset hnodup hsubset).length_le
  rw [List.length_map, List.length_range] at hlength
  omega

/-- The first free candidate is free, and all candidates in front of it are taken. -/
theorem exists_firstFree_eq (hinj : Function.Injective candidate) :
    ∃ k, firstFree candidate taken = candidate k ∧ candidate k ∉ taken ∧
      ∀ j < k, candidate j ∈ taken := by
  unfold firstFree
  cases hfind : (List.range (taken.length + 1)).find? fun k => !taken.contains (candidate k) with
  | none =>
    obtain ⟨k, hk, hfree⟩ := exists_candidate_not_mem taken hinj
    have htaken := List.find?_eq_none.mp hfind k (List.mem_range.mpr hk)
    exact absurd (by simpa using htaken) hfree
  | some k =>
    obtain ⟨hfree, -, hfirst⟩ := List.find?_range_eq_some.mp hfind
    exact ⟨k, rfl, by simpa using hfree, fun j hj => by simpa using hfirst j hj⟩

end FirstFree

theorem wrapperCandidate_injective : Function.Injective wrapperCandidate := by
  intro j k h
  have hlength := congrArg String.length h
  simpa [wrapperCandidate] using hlength

/-- The alias for responses is no declared name: it is `ApiResponse` with underscores behind it. -/
theorem exists_wrapperName_eq (declared : List String) :
    ∃ k, wrapperName declared = wrapperCandidate k ∧ wrapperCandidate k ∉ declared := by
  obtain ⟨k, hk, hfree, -⟩ := exists_firstFree_eq declared wrapperCandidate_injective
  exact ⟨k, hk, hfree⟩

theorem isWordChar_of_mem_wrapperName {declared : List String} :
    ∀ c ∈ (wrapperName declared).toList, isWordChar c = true := by
  obtain ⟨k, hk, -⟩ := exists_wrapperName_eq declared
  rw [hk, wrapperCandidate, String.toList_append]
  refine List.forall_mem_append.mpr ⟨List.all_eq_true.mp rfl, fun c hc => ?_⟩
  rw [String.toList_ofList] at hc
  obtain rfl := (List.mem_replicate.mp hc).2
  rfl

theorem wrapperName_not_mem (declared : List String) : wrapperName declared ∉ declared := by
  obtain ⟨k, hk, hfree⟩ := exists_wrapperName_eq declared
  exact hk ▸ hfree

end TypeScript

end ClientGen
