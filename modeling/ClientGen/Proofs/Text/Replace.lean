import ClientGen.Text.Replace

/-!
# Replacing the parts of a text

A part that is replaced wherever it occurs is replaced where it stands at the start, and a character
that starts no occurrence stays. For a part of one character this is a matter of single characters.

## Main results

* `ClientGen.Text.replaceAll_append_self`,
  `ClientGen.Text.replaceAll_cons_of_not_isPrefix` : the two cases at the start of a text.
* `ClientGen.Text.replaceAll_singleton` : replacing a character.
* `ClientGen.Text.mem_of_mem_replaceAll` : no other characters come in.
-/

namespace ClientGen.Text

variable {old new cs ds : List Char} {a c : Char}

/-- What belongs to an occurrence is passed over. -/
theorem replaceFrom_append (old new ds : List Char) :
    (cs : List Char) → replaceFrom old new cs.length (cs ++ ds) = replaceAll old new ds
  | [] => rfl
  | c :: cs => by
    rw [List.cons_append, List.length_cons, replaceFrom]
    exact replaceFrom_append old new ds cs

/-- A part at the start is replaced. -/
theorem replaceAll_append_self (h : old ≠ []) (new ds : List Char) :
    replaceAll old new (old ++ ds) = new ++ replaceAll old new ds := by
  obtain ⟨c, cs, rfl⟩ := List.exists_cons_of_ne_nil h
  have hstart : (c :: cs).isPrefixOf (c :: (cs ++ ds)) = true :=
    List.isPrefixOf_iff_prefix.mpr (List.prefix_append (c :: cs) ds)
  rw [List.cons_append, replaceAll, replaceFrom]
  simp only [hstart, if_true, List.length_cons, Nat.add_sub_cancel, replaceFrom_append]

/-- A character that starts no occurrence stays. -/
theorem replaceAll_cons_of_not_isPrefix (h : ¬ old <+: c :: cs) :
    replaceAll old new (c :: cs) = c :: replaceAll old new cs := by
  have hstart : old.isPrefixOf (c :: cs) = false :=
    Bool.eq_false_iff.mpr fun hold => h (List.isPrefixOf_iff_prefix.mp hold)
  rw [replaceAll, replaceFrom]
  simp only [hstart, Bool.false_eq_true, if_false]
  rfl

/-- Where nothing starts like the part, nothing is replaced. -/
theorem replaceAll_append_of_forall_ne (h : ∀ c ∈ cs, c ≠ a) (new ds : List Char) :
    replaceAll (a :: old) new (cs ++ ds) = cs ++ replaceAll (a :: old) new ds := by
  induction cs with
  | nil => rfl
  | cons c cs ih =>
    obtain ⟨hc, hcs⟩ := List.forall_mem_cons.mp h
    have hstart : ¬ a :: old <+: c :: (cs ++ ds) := fun hold =>
      hc (List.cons_prefix_cons.mp hold).1.symm
    rw [List.cons_append, replaceAll_cons_of_not_isPrefix hstart, ih hcs, List.cons_append]

/-- Replacing a character works on one character after the other. -/
theorem replaceAll_singleton (a : Char) (new cs : List Char) :
    replaceAll [a] new cs = cs.flatMap fun c => if c = a then new else [c] := by
  induction cs with
  | nil => rfl
  | cons c cs ih =>
    rw [List.flatMap_cons]
    by_cases hc : c = a
    · rw [hc, if_pos rfl, ← ih]
      exact replaceAll_append_self (List.cons_ne_nil a []) new cs
    · have hstart : ¬ [a] <+: c :: cs := fun hold => hc (List.cons_prefix_cons.mp hold).1.symm
      rw [if_neg hc, replaceAll_cons_of_not_isPrefix hstart, ih, List.singleton_append]

/-- A text without a character stays if that character is replaced. -/
theorem replaceAll_singleton_of_not_mem (h : a ∉ cs) (new : List Char) :
    replaceAll [a] new cs = cs := by
  have hne : ∀ c ∈ cs, c ≠ a := fun c hc heq => h (heq ▸ hc)
  simpa [replaceAll, replaceFrom] using replaceAll_append_of_forall_ne hne new []

/-- Replacing brings in no characters but those of the new part. -/
theorem mem_of_mem_replaceAll (h : c ∈ replaceAll old new cs) : c ∈ new ∨ c ∈ cs := by
  have hfrom : ∀ (passed : Nat) (ds : List Char), c ∈ replaceFrom old new passed ds →
      c ∈ new ∨ c ∈ ds := by
    intro passed ds
    induction ds generalizing passed with
    | nil => exact nofun
    | cons d ds ih =>
      intro hc
      have htail : ∀ k, c ∈ replaceFrom old new k ds → c ∈ new ∨ c ∈ d :: ds := fun k hk =>
        (ih k hk).imp_right (List.mem_cons_of_mem d)
      unfold replaceFrom at hc
      split at hc
      · exact htail _ hc
      · split at hc
        · rcases List.mem_append.mp hc with hnew | htl
          · exact .inl hnew
          · exact htail _ htl
        · rcases List.mem_cons.mp hc with rfl | htl
          · exact .inr List.mem_cons_self
          · exact htail _ htl
  exact hfrom 0 cs h

end ClientGen.Text
