import Mathlib.Tactic.Common
import ClientGen.Value.Display

/-!
# Texts of values are not empty

The literal form of a value always has a first character: a word, a digit, a quote or a bracket.
So the display form of a value is empty for the empty text only.

## Main results

* `ClientGen.Value.literal_ne_empty` : the literal form is not empty.
* `ClientGen.Value.display_ne_empty` : nor is the display form of a value that counts as present.
-/

namespace ClientGen

theorem append_ne_empty_left {s : String} (hs : s ≠ "") (t : String) : s ++ t ≠ "" :=
  fun h => hs (String.append_eq_empty_iff.mp h).1

theorem append_ne_empty_right (s : String) {t : String} (ht : t ≠ "") : s ++ t ≠ "" :=
  fun h => ht (String.append_eq_empty_iff.mp h).2

theorem ofList_ne_empty {cs : List Char} (hcs : cs ≠ []) : String.ofList cs ≠ "" :=
  fun h => hcs (String.ofList_eq_empty_iff.mp h)

namespace Decimal

theorem Digits.inPlace_ne_nil (d : Digits) : d.inPlace ≠ [] := by
  unfold Digits.inPlace
  split
  · exact List.cons_ne_nil _ _
  · dsimp only
    split
    · exact List.append_ne_nil_of_right_ne_nil _ (List.cons_ne_nil _ _)
    · exact List.append_ne_nil_of_right_ne_nil _ (List.cons_ne_nil _ _)

theorem Digits.scientific_ne_nil (n : Nat) (d : Digits) : d.scientific n ≠ [] :=
  List.append_ne_nil_of_right_ne_nil _ (List.cons_ne_nil _ _)

/-- A layout that has words for the values beside the finite ones gives every number a text. -/
theorem Layout.write_ne_empty {l : Layout} (hn : l.notANumber ≠ "") (hi : l.infinity ≠ "")
    (x : Float) : l.write x ≠ "" := by
  unfold Layout.write
  split
  · exact hn
  · dsimp only
    split
    · exact append_ne_empty_right _ hi
    · split
      · exact append_ne_empty_right _ (by decide)
      · refine append_ne_empty_right _ (ofList_ne_empty ?_)
        split
        · exact Digits.inPlace_ne_nil _
        · exact Digits.scientific_ne_nil _ _

end Decimal

theorem Text.quote_ne_empty (s : String) : Text.quote s ≠ "" :=
  ofList_ne_empty (List.cons_ne_nil _ _)

theorem Text.quoteBytes_ne_empty (bs : List UInt8) : Text.quoteBytes bs ≠ "" :=
  ofList_ne_empty (List.cons_ne_nil _ _)

theorem toString_int_ne_empty (n : Int) : toString n ≠ "" := by
  cases n with
  | ofNat n => exact Nat.repr_ne_empty
  | negSucc n => exact append_ne_empty_left (by decide) _

theorem Date.literal_ne_empty (d : Date) : d.literal ≠ "" :=
  append_ne_empty_right _ (by decide)

theorem Moment.literal_ne_empty (t : Moment) : t.literal ≠ "" :=
  append_ne_empty_right _ (by decide)

theorem Date.display_ne_empty (d : Date) : d.display ≠ "" :=
  append_ne_empty_left (append_ne_empty_left (append_ne_empty_left
    (append_ne_empty_right _ (by decide)) _) _) _

theorem Moment.display_ne_empty (t : Moment) : t.display ≠ "" := by
  unfold Moment.display
  iterate 8 refine append_ne_empty_left ?_ _
  exact t.date.display_ne_empty

theorem Scalar.literal_ne_empty (s : Scalar) : s.literal ≠ "" := by
  cases s with
  | null => decide
  | bool b => cases b <;> decide
  | int n => exact toString_int_ne_empty n
  | float x => exact Decimal.Layout.write_ne_empty (by decide) (by decide) x
  | nan s => exact (by decide : Decimal.document.notANumber ≠ "")
  | text s => exact Text.quote_ne_empty s
  | date d => exact d.literal_ne_empty
  | moment t => exact t.literal_ne_empty
  | bytes bs => exact Text.quoteBytes_ne_empty bs

namespace Value

/-- The literal form is not empty; the ellipses for the knots around the value are not either. -/
theorem literalIn_ne_empty (around : List (Nat × String)) (ha : ∀ e ∈ around, e.2 ≠ "") :
    (v : Value) → literalIn around v ≠ ""
  | scalar s => s.literal_ne_empty
  | sequence _ => append_ne_empty_right _ (by decide)
  | mapping _ => append_ne_empty_right _ (by decide)
  | members [] => by simp [literalIn]
  | members (_ :: _) => append_ne_empty_right _ (by decide)
  | pair _ _ => append_ne_empty_right _ (by decide)
  | knot n b => by
    have hb (s : String) (hs : s ≠ "") : literalIn ((n, s) :: around) b ≠ "" :=
      literalIn_ne_empty _ (List.forall_mem_cons.mpr ⟨hs, ha⟩) b
    cases b with
    | sequence _ => exact hb "[...]" (by decide)
    | pair _ _ => exact hb "(...)" (by decide)
    | _ => exact hb "\x7b...\x7d" (by decide)
  | again n => by
    rw [literalIn]
    cases h : around.lookup n with
    | none => decide
    | some s =>
      obtain ⟨l, r, rfl, -⟩ := List.lookup_eq_some_iff.mp h
      exact ha (n, s) (by simp)

theorem literal_ne_empty (v : Value) : v.literal ≠ "" :=
  literalIn_ne_empty [] (by simp) v

/-- A value that counts as present has a text. -/
theorem display_ne_empty {v : Value} (hv : v.isFilled = true) : v.display ≠ "" := by
  cases v with
  | scalar s =>
    cases s with
    | text s => simpa [isFilled, String.isEmpty_iff, display, Scalar.display] using hv
    | date d => exact d.display_ne_empty
    | moment t => exact t.display_ne_empty
    | null => exact Scalar.literal_ne_empty .null
    | bool b => exact Scalar.literal_ne_empty (.bool b)
    | int n => exact Scalar.literal_ne_empty (.int n)
    | float x => exact Scalar.literal_ne_empty (.float x)
    | nan n => exact Scalar.literal_ne_empty (.nan n)
    | bytes bs => exact Scalar.literal_ne_empty (.bytes bs)
  | _ => exact literal_ne_empty _

/-- Where a value has a text that can be shown, the text is its display form. -/
theorem eq_display_of_shown {v : Value} {s : String} (h : v.shown = .ok s) : s = v.display := by
  unfold shown at h
  split at h
  · exact (Except.ok.inj h).symm
  · cases h

end Value

end ClientGen
