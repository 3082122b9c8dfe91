import Mathlib.Algebra.Group.Nat.Defs
import ClientGen.Document.Basic
import ClientGen.Proofs.Text.Replace
import ClientGen.Proofs.Value.Pointers

/-!
# Encoded pointers

The pointer that is written for a way through a document names the value at the end of the way. In
an escaped key no slash is left, so the segments of the pointer are the steps of the way, and
unescaping a segment gives the key back. Slashes at the ends of a pointer do not count, and so the
way may have empty keys, but not at its ends; the root of a document has none.

## Main results

* `ClientGen.Pointer.escape_eq_replaceAll`, `ClientGen.Pointer.unescape_escape` : escaping a key and
  reading it back.
* `ClientGen.Pointer.segments_encode` : the segments of an encoded pointer.
* `ClientGen.Pointer.enter_segment` : one step.
* `ClientGen.Document.lookup_encode` : the pointer of a way names the value at its end.
-/

namespace ClientGen

/-! ### Decimal digits -/

namespace Text

variable {c : Char}

theorem decimalValue?_of_isDigit (h : c.isDigit = true) :
    decimalValue? c = some (c.toNat - '0'.toNat) := by
  have hrange : 0x30 ≤ c.toNat ∧ c.toNat < 0x30 + 10 := by
    have hdigit : '0'.toNat ≤ c.toNat ∧ c.toNat ≤ '9'.toNat := Char.isDigit_iff_toNat.mp h
    exact ⟨hdigit.1, Nat.lt_succ_of_le hdigit.2⟩
  rw [decimalValue?, decimalZeros, List.find?_cons_of_pos (by simpa using hrange)]
  rfl

theorem isDigit_of_isDigit (h : c.isDigit = true) : isDigit c = true := by
  rw [isDigit, decimalValue?_of_isDigit h]
  rfl

/-- A number is read back from its digits. -/
theorem decimal?_toDigits (n : Nat) : decimal? (Nat.toDigits 10 n) = some n := by
  have hfold (cs : List Char) (hcs : ∀ c ∈ cs, c.isDigit = true) : ∀ m : Nat,
      cs.foldlM (fun n c => (decimalValue? c).map (10 * n + ·)) m =
        some (Nat.ofDigitChars 10 cs m) := by
    induction cs with
    | nil => exact fun m => rfl
    | cons c cs ih =>
      obtain ⟨hc, hcs⟩ := List.forall_mem_cons.mp hcs
      intro m
      rw [List.foldlM_cons, decimalValue?_of_isDigit hc, Nat.ofDigitChars_cons, ← ih hcs]
      rfl
  have hdigits : ∀ c ∈ Nat.toDigits 10 n, c.isDigit = true := fun c hc =>
    Nat.isDigit_of_mem_toDigits (by decide) (by decide) hc
  have hread := hfold (Nat.toDigits 10 n) hdigits 0
  rw [Nat.ofDigitChars_ten_toDigits] at hread
  obtain ⟨c, cs, hcs⟩ := List.exists_cons_of_ne_nil (Nat.toDigits_ne_nil (b := 10) (n := n))
  rw [hcs] at hread ⊢
  exact hread

end Text

namespace Pointer

/-! ### Escaped keys -/

variable {c digit character : Char} {cs : List Char}

theorem replaceTilde_cons_of_ne (h : c ≠ '~') :
    replaceTilde digit character (c :: cs) = c :: replaceTilde digit character cs := by
  conv_lhs => unfold replaceTilde
  split <;> simp_all

/-- A key is escaped by replacing its tildes first and its slashes then. -/
theorem escape_eq_replaceAll (cs : List Char) : escape cs =
    Text.replaceAll ['/'] ['~', '1'] (Text.replaceAll ['~'] ['~', '0'] cs) := by
  simp only [Text.replaceAll_singleton]
  fun_induction escape cs with
  | case1 => rfl
  | case2 cs ih => rw [ih]; rfl
  | case3 cs ih => rw [ih]; rfl
  | case4 c cs htilde hslash ih =>
    rw [List.flatMap_cons, if_neg htilde, List.singleton_append, List.flatMap_cons,
      if_neg hslash, ih, List.singleton_append]

theorem slash_not_mem_escape (cs : List Char) : '/' ∉ escape cs := by
  rw [escape_eq_replaceAll, Text.replaceAll_singleton, List.mem_flatMap]
  rintro ⟨c, -, hc⟩
  split at hc
  · simp at hc
  · exact absurd (List.mem_singleton.mp hc).symm ‹_›

/-- Restoring the slashes of an escaped key leaves its tildes escaped. -/
theorem replaceTilde_escape (cs : List Char) :
    replaceTilde '1' '/' (escape cs) = Text.replaceAll ['~'] ['~', '0'] cs := by
  rw [Text.replaceAll_singleton]
  fun_induction escape cs with
  | case1 => rfl
  | case2 cs ih => simp [replaceTilde, ih]
  | case3 cs ih => simp [replaceTilde, ih]
  | case4 c cs htilde hslash ih =>
    rw [replaceTilde_cons_of_ne htilde, ih, List.flatMap_cons, if_neg htilde,
      List.singleton_append]

/-- Restoring the tildes gives the key back. -/
theorem replaceTilde_replaceAll (cs : List Char) :
    replaceTilde '0' '~' (Text.replaceAll ['~'] ['~', '0'] cs) = cs := by
  rw [Text.replaceAll_singleton]
  induction cs with
  | nil => rfl
  | cons c cs ih =>
    rw [List.flatMap_cons]
    by_cases hc : c = '~'
    · simp [replaceTilde, ih, hc]
    · rw [if_neg hc, List.singleton_append, replaceTilde_cons_of_ne hc, ih]

/-- An escaped key is read back. -/
theorem unescape_escape (cs : List Char) : unescape (escape cs) = cs := by
  rw [unescape, replaceTilde_escape, replaceTilde_replaceAll]

theorem unescape_of_not_mem (h : '~' ∉ cs) : unescape cs = cs := by
  have hrestore (digit character : Char) : replaceTilde digit character cs = cs := by
    induction cs with
    | nil => rfl
    | cons c cs ih =>
      rw [List.mem_cons, not_or] at h
      rw [replaceTilde_cons_of_ne (Ne.symm h.1), ih h.2]
  rw [unescape, hrestore, hrestore]

/-! ### One step -/

variable {v w : Value} {i : Nat}

/-- The digits of an index write its place. -/
theorem index_toDigits (h : i < 10 ^ Decimal.digitLimit) :
    index (Nat.toDigits 10 i) = .ok (some i) := by
  have hdigits : (Nat.toDigits 10 i).all Text.isDigit = true :=
    List.all_eq_true.mpr fun c hc =>
      Text.isDigit_of_isDigit (Nat.isDigit_of_mem_toDigits (by decide) (by decide) hc)
  have hlength : ¬ Decimal.digitLimit < (Nat.toDigits 10 i).length :=
    Nat.not_lt.mpr ((Nat.length_toDigits_le_iff (by decide) (by decide)).mpr h)
  have hne : (Nat.toDigits 10 i).isEmpty = false :=
    List.isEmpty_eq_false_iff.mpr Nat.toDigits_ne_nil
  simp only [index, hdigits, hne, Text.decimal?_toDigits, if_neg hlength]
  rfl

/-- The segment that a step is written as leads where the step does. -/
theorem enter_segment {s : Step} (hs : ∀ i, s = .index i → i < 10 ^ Decimal.digitLimit)
    (h : s.follow? v = some w) : enter v (unescape s.segment) = .ok (some w) := by
  cases s with
  | key k =>
    rw [Step.segment, unescape_escape]
    exact enter_of_get? h
  | index i =>
    obtain ⟨xs, hxs, hw⟩ := Option.bind_eq_some_iff.mp h
    have htilde : '~' ∉ Nat.toDigits 10 i := fun hmem =>
      absurd (Nat.isDigit_of_mem_toDigits (by decide) (by decide) hmem) (by decide)
    rw [Step.segment, unescape_of_not_mem htilde, enter_of_items? hxs, index_toDigits (hs i rfl)]
    exact congrArg Except.ok hw

/-! ### All steps -/

variable {ref : String} {s : Step} {ss : List Step}

/-- The segments of a way lead to its end. -/
theorem walk_segments (hindex : ∀ i, .index i ∈ ss → i < 10 ^ Decimal.digitLimit)
    (h : follow? v ss = some w) :
    walk ref v (ss.map fun s => unescape s.segment) = .ok w := by
  induction ss generalizing v with
  | nil => exact congrArg Except.ok (Option.some.inj h)
  | cons s ss ih =>
    obtain ⟨u, hu, hw⟩ := Option.bind_eq_some_iff.mp h
    have hs : ∀ i, s = .index i → i < 10 ^ Decimal.digitLimit := fun i hi =>
      hindex i (hi ▸ List.mem_cons_self)
    rw [List.map_cons, walk, enter_segment hs hu]
    exact ih (fun i hi => hindex i (List.mem_cons_of_mem s hi)) hw

theorem slash_not_mem_segment (s : Step) : '/' ∉ s.segment := by
  cases s with
  | key k => exact slash_not_mem_escape k.toList
  | index i =>
    exact fun hmem => absurd (Nat.isDigit_of_mem_toDigits (by decide) (by decide) hmem) (by decide)

theorem escape_eq_nil_iff : escape cs = [] ↔ cs = [] := by
  fun_cases escape cs <;> simp

theorem segment_ne_nil (h : s ≠ .key "") : s.segment ≠ [] := by
  cases s with
  | key k =>
    rw [Step.segment, Ne, escape_eq_nil_iff, String.toList_eq_nil_iff]
    exact fun hk => h (congrArg Step.key hk)
  | index i => exact Nat.toDigits_ne_nil

/-- A pointer writes the segments of its steps with slashes between them. -/
theorem toList_encode (s : Step) (ss : List Step) : (encode (s :: ss)).toList =
    '#' :: '/' :: ['/'].intercalate ((s :: ss).map Step.segment) := by
  rw [encode, String.toList_ofList, List.map_cons, Text.intercalate_cons_eq_append,
    List.flatMap_cons, List.flatMap_map]
  rfl

/-- Nothing is trimmed from a pointer but the slash at its start, if neither the first nor the last
of its steps is an empty key. -/
theorem trimWith_segments (hfirst : s ≠ .key "")
    (hlast : (s :: ss).getLast (List.cons_ne_nil s ss) ≠ .key "") :
    Text.trimWith (· == '/') ('/' :: ['/'].intercalate ((s :: ss).map Step.segment)) =
      ['/'].intercalate ((s :: ss).map Step.segment) := by
  have hslash : ∀ l ∈ (s :: ss).map Step.segment, '/' ∉ l :=
    List.forall_mem_map.mpr fun t _ => slash_not_mem_segment t
  have hmap : (s :: ss).map Step.segment ≠ [] := List.cons_ne_nil _ _
  have hend : ((s :: ss).map Step.segment).getLast hmap ≠ [] := by
    rw [List.getLast_map]
    exact segment_ne_nil hlast
  rw [Text.trimWith_cons_of_pos (p := (· == '/')) rfl,
    Text.trimWith_intercalate hmap (segment_ne_nil hfirst) hend hslash]

/-- The segments of a pointer are those of its steps, if neither the first nor the last one is
empty. -/
theorem segments_encode (hfirst : s ≠ .key "")
    (hlast : (s :: ss).getLast (List.cons_ne_nil s ss) ≠ .key "") :
    segments (encode (s :: ss)).toList = (s :: ss).map fun s => unescape s.segment := by
  have hhash : ('#' :: '/' :: ['/'].intercalate ((s :: ss).map Step.segment)).dropWhile (· == '#') =
      '/' :: ['/'].intercalate ((s :: ss).map Step.segment) := rfl
  have hslash : ∀ l ∈ (s :: ss).map Step.segment, '/' ∉ l :=
    List.forall_mem_map.mpr fun t _ => slash_not_mem_segment t
  rw [segments, toList_encode, hhash, trimWith_segments hfirst hlast,
    List.splitOn_intercalate '/' hslash (by simp), List.map_map]
  rfl

end Pointer

namespace Document

open Pointer

variable {d : Document} {ss : List Step} {w : Value}

/-- The root of a document has no empty key. -/
theorem ne_key_of_follow? {s : Step} (h : s.follow? d.tree = some w) : s ≠ .key "" := by
  rintro rfl
  cases h

/-- **Encoded pointers.** The pointer of a way from the root of a document names the value at the
end of the way, whatever the keys on the way are, if the last of them is not empty. No index has
more digits than a number in a pointer may have, as no list that fits into a memory is so long. -/
theorem lookup_encode (hne : ss ≠ []) (hlast : ss.getLast hne ≠ .key "")
    (hindex : ∀ i, .index i ∈ ss → i < 10 ^ Decimal.digitLimit)
    (h : Pointer.follow? d.tree ss = some w) : Pointer.lookup d.tree (encode ss) = .ok w := by
  cases ss with
  | nil => exact absurd rfl hne
  | cons s ss =>
    obtain ⟨u, hu, -⟩ := Option.bind_eq_some_iff.mp h
    have hhash : (encode (s :: ss)).toList.head? = some '#' := by rw [toList_encode]; rfl
    rw [Pointer.lookup, if_pos hhash, segments_encode (ne_key_of_follow? hu) hlast]
    exact walk_segments hindex h

/-- A document with a path whose parts have keys with tildes, slashes and hash signs, an empty key
and a key that looks like an index. -/
def nestedPaths : Document where
  openapi := "3.0.0"
  paths := [("/a~1b", .ofFields [("", .sequence [.null, .ofFields
    [("#/~0", .ofFields [("0", .text "found")])]])])]

theorem lookup_encode_nestedPaths :
    let ss : List Step := [.key "paths", .key "/a~1b", .key "", .index 1, .key "#/~0", .key "0"]
    encode ss = "#/paths/~1a~01b//1/#~1~00/0" ∧
      Pointer.follow? nestedPaths.tree ss = some (.text "found") ∧
      Pointer.lookup nestedPaths.tree (encode ss) = .ok (.text "found") := by
  intro ss
  have hindex : ∀ i, .index i ∈ ss → i < 10 ^ Decimal.digitLimit := by
    intro i hi
    have hone : i = 1 := by simpa [ss] using hi
    rw [hone]
    exact Nat.one_lt_pow (by decide) (by decide)
  have hfollow : Pointer.follow? nestedPaths.tree ss = some (.text "found") := rfl
  exact ⟨by decide, hfollow, lookup_encode (by decide) (by decide) hindex hfollow⟩

end Document

end ClientGen
