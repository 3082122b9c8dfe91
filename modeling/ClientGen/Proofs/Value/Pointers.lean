import ClientGen.Document.Pointer
import ClientGen.Proofs.Text.Cutting
import ClientGen.Proofs.Value.Parts

/-!
# Following pointers

A pointer is a row of segments. A segment leads from a mapping to the value under a key, and from a
list to an item. What a pointer names is held by the value that it is followed in.

## Main definitions

* `ClientGen.Pointer.index` : the place of an item that a segment writes.
* `ClientGen.Pointer.following` : the segments after a name.
* `ClientGen.Pointer.IsOddIndex` : digits that are no place in a list.
* `ClientGen.Pointer.MeetsOddIndex` : a pointer comes to a list with such a segment.

## Main results

* `ClientGen.Pointer.enter_of_get?`, `ClientGen.Pointer.enter_of_items?` : one segment.
* `ClientGen.Pointer.holds_of_lookup` : what a pointer names.
* `ClientGen.Pointer.segments_of_isName` : the segments of a pointer that starts with a name.
* `ClientGen.Pointer.lookup_eq_fault_iff` : the pointers that are looked up in vain unforeseen.
-/

namespace ClientGen

/-! ### Segments -/

namespace Text

/-- A row of characters writes no number if one of them has no decimal value. -/
theorem decimal?_eq_none_iff {cs : List Char} (h : cs ≠ []) :
    decimal? cs = none ↔ ∃ c ∈ cs, decimalValue? c = none := by
  have hfold (cs : List Char) : ∀ n : Nat,
      cs.foldlM (fun n c => (decimalValue? c).map (10 * n + ·)) n = none ↔
        ∃ c ∈ cs, decimalValue? c = none := by
    induction cs with
    | nil => simp
    | cons c cs ih =>
      intro n
      cases hc : decimalValue? c with
      | none => simp [hc]
      | some k => simp [hc, ih]
  cases cs with
  | nil => exact absurd rfl h
  | cons c cs => exact hfold (c :: cs) 0

end Text

namespace Pointer

variable {root v w : Value} {ref : String}

/-- The segment is written as the characters are: none of them is a slash or starts an escape. -/
def IsName (cs : List Char) : Prop := cs ≠ [] ∧ '/' ∉ cs ∧ unescape cs = cs

instance (cs : List Char) : Decidable (IsName cs) := inferInstanceAs (Decidable (_ ∧ _))

/-- The segments that the rest of a pointer writes after a name. -/
def following (rest : List Char) : List (List Char) :=
  let kept := Text.dropTail (· == '/') rest
  if kept = [] then [] else (kept.splitOn '/').map unescape

variable {name : List Char}

theorem dropTail_of_isName (h : IsName name) (rest : List Char) :
    Text.dropTail (· == '/') (name ++ '/' :: rest) =
      if Text.dropTail (· == '/') rest = [] then name
      else name ++ '/' :: Text.dropTail (· == '/') rest := by
  obtain ⟨-, hslash, -⟩ := h
  have hname : ∀ c ∈ name, (c == '/') = false := fun c hc =>
    beq_eq_false_iff_ne.mpr fun heq => hslash (heq ▸ hc)
  have happend : name ++ '/' :: rest = (name ++ ['/']) ++ rest := by simp
  rw [happend]
  by_cases hrest : Text.dropTail (· == '/') rest = []
  · rw [Text.dropTail_append_of_eq_nil hrest, Text.dropTail_append_of_eq_nil rfl,
      Text.dropTail_of_forall_not hname, if_pos hrest]
  · rw [Text.dropTail_append_of_ne_nil hrest, if_neg hrest]
    simp

/-- A name at the start is the first segment. -/
theorem following_of_isName (h : IsName name) (rest : List Char) :
    following (name ++ '/' :: rest) = name :: following rest := by
  have hkept := dropTail_of_isName h rest
  obtain ⟨hne, hslash, hname⟩ := h
  simp only [following, hkept]
  by_cases hrest : Text.dropTail (· == '/') rest = []
  · rw [if_pos hrest, if_pos hrest, if_neg hne, List.splitOn_eq_singleton hslash,
      List.map_singleton, hname]
  · rw [if_neg hrest, if_neg hrest, if_neg (by simp),
      List.splitOn_append_cons_self_of_not_mem hslash, List.map_cons, hname]

/-- A name alone is the only segment. -/
theorem following_self (h : IsName name) : following name = [name] := by
  obtain ⟨hne, hslash, hname⟩ := h
  have hkept : Text.dropTail (· == '/') name = name :=
    Text.dropTail_of_forall_not fun c hc => beq_eq_false_iff_ne.mpr fun heq => hslash (heq ▸ hc)
  simp only [following, hkept, if_neg hne]
  rw [List.splitOn_eq_singleton hslash, List.map_singleton, hname]

/-- The segments of a pointer that starts with a name. -/
theorem segments_of_isName (h : IsName name) (rest : List Char) :
    segments ('#' :: '/' :: (name ++ '/' :: rest)) = name :: following rest := by
  rw [← following_of_isName h rest]
  obtain ⟨c, cs, rfl⟩ := List.exists_cons_of_ne_nil h.1
  have hc : (c == '/') = false := beq_eq_false_iff_ne.mpr fun heq => h.2.1 (by simp [heq])
  have htrim : Text.trimWith (· == '/') ('/' :: (c :: cs ++ '/' :: rest)) =
      Text.dropTail (· == '/') (c :: cs ++ '/' :: rest) := by
    have hdrop : ('/' :: (c :: cs ++ '/' :: rest)).dropWhile (· == '/') =
        c :: cs ++ '/' :: rest := by
      simp [hc]
    rw [Text.trimWith, hdrop]
  have hne : Text.dropTail (· == '/') (c :: cs ++ '/' :: rest) ≠ [] := by
    rw [dropTail_of_isName h]
    split <;> simp
  have hhash : ('#' :: '/' :: (c :: cs ++ '/' :: rest)).dropWhile (· == '#') =
      '/' :: (c :: cs ++ '/' :: rest) := rfl
  rw [segments, hhash, htrim, following, if_neg hne]

/-! ### One segment -/

/-- The place of an item that a segment writes; none if the segment is empty or holds anything but
digits. Digits that write no number, and numbers that are too long, are no place at all. -/
def index (segment : List Char) : Except Problem (Option Nat) :=
  if segment.isEmpty || !segment.all Text.isDigit then .ok none
  else match Text.decimal? segment with
    | some i =>
      if Decimal.digitLimit < segment.length then .error (.fault .malformedNumber) else .ok (some i)
    | none => .error (.fault .malformedNumber)

theorem enter_of_items? {xs : List Value} (h : v.items? = some xs) (segment : List Char) :
    enter v segment = (index segment).map (·.bind (xs[·]?)) := by
  unfold enter index
  simp only [h]
  split
  · rfl
  · cases Text.decimal? segment with
    | none => rfl
    | some i =>
      simp only
      split <;> rfl

theorem enter_of_items?_eq_none (h : v.items? = none) (segment : List Char) :
    enter v segment = .ok (v.get? (String.ofList segment)) := by
  rw [enter, h]

theorem enter_of_get? {key : String} (h : v.get? key = some w) :
    enter v key.toList = .ok (some w) := by
  obtain ⟨es, hes, -⟩ := Value.get?_eq_some h
  have hitems : v.items? = none := by
    rw [Value.items?, Value.entries?_eq_some.mp hes]
  rw [enter_of_items?_eq_none hitems, String.ofList_toList, h]

/-- The segment holds nothing but digits, and one of them has no decimal value, or they are too
many. -/
def IsOddIndex (segment : List Char) : Prop :=
  segment ≠ [] ∧ (∀ c ∈ segment, Text.isDigit c = true) ∧
    ((∃ c ∈ segment, Text.decimalValue? c = none) ∨ Decimal.digitLimit < segment.length)

theorem index_eq_error_iff {segment : List Char} {p : Problem} :
    index segment = .error p ↔ p = .fault .malformedNumber ∧ IsOddIndex segment := by
  unfold index IsOddIndex
  by_cases hdigits : segment = [] ∨ ¬ segment.all Text.isDigit = true
  · have hnone : (segment.isEmpty || !segment.all Text.isDigit) = true := by simpa using hdigits
    rw [if_pos hnone]
    simp only [reduceCtorEq, false_iff]
    rintro ⟨-, hne, hall, -⟩
    exact hdigits.elim hne fun hno => hno (List.all_eq_true.mpr hall)
  · obtain ⟨hne, hall⟩ := not_or.mp hdigits
    have hsome : ¬ (segment.isEmpty || !segment.all Text.isDigit) = true := by simpa using hdigits
    have hall : ∀ c ∈ segment, Text.isDigit c = true := List.all_eq_true.mp (not_not.mp hall)
    rw [if_neg hsome]
    cases hdecimal : Text.decimal? segment with
    | none =>
      have hlone := (Text.decimal?_eq_none_iff hne).mp hdecimal
      exact ⟨fun h => ⟨(Except.error.inj h).symm, hne, hall, .inl hlone⟩, fun h => h.1 ▸ rfl⟩
    | some i =>
      have hvalues : ¬ ∃ c ∈ segment, Text.decimalValue? c = none := fun hlone => by
        rw [(Text.decimal?_eq_none_iff hne).mpr hlone] at hdecimal
        cases hdecimal
      by_cases hlong : Decimal.digitLimit < segment.length
      · simp only [if_pos hlong]
        exact ⟨fun h => ⟨(Except.error.inj h).symm, hne, hall, .inr hlong⟩, fun h => h.1 ▸ rfl⟩
      · simp only [if_neg hlong]
        exact ⟨nofun, fun h => (h.2.2.2.elim hvalues hlong).elim⟩

theorem enter_eq_error_iff {segment : List Char} {p : Problem} :
    enter v segment = .error p ↔
      p = .fault .malformedNumber ∧ v.isSequence = true ∧ IsOddIndex segment := by
  rw [Value.isSequence]
  cases hitems : v.items? with
  | none => simp [enter_of_items?_eq_none hitems]
  | some xs => simp [enter_of_items? hitems, Except.map_eq_error, index_eq_error_iff]

theorem mem_parts_of_enter {segment : List Char} (h : enter v segment = .ok (some w)) :
    w ∈ v.parts := by
  cases hitems : v.items? with
  | none =>
    rw [enter_of_items?_eq_none hitems] at h
    exact Value.mem_parts_of_get? (Except.ok.inj h)
  | some xs =>
    rw [enter_of_items? hitems] at h
    obtain ⟨i?, -, hi⟩ := Except.map_eq_ok.mp h
    obtain ⟨i, -, hx⟩ := Option.bind_eq_some_iff.mp hi
    rw [Value.parts_of_items? hitems]
    exact List.mem_of_getElem? hx

/-! ### All segments -/

theorem holds_of_walk {segments : List (List Char)} :
    ∀ {v : Value}, walk ref v segments = .ok w → v.Holds w := by
  induction segments with
  | nil =>
    intro v h
    rw [Except.ok.inj h]
    exact .refl
  | cons s ss ih =>
    intro v h
    unfold walk at h
    split at h
    · cases h
    · rename_i x hx
      exact .head (mem_parts_of_enter hx) (ih h)
    · cases h

/-- What a pointer names is held by the document. -/
theorem holds_of_lookup (h : lookup root ref = .ok w) : root.Holds w := by
  unfold lookup at h
  split at h
  · exact holds_of_walk h
  · cases h

theorem walk_eq_error {p : Problem} {segments : List (List Char)} :
    ∀ {v : Value}, walk ref v segments = .error p →
      (∃ f, p = .fault f) ∨ ∃ segment, p = .failure (.danglingReference ref segment) := by
  induction segments with
  | nil =>
    intro v h
    cases h
  | cons s ss ih =>
    intro v h
    unfold walk at h
    split at h
    · rename_i q hq
      obtain rfl := Except.error.inj h
      exact .inl ⟨_, (enter_eq_error_iff.mp hq).1⟩
    · exact ih h
    · exact .inr ⟨_, (Except.error.inj h).symm⟩

theorem walk_of_get? {key : String} {segments : List (List Char)} (h : v.get? key = some w) :
    walk ref v (key.toList :: segments) = walk ref w segments := by
  rw [walk, enter_of_get? h]

/-- A pointer that starts with a name is followed from the value of that name. -/
theorem lookup_of_get? {key : String} {rest : List Char} (hkey : IsName key.toList)
    (href : ref.toList = '#' :: '/' :: (key.toList ++ '/' :: rest)) (h : root.get? key = some w) :
    lookup root ref = walk ref w (following rest) := by
  rw [lookup, href, if_pos List.head?_cons, segments_of_isName hkey, walk_of_get? h]

/-- On the way that a pointer writes, there is a list with an odd segment for it. -/
def MeetsOddIndex (root : Value) (ref : String) : Prop :=
  ref.toList.head? = some '#' ∧ ∃ before segment after w,
    segments ref.toList = before ++ segment :: after ∧ walk ref root before = .ok w ∧
      w.isSequence = true ∧ IsOddIndex segment

theorem walk_eq_fault_iff {f : Fault} {segments : List (List Char)} : ∀ {v : Value},
    walk ref v segments = .error (.fault f) ↔
      f = .malformedNumber ∧ ∃ before segment after w,
        segments = before ++ segment :: after ∧ walk ref v before = .ok w ∧
          w.isSequence = true ∧ IsOddIndex segment := by
  induction segments with
  | nil =>
    intro v
    simp [walk]
  | cons s ss ih =>
    intro v
    constructor
    · intro h
      unfold walk at h
      split at h
      · rename_i q hq
        obtain rfl := Except.error.inj h
        obtain ⟨hf, hlist, hodd⟩ := enter_eq_error_iff.mp hq
        exact ⟨Problem.fault.inj hf, [], s, ss, v, rfl, rfl, hlist, hodd⟩
      · rename_i w hw
        obtain ⟨hf, before, segment, after, u, rfl, hbefore, hodd⟩ := ih.mp h
        refine ⟨hf, s :: before, segment, after, u, rfl, ?_, hodd⟩
        rw [walk, hw]
        exact hbefore
      · cases h
    · rintro ⟨rfl, before, segment, after, w, hsplit, hbefore, hodd⟩
      cases before with
      | nil =>
        obtain ⟨rfl, rfl⟩ := List.cons.inj hsplit
        obtain rfl := Except.ok.inj hbefore
        rw [walk, enter_eq_error_iff.mpr ⟨rfl, hodd⟩]
      | cons b before =>
        obtain ⟨rfl, rfl⟩ := List.cons.inj hsplit
        unfold walk at hbefore ⊢
        split at hbefore
        · cases hbefore
        · rename_i u hu
          exact ih.mpr ⟨rfl, before, segment, after, w, rfl, hbefore, hodd⟩
        · cases hbefore

/-- Looking up a pointer fails unforeseen exactly if it meets an odd segment. -/
theorem lookup_eq_fault_iff {f : Fault} :
    lookup root ref = .error (.fault f) ↔ f = .malformedNumber ∧ MeetsOddIndex root ref := by
  unfold lookup MeetsOddIndex
  by_cases hhash : ref.toList.head? = some '#'
  · rw [if_pos hhash, walk_eq_fault_iff]
    simp only [hhash, true_and]
  · rw [if_neg hhash]
    simp [hhash]

/-- Nothing is found below a text. -/
theorem walk_text {r : String} {segments : List (List Char)}
    (h : walk ref (.text r) segments = .ok w) : w = .text r := by
  cases segments with
  | nil => exact (Except.ok.inj h).symm
  | cons s ss => cases h

end Pointer

end ClientGen
