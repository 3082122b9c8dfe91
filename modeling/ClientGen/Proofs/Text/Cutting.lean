import ClientGen.Text.Blank

/-!
# Cutting texts

A text is cut at its ends, at the characters of a class, or at its line ends. What is put together
from parts with a character between them is cut into these parts again, if the character stands in
none of them.

## Main results

* `ClientGen.Text.trimWith_intercalate` : parts with a character between them keep their ends.
* `ClientGen.Text.not_of_mem_splitOnP` : what a text is split into.
* `ClientGen.Text.isLineEnd_of_mem_lines`, `ClientGen.Text.lines_intercalate` : the lines of a text,
  and the text of lines.
-/

namespace ClientGen.Text

variable {p : Char → Bool} {c : Char} {cs ds : List Char}

/-! ### Parts with a character between them -/

/-- Every part but the first has the character in front of it. -/
theorem intercalate_cons_eq_append (c : Char) (l : List Char) (ls : List (List Char)) :
    [c].intercalate (l :: ls) = l ++ ls.flatMap (c :: ·) := by
  induction ls generalizing l with
  | nil => simp
  | cons m ls ih => simp [List.intercalate_cons_cons, ih m]

/-- What is put together with something between ends with its last part. -/
theorem exists_intercalate_eq (separator : List Char) : {ls : List (List Char)} → (h : ls ≠ []) →
    ∃ cs, separator.intercalate ls = cs ++ ls.getLast h
  | [l], _ => ⟨[], by simp⟩
  | l :: m :: ls, _ => by
    obtain ⟨cs, hcs⟩ := exists_intercalate_eq separator (List.cons_ne_nil m ls)
    refine ⟨l ++ separator ++ cs, ?_⟩
    rw [List.intercalate_cons_cons, hcs, List.getLast_cons (List.cons_ne_nil m ls)]
    simp

/-- What a text is split into is free of what it is split at. -/
theorem not_of_mem_splitOnP {p : Char → Bool} {cs : List Char} :
    ∀ ds ∈ cs.splitOnP p, ∀ c ∈ ds, p c = false := by
  induction cs with
  | nil => simp [List.splitOnP_nil]
  | cons c cs ih =>
    obtain ⟨ds, rest, hrest⟩ := List.exists_cons_of_ne_nil (List.splitOnP_ne_nil p cs)
    rw [List.splitOnP_cons_eq_if_modifyHead, hrest]
    rw [hrest, List.forall_mem_cons] at ih
    split
    · exact List.forall_mem_cons.mpr ⟨List.forall_mem_nil _, List.forall_mem_cons.mpr ih⟩
    · rename_i hc
      have hhead : ∀ d ∈ c :: ds, p d = false :=
        List.forall_mem_cons.mpr ⟨Bool.not_eq_true _ ▸ hc, ih.1⟩
      exact List.forall_mem_cons.mpr ⟨hhead, ih.2⟩

/-! ### Trimming -/

theorem dropTail_of_forall_not (h : ∀ c ∈ cs, p c = false) : dropTail p cs = cs := by
  have hreverse : cs.reverse.dropWhile p = cs.reverse := by
    cases hcs : cs.reverse with
    | nil => rfl
    | cons x xs =>
      have hx : x ∈ cs := List.mem_reverse.mp (hcs ▸ List.mem_cons_self)
      exact List.dropWhile_cons_of_neg (by simp [h x hx])
  rw [dropTail, hreverse, List.reverse_reverse]

theorem dropTail_append_of_eq_nil (h : dropTail p ds = []) :
    dropTail p (cs ++ ds) = dropTail p cs := by
  have hds : ds.reverse.dropWhile p = [] := List.reverse_eq_nil_iff.mp h
  rw [dropTail, List.reverse_append, List.dropWhile_append, hds]
  rfl

theorem dropTail_append_of_ne_nil (h : dropTail p ds ≠ []) :
    dropTail p (cs ++ ds) = cs ++ dropTail p ds := by
  have hds : (ds.reverse.dropWhile p).isEmpty = false := by
    simpa [dropTail] using h
  rw [dropTail, List.reverse_append, List.dropWhile_append, hds, if_neg Bool.false_ne_true,
    List.reverse_append, List.reverse_reverse]
  rfl

theorem dropTail_isPrefix (p : Char → Bool) (cs : List Char) : dropTail p cs <+: cs := by
  rw [dropTail, ← List.reverse_suffix, List.reverse_reverse]
  exact List.dropWhile_suffix p

theorem trimWith_cons_of_pos (h : p c = true) (cs : List Char) :
    trimWith p (c :: cs) = trimWith p cs := by
  rw [trimWith, List.dropWhile_cons_of_pos h, trimWith]

theorem trimWith_concat_of_pos (h : p c = true) (cs : List Char) :
    trimWith p (cs ++ [c]) = trimWith p cs := by
  have hlast : dropTail p [c] = [] := by simp [dropTail, h]
  rw [trimWith, trimWith, List.dropWhile_append]
  by_cases hcs : (cs.dropWhile p).isEmpty = true
  · rw [if_pos hcs, List.isEmpty_iff.mp hcs, List.dropWhile_cons_of_pos h, List.dropWhile_nil]
  · rw [if_neg hcs, dropTail_append_of_eq_nil hlast]

/-- Parts with a character between them keep their ends when this character is trimmed, if it stands
in none of them and neither the first nor the last one is empty. -/
theorem trimWith_intercalate {ls : List (List Char)} (hne : ls ≠ []) (hfirst : ls.head hne ≠ [])
    (hlast : ls.getLast hne ≠ []) (h : ∀ l ∈ ls, c ∉ l) :
    trimWith (· == c) ([c].intercalate ls) = [c].intercalate ls := by
  have hnot : ∀ l ∈ ls, ∀ d ∈ l, (d == c) = false := fun l hl d hd =>
    beq_eq_false_iff_ne.mpr fun heq => h l hl (heq ▸ hd)
  have hstart : ([c].intercalate ls).dropWhile (· == c) = [c].intercalate ls := by
    obtain ⟨l, ls, rfl⟩ := List.exists_cons_of_ne_nil hne
    obtain ⟨d, l, rfl⟩ := List.exists_cons_of_ne_nil hfirst
    have hd : (d == c) = false := hnot (d :: l) List.mem_cons_self d List.mem_cons_self
    rw [List.intercalate_cons_cons_left, List.dropWhile_cons_of_neg (by simp [hd])]
  obtain ⟨cs, hcs⟩ := exists_intercalate_eq [c] hne
  have hkept : dropTail (· == c) (ls.getLast hne) = ls.getLast hne :=
    dropTail_of_forall_not (hnot _ (List.getLast_mem hne))
  have hfilled : dropTail (· == c) (ls.getLast hne) ≠ [] := by
    rw [hkept]
    exact hlast
  rw [trimWith, hstart, hcs, dropTail_append_of_ne_nil hfilled, hkept]

/-! ### Lines -/

theorem isLineEnd_of_mem_linesFrom {line : List Char} (h : ∀ c ∈ line, isLineEnd c = false) :
    ∀ l ∈ linesFrom line cs, ∀ c ∈ l, isLineEnd c = false := by
  have hopen {line : List Char} (h : ∀ c ∈ line, isLineEnd c = false) :
      ∀ c ∈ line.reverse, isLineEnd c = false := fun c hc => h c (List.mem_reverse.mp hc)
  fun_induction linesFrom line cs with
  | case1 line hline => exact List.forall_mem_nil _
  | case2 line hline => exact List.forall_mem_singleton.mpr (hopen h)
  | case3 line rest ih | case4 line c rest _ hc ih =>
    exact List.forall_mem_cons.mpr ⟨hopen h, ih (List.forall_mem_nil _)⟩
  | case5 line c rest _ hc ih =>
    exact ih (List.forall_mem_cons.mpr ⟨Bool.eq_false_iff.mpr hc, h⟩)

/-- The lines of a text have no line ends. -/
theorem isLineEnd_of_mem_lines : ∀ l ∈ lines cs, ∀ c ∈ l, isLineEnd c = false :=
  isLineEnd_of_mem_linesFrom (List.forall_mem_nil _)

/-- What ends no line belongs to the open line. -/
theorem linesFrom_append {line : List Char} (h : ∀ c ∈ ds, isLineEnd c = false) :
    linesFrom line (ds ++ cs) = linesFrom (ds.reverse ++ line) cs := by
  induction ds generalizing line with
  | nil => rfl
  | cons d ds ih =>
    obtain ⟨hd, hds⟩ := List.forall_mem_cons.mp h
    have hreturn : d ≠ '\r' := by
      rintro rfl
      exact absurd hd (by decide)
    rw [List.cons_append, linesFrom, if_neg (by simp [hd]), ih hds]
    · simp
    · exact fun _ hr _ => hreturn hr

/-- A text that is put together from lines is cut into them again. -/
theorem lines_intercalate {ls : List (List Char)} (hfilled : ∀ l ∈ ls, l ≠ [])
    (h : ∀ l ∈ ls, ∀ c ∈ l, isLineEnd c = false) : lines (['\n'].intercalate ls) = ls := by
  induction ls with
  | nil => rfl
  | cons l ls ih =>
    obtain ⟨hl, hls⟩ := List.forall_mem_cons.mp h
    obtain ⟨hne, hfilled⟩ := List.forall_mem_cons.mp hfilled
    cases ls with
    | nil =>
      have hlast : linesFrom [] (l ++ []) = linesFrom (l.reverse ++ []) [] := linesFrom_append hl
      simpa [lines, linesFrom, hne] using hlast
    | cons m ls =>
      have hfeed (line cs : List Char) :
          linesFrom line ('\n' :: cs) = line.reverse :: lines cs := by
        rw [linesFrom, if_pos (by decide), lines]
        exact fun _ hr _ => absurd hr (by decide)
      rw [List.intercalate_cons_cons, List.append_assoc, lines, linesFrom_append hl,
        List.singleton_append, hfeed, ih hfilled hls]
      simp

end ClientGen.Text
