import Mathlib.Data.List.Nodup
import ClientGen.Json.Reader
import ClientGen.Json.Writer
import ClientGen.Proofs.Value.Parts

/-!
# Objects of texts in JSON

An object whose entries are texts is written in JSON, indented, and is read again as it was.

## Main results

* `ClientGen.Json.stringTail_escaped` : a text in quotes is read again.
* `ClientGen.Json.entries_entryText` : entries are read again, one after the other.
* `ClientGen.Json.read_write_ofFields` : objects of texts are read again.
-/

namespace ClientGen.Json

/-! ### Texts in quotes -/

/-- How a character stands inside a string. -/
inductive Escaped (c : Char) : List Char → Prop
  /-- A backslash and a character. -/
  | short {x : Char} (hx : x ≠ 'u') (h : escaped? x = some c) : Escaped c ['\\', x]
  /-- A backslash and the number of a control character. -/
  | long {x₁ x₂ x₃ x₄ : Char} (h : hex4? x₁ x₂ x₃ x₄ = some c.toNat) (hc : c.toNat < 0x20) :
      Escaped c ['\\', 'u', x₁, x₂, x₃, x₄]
  /-- The character itself. -/
  | plain (hquote : c ≠ '"') (hslash : c ≠ '\\') (hc : 0x20 ≤ c.toNat) : Escaped c [c]

theorem eq_of_toNat {c : Char} {n : Nat} (h : c.toNat = n) : c = Char.ofNat n := by
  rw [← h, Char.ofNat_toNat]

/-- Four digits write the number of a control character. -/
theorem hex4?_paddedHex : ∀ n < 0x20, ∃ x₁ x₂ x₃ x₄,
    paddedHex 4 n = [x₁, x₂, x₃, x₄] ∧ hex4? x₁ x₂ x₃ x₄ = some n := by
  have hread : ∀ n < 0x20, (paddedHex 4 n).length = 4 ∧
      hex4? ((paddedHex 4 n).getD 0 '0') ((paddedHex 4 n).getD 1 '0')
        ((paddedHex 4 n).getD 2 '0') ((paddedHex 4 n).getD 3 '0') = some n := by decide +kernel
  intro n hn
  obtain ⟨hlength, hread⟩ := hread n hn
  obtain ⟨x₁, x₂, x₃, x₄, hdigits⟩ := List.length_eq_four.mp hlength
  rw [hdigits] at hread
  exact ⟨x₁, x₂, x₃, x₄, hdigits, hread⟩

theorem escaped_escapeChar (c : Char) : Escaped c (escapeChar c) := by
  unfold escapeChar
  split
  · rename_i h
    rcases h with rfl | rfl <;> exact .short (by decide) rfl
  rename_i hmark
  split
  · rename_i h
    exact .short (by decide) (h ▸ rfl)
  split
  · rename_i h
    exact .short (by decide) (h ▸ rfl)
  split
  · rename_i h
    exact .short (by decide) (h ▸ rfl)
  split
  · rename_i h
    exact .short (by decide) (eq_of_toNat h ▸ rfl)
  split
  · rename_i h
    exact .short (by decide) (eq_of_toNat h ▸ rfl)
  split
  · rename_i hc
    obtain ⟨x₁, x₂, x₃, x₄, hdigits, h⟩ := hex4?_paddedHex c.toNat hc
    rw [hdigits]
    exact .long h hc
  · rename_i hc
    exact .plain (fun h => hmark (.inl h)) (fun h => hmark (.inr h)) (Nat.not_lt.mp hc)

theorem stringTail_of_escaped {c : Char} {cs : List Char} (h : Escaped c cs)
    (done rest : List Char) :
    stringTail none done (cs ++ rest) = stringTail none (c :: done) rest := by
  cases h with
  | @short x hx h =>
    rw [List.cons_append, List.cons_append, List.nil_append, stringTail, h]
    · rfl
    · exact fun _ _ _ _ _ hu _ => hx hu
  | long h hc =>
    have hhalf : isHighHalf c.toNat = false ∧ isLowHalf c.toNat = false := by
      simp only [isHighHalf, isLowHalf]
      constructor <;> simp <;> omega
    simp only [List.cons_append, List.nil_append, stringTail, h, addUnit, hhalf.1, unitChar,
      hhalf.2, Bool.or_self, Char.ofNat_toNat]
    rfl
  | plain hquote hslash hc =>
    rw [List.singleton_append, stringTail.eq_4]
    · rw [if_neg (Nat.not_lt.mpr hc)]
      rfl
    · exact hquote
    · exact fun _ _ _ _ _ h _ => hslash h
    · exact fun _ _ h _ => hslash h

/-- **A text in quotes is read again.** -/
theorem stringTail_escaped (cs done rest : List Char) :
    stringTail none done (cs.flatMap escapeChar ++ '"' :: rest) =
      .ok (String.ofList (done.reverse ++ cs), rest) := by
  induction cs generalizing done with
  | nil => simp [stringTail, settle]
  | cons c cs ih =>
    rw [List.flatMap_cons, List.append_assoc, stringTail_of_escaped (escaped_escapeChar c), ih,
      List.reverse_cons, List.append_assoc, List.singleton_append]

/-! ### Entries -/

/-- A text as it stands in an object. -/
def entryText (f : String × String) : List Char := (quote f.1 ++ ": " ++ quote f.2).toList

theorem toList_quote (s : String) :
    (quote s).toList = '"' :: (s.toList.flatMap escapeChar ++ ['"']) := by
  simp [quote]

theorem skip_entryText (f : String × String) (rest : List Char) :
    skip (entryText f ++ rest) = entryText f ++ rest := by
  simp [skip, entryText, toList_quote, isSpace]

variable {fuel depth : Nat} {rest : List Char}

theorem value_quote (s : String) :
    value (fuel + 1) depth ((quote s).toList ++ rest) = .ok (.text s, rest) := by
  rw [toList_quote, List.cons_append, List.append_assoc, List.singleton_append, value,
    stringTail_escaped, List.reverse_nil, List.nil_append, String.ofList_toList]
  rfl

theorem skip_quote (s : String) : skip (' ' :: ((quote s).toList ++ rest)) =
    (quote s).toList ++ rest := by
  simp [skip, toList_quote, isSpace]

theorem entryText_append (f : String × String) : entryText f ++ rest =
    '"' :: (f.1.toList.flatMap escapeChar ++
      '"' :: ':' :: ' ' :: ((quote f.2).toList ++ rest)) := by
  simp [entryText, toList_quote]

theorem skip_colon (cs : List Char) : skip (':' :: cs) = ':' :: cs := rfl

/-- An entry is read that is the last one. -/
theorem entries_last {cs : List Char} (done : List (Scalar × Value)) (f : String × String)
    (h : skip rest = '}' :: cs) : entries (fuel + 2) depth done (entryText f ++ rest) =
      .ok (.mapping (Table.ofEntries ((.text f.1, .text f.2) :: done).reverse), cs) := by
  rw [entryText_append, entries, stringTail_escaped]
  simp only [List.reverse_nil, List.nil_append, String.ofList_toList, skip_colon, skip_quote,
    value_quote, h]

/-- An entry is read that is not the last one. -/
theorem entries_more {cs : List Char} (done : List (Scalar × Value)) (f : String × String)
    (h : skip rest = ',' :: cs) : entries (fuel + 2) depth done (entryText f ++ rest) =
      entries (fuel + 1) depth ((.text f.1, .text f.2) :: done) (skip cs) := by
  rw [entryText_append, entries, stringTail_escaped]
  simp only [List.reverse_nil, List.nil_append, String.ofList_toList, skip_colon, skip_quote,
    value_quote, h]

/-- **Entries are read again**, one after the other. -/
theorem entries_entryText (f : String × String) (fs : List (String × String))
    (done : List (Scalar × Value)) :
    entries (fs.length + fuel + 2) depth done
        (",\n  ".toList.intercalate ((f :: fs).map entryText) ++ '\n' :: '}' :: rest) =
      .ok (.mapping (Table.ofEntries
        (done.reverse ++ (f :: fs).map fun f => (.text f.1, .text f.2))), rest) := by
  induction fs generalizing f done with
  | nil =>
    rw [List.map_singleton, List.intercalate_singleton, entries_last done f rfl]
    simp
  | cons g fs ih =>
    have hfuel : (g :: fs).length + fuel + 2 = (fs.length + fuel + 1) + 2 := by
      rw [List.length_cons]
      omega
    have hseparator (cs : List Char) :
        skip (",\n  ".toList ++ cs) = ',' :: '\n' :: ' ' :: ' ' :: cs := rfl
    have hblanks (cs : List Char) : skip ('\n' :: ' ' :: ' ' :: cs) = skip cs := rfl
    have hnext (cs : List Char) :
        skip (",\n  ".toList.intercalate ((g :: fs).map entryText) ++ cs) =
          ",\n  ".toList.intercalate ((g :: fs).map entryText) ++ cs := by
      cases fs <;> simp [List.intercalate_cons_cons, skip_entryText]
    rw [List.map_cons, List.map_cons, List.intercalate_cons_cons, ← List.map_cons,
      List.append_assoc, List.append_assoc, hfuel, entries_more done f (hseparator _), hblanks,
      hnext]
    refine (ih g _).trans ?_
    rw [List.reverse_cons, List.append_assoc]
    rfl

/-! ### Objects -/

theorem writeEntries_texts (style : Style) (depth : Nat) (fs : List (String × String)) :
    writeEntries style depth (fs.map fun f => (.text f.1, .text f.2)) =
      .ok (fs.map fun f => quote f.1 ++ ": " ++ quote f.2) := by
  induction fs with
  | nil => rfl
  | cons f fs ih =>
    rw [List.map_cons, writeEntries, ih]
    rfl

/-- The lines of an object with an entry, up to its last brace, and what follows it. -/
def objectText (f : String × String) (fs : List (String × String)) (rest : List Char) : List Char :=
  '{' :: '\n' :: ' ' :: ' ' ::
    (",\n  ".toList.intercalate ((f :: fs).map entryText) ++ '\n' :: '}' :: rest)

/-- An object with an entry is written between braces, one entry a line. -/
theorem toList_enclose (f : String × String) (fs : List (String × String)) :
    (Style.enclose .indented 0 "\x7b" "\x7d"
      ((f :: fs).map fun f => quote f.1 ++ ": " ++ quote f.2) ++ "\n").toList =
      objectText f fs ['\n'] := by
  have hstart : "\x7b".toList ++ (Style.lineBreak (0 + 1) .indented).toList =
      ['{', '\n', ' ', ' '] := by decide +kernel
  have hseparator : (Style.separator (0 + 1) .indented).toList = ",\n  ".toList := by decide +kernel
  have hend : (Style.lineBreak 0 .indented).toList ++ "\x7d".toList ++ "\n".toList =
      ['\n', '}', '\n'] := by decide +kernel
  rw [Style.enclose, if_neg (by simp)]
  simp only [String.toList_append, String.toList_intercalate, List.map_map]
  rw [hstart, hseparator, List.append_assoc _ _ "\x7d".toList, List.append_assoc, hend]
  rfl

/-- There are fewer entries than characters. -/
theorem length_lt_objectText (f : String × String) (fs : List (String × String)) :
    fs.length + 3 < (objectText f fs rest).length := by
  have hpos (f : String × String) : 0 < (entryText f).length := by simp [entryText, toList_quote]
  have hentries : fs.length < (",\n  ".toList.intercalate ((f :: fs).map entryText)).length := by
    induction fs generalizing f with
    | nil => simpa using hpos f
    | cons g fs ih =>
      rw [List.map_cons, List.map_cons, List.intercalate_cons_cons, ← List.map_cons]
      simp only [List.length_append, List.length_cons]
      have hg := ih g
      have hf := hpos f
      omega
  simp only [objectText, List.length_append, List.length_cons]
  omega

/-- An object is read between braces. -/
theorem value_objectText (f : String × String) {fs : List (String × String)}
    (hfuel : fs.length + 3 ≤ fuel) : value fuel 0 (objectText f fs rest) =
      .ok (.mapping (Table.ofEntries ((f :: fs).map fun f => (.text f.1, .text f.2))), rest) := by
  have hstart : ∃ cs, ",\n  ".toList.intercalate ((f :: fs).map entryText) = '"' :: cs := by
    cases fs with
    | nil => exact ⟨_, by simp [entryText, toList_quote]; rfl⟩
    | cons g fs => exact ⟨_, by simp [List.intercalate_cons_cons, entryText, toList_quote]; rfl⟩
  have hskip (cs : List Char) : skip ('\n' :: ' ' :: ' ' :: '"' :: cs) = '"' :: cs := rfl
  obtain ⟨n, rfl⟩ := Nat.exists_eq_add_of_le hfuel
  have hentries : entries (fs.length + n + 2) 1 [] _ = .ok (_, rest) := entries_entryText f fs []
  obtain ⟨cs, hcs⟩ := hstart
  rw [objectText]
  rw [hcs, List.cons_append] at hentries ⊢
  rw [Nat.add_right_comm, value, if_neg (by decide), hskip]
  exact hentries

/-- **Objects of texts** are written, and read again as they were. -/
theorem read_write_ofFields {fs : List (String × String)} (h : (fs.map Prod.fst).Nodup) :
    ∃ s, write .indented (.ofFields (fs.map fun f => (f.1, .text f.2))) = .ok s ∧
      read (s ++ "\n") = .ok (.ofFields (fs.map fun f => (f.1, .text f.2))) := by
  have hfields : Value.ofFields (fs.map fun f => (f.1, Value.text f.2)) =
      .mapping (fs.map fun f => (.text f.1, .text f.2)) := by
    rw [Value.ofFields, List.map_map]
    rfl
  have hkeys : (Table.keys (fs.map fun f => (Scalar.text f.1, Value.text f.2))).Nodup := by
    have htexts := h.map fun _ _ => Scalar.text.inj
    rw [List.map_map] at htexts
    rwa [Table.keys, List.map_map]
  rw [hfields]
  refine ⟨Style.enclose .indented 0 "\x7b" "\x7d" (fs.map fun f => quote f.1 ++ ": " ++ quote f.2),
    ?_, ?_⟩
  · rw [write, writeAt, writeEntries_texts]
    rfl
  cases fs with
  | nil => rfl
  | cons f fs =>
    have hlength : fs.length + 3 < (objectText f fs ['\n']).length := length_lt_objectText f fs
    have hskip : skip (objectText f fs ['\n']) = objectText f fs ['\n'] := rfl
    have hend : (skip ['\n']).isEmpty = true := rfl
    rw [read, ← String.length_toList, toList_enclose, hskip, value_objectText f (by omega),
      Table.ofEntries_of_nodup hkeys]
    simp only [hend, if_true]

end ClientGen.Json
