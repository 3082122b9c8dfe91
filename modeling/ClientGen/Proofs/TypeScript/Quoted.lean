import ClientGen.Package.Factory
import ClientGen.Proofs.Outcome
import ClientGen.Proofs.Text.Replace

/-!
# Quoted texts that are read back

A text without line breaks is read back from its quotes: the first quote that no backslash stands in
front of is the one that closes it, whatever stands behind. A key is quoted, unless it is an
identifier and stands for itself. So no two texts are written alike, neither as keys nor as
literals.

## Main definitions

* `ClientGen.TypeScript.IsUnbroken` : texts without line breaks.
* `ClientGen.TypeScript.readQuoted`, `ClientGen.TypeScript.unquote?` : reading a text in quotes.
* `ClientGen.TypeScript.ReadsBack` : what is written for a text is read back.

## Main results

* `ClientGen.TypeScript.escape_eq_replaceAll` : quotes are escaped after backslashes.
* `ClientGen.TypeScript.readQuoted_escape`, `ClientGen.TypeScript.unquote?_quoted` : a quoted text
  is read back.
* `ClientGen.TypeScript.readsBack_and_eq_of_isUnbroken` : keys, literals and addresses are read
  back, and each is written for one text only.
-/

namespace ClientGen.TypeScript

/-! ### Reading quoted texts -/

/-- Line feeds and carriage returns. -/
def isLineBreak (c : Char) : Bool := c == '\n' || c == '\r'

/-- The text has no line breaks. -/
def IsUnbroken (s : String) : Prop := ∀ c ∈ s.toList, isLineBreak c = false

instance (s : String) : Decidable (IsUnbroken s) :=
  List.decidableBAll (fun c => isLineBreak c = false) s.toList

/-- Reads on behind an opening quote: the text up to the closing quote, and what stands behind it. A
backslash makes a quote or a backslash part of the text; nothing else may stand behind one. -/
def readQuoted : List Char → Option (List Char × List Char)
  | [] => none
  | '\'' :: cs => some ([], cs)
  | '\\' :: '\'' :: cs => (readQuoted cs).map fun r => ('\'' :: r.1, r.2)
  | '\\' :: '\\' :: cs => (readQuoted cs).map fun r => ('\\' :: r.1, r.2)
  | c :: cs =>
    if c = '\\' ∨ isLineBreak c = true then none
    else (readQuoted cs).map fun r => (c :: r.1, r.2)

/-- The text that is written in quotes, if nothing stands around them. -/
def unquote? (s : String) : Option String :=
  match s.toList with
  | '\'' :: rest =>
    match readQuoted rest with
    | some (text, []) => some (String.ofList text)
    | _ => none
  | _ => none

/-! ### Escaped texts -/

/-- Escaping puts a backslash in front of all backslashes first, and of all quotes then: the second
step meets no quote that the first one has brought in. -/
theorem escape_eq_replaceAll (cs : List Char) : escape cs =
    Text.replaceAll ['\''] ['\\', '\''] (Text.replaceAll ['\\'] ['\\', '\\'] cs) := by
  simp only [Text.replaceAll_singleton]
  induction cs with
  | nil => rfl
  | cons c cs ih =>
    rw [escape, ih, List.flatMap_cons, List.flatMap_append]
    by_cases hbackslash : c = '\\'
    · simp [hbackslash]
    · by_cases hquote : c = '\''
      · simp [hquote]
      · simp [hbackslash, hquote]

theorem readQuoted_escaped {c : Char} (h : c = '\'' ∨ c = '\\') (cs : List Char) :
    readQuoted ('\\' :: c :: cs) = (readQuoted cs).map fun r => (c :: r.1, r.2) := by
  rcases h with rfl | rfl <;> rfl

theorem readQuoted_cons {c : Char} (hmark : ¬ (c = '\'' ∨ c = '\\')) (hc : isLineBreak c = false)
    (cs : List Char) : readQuoted (c :: cs) = (readQuoted cs).map fun r => (c :: r.1, r.2) := by
  conv_lhs => unfold readQuoted
  split <;> simp_all

/-- An escaped text is read up to the quote behind it. -/
theorem readQuoted_escape {cs : List Char} (h : ∀ c ∈ cs, isLineBreak c = false)
    (rest : List Char) : readQuoted (escape cs ++ '\'' :: rest) = some (cs, rest) := by
  induction cs with
  | nil => rfl
  | cons c cs ih =>
    obtain ⟨hc, hcs⟩ := List.forall_mem_cons.mp h
    rw [escape]
    split
    · rename_i hmark
      rw [List.cons_append, List.cons_append, readQuoted_escaped hmark, ih hcs]
      rfl
    · rename_i hmark
      rw [List.cons_append, readQuoted_cons hmark hc, ih hcs]
      rfl

theorem toList_quoted (s : String) : (quoted s).toList = '\'' :: (escape s.toList ++ ['\'']) := by
  rw [quoted, String.toList_ofList, List.cons_append]

/-- A quoted text is read back. -/
theorem unquote?_quoted {s : String} (h : IsUnbroken s) : unquote? (quoted s) = some s := by
  rw [unquote?, toList_quoted]
  simp only [readQuoted_escape h, String.ofList_toList]

/-- Only what starts with a quote is read as a text in quotes. -/
theorem head?_of_unquote? {s t : String} (h : unquote? s = some t) :
    s.toList.head? = some '\'' := by
  unfold unquote? at h
  split at h
  · rename_i rest hs
    rw [hs]
    rfl
  · cases h

/-! ### Keys -/

theorem withoutFinalBreak_of_isUnbroken {s : String} (h : IsUnbroken s) :
    withoutFinalBreak s.toList = s.toList := by
  rw [withoutFinalBreak, if_neg]
  intro hlast
  exact absurd (h _ (List.mem_of_getLast? hlast)) (by decide)

/-- A key stands for itself if it is an identifier, and is quoted if it is none. -/
theorem propertyKey_of_isUnbroken {s : String} (h : IsUnbroken s) :
    propertyKey s = if isIdentifier s.toList then s else quoted s := by
  rw [propertyKey, withoutFinalBreak_of_isUnbroken h]

/-- No identifier starts with a quote. -/
theorem unquote?_of_isIdentifier {s : String} (h : isIdentifier s.toList = true) :
    unquote? s = none := by
  cases hs : unquote? s with
  | none => rfl
  | some t =>
    obtain ⟨rest, hrest⟩ := List.head?_eq_some_iff.mp (head?_of_unquote? hs)
    rw [hrest, isIdentifier, Bool.and_eq_true] at h
    exact absurd h.1 (by decide)

/-- Texts that are written as one key are one. -/
theorem eq_of_propertyKey_eq {s t : String} (hs : IsUnbroken s) (ht : IsUnbroken t)
    (h : propertyKey s = propertyKey t) : s = t := by
  have hread := congrArg unquote? h
  rw [propertyKey_of_isUnbroken hs, propertyKey_of_isUnbroken ht] at h hread
  by_cases hsid : isIdentifier s.toList = true
  · by_cases htid : isIdentifier t.toList = true
    · rwa [if_pos hsid, if_pos htid] at h
    · rw [if_pos hsid, if_neg htid, unquote?_of_isIdentifier hsid, unquote?_quoted ht] at hread
      cases hread
  · by_cases htid : isIdentifier t.toList = true
    · rw [if_neg hsid, if_pos htid, unquote?_of_isIdentifier htid, unquote?_quoted hs] at hread
      cases hread
    · rw [if_neg hsid, if_neg htid, unquote?_quoted hs, unquote?_quoted ht] at hread
      exact Option.some.inj hread

/-! ### Keys, literals and addresses -/

/-- The literal for a text is the text. -/
theorem ofValue_text (s : String) : Literal.ofValue (.text s) = .ok (.text s) := rfl

/-- The first line of the function that makes clients has the default address in quotes. -/
theorem openingLines_eq (m : Package.Factory) : ∃ lines, m.openingLines =
    String.ofList ("export function createClient(\x7b apiKey, authToken, baseURL = '".toList ++
      (escape m.baseUrl.toList ++
        '\'' :: (" \x7d: " ++ m.configName ++ " = \x7b\x7d) \x7b").toList)) :: lines := by
  refine ⟨_, congrArg (· :: _) ?_⟩
  rw [← String.toList_inj, String.toList_ofList]
  simp [toList_quoted]

/-- What is written for a text is read back. -/
structure ReadsBack (s : String) : Prop where
  /-- The key for the text is the text, if that is an identifier, and is read back otherwise. -/
  key : if isIdentifier s.toList then propertyKey s = s else unquote? (propertyKey s) = some s
  /-- The literal for the text is read back. -/
  literal : ∃ l, Literal.ofValue (.text s) = .ok l ∧ unquote? l.write = some s
  /-- The default address of a client is read back from the line that it stands in, up to the
  closing quote. -/
  address : ∀ configName wrapper functions, ∃ line lines quotation,
    Package.Factory.openingLines ⟨configName, s, wrapper, functions⟩ = line :: lines ∧
    line.toList = "export function createClient(\x7b apiKey, authToken, baseURL = '".toList ++
      quotation ∧
    readQuoted quotation = some (s.toList, (" \x7d: " ++ configName ++ " = \x7b\x7d) \x7b").toList)

theorem readsBack_of_isUnbroken {s : String} (h : IsUnbroken s) : ReadsBack s where
  key := by
    rw [propertyKey_of_isUnbroken h]
    split
    · rfl
    · exact unquote?_quoted h
  literal := ⟨.text s, ofValue_text s, unquote?_quoted h⟩
  address configName wrapper functions := by
    obtain ⟨lines, hlines⟩ := openingLines_eq ⟨configName, s, wrapper, functions⟩
    exact ⟨_, lines, _, hlines, String.toList_ofList, readQuoted_escape h _⟩

/-- **Quoting loses nothing.** What is written for texts without line breaks is read back, as a key,
as a literal and as an address, and texts that are written as one key or one literal are one. -/
theorem readsBack_and_eq_of_isUnbroken {s t : String} (hs : IsUnbroken s) (ht : IsUnbroken t) :
    ReadsBack s ∧ ReadsBack t ∧ (propertyKey s = propertyKey t → s = t) ∧
      ((Literal.text s).write = (Literal.text t).write → s = t) := by
  refine ⟨readsBack_of_isUnbroken hs, readsBack_of_isUnbroken ht, eq_of_propertyKey_eq hs ht,
    fun h => ?_⟩
  have hread := congrArg unquote? h
  rw [Literal.write, Literal.write, unquote?_quoted hs, unquote?_quoted ht] at hread
  exact Option.some.inj hread

/-- Two texts that differ in a backslash in front of a quote, and end with a backslash. -/
theorem readsBack_and_eq_of_isUnbroken_backslashes :
    IsUnbroken "it's \\" ∧ IsUnbroken "it\\'s \\" ∧
      ReadsBack "it's \\" ∧ ReadsBack "it\\'s \\" ∧
      (propertyKey "it's \\" = propertyKey "it\\'s \\" → "it's \\" = "it\\'s \\") ∧
      ((Literal.text "it's \\").write = (Literal.text "it\\'s \\").write →
        "it's \\" = "it\\'s \\") := by
  have hs : IsUnbroken "it's \\" := by decide
  have ht : IsUnbroken "it\\'s \\" := by decide
  exact ⟨hs, ht, readsBack_and_eq_of_isUnbroken hs ht⟩

end ClientGen.TypeScript
