import Mathlib.Algebra.GroupWithZero.Nat
import ClientGen.Proofs.Outcome
import ClientGen.Proofs.Text.Cutting
import ClientGen.Proofs.Text.Replace
import ClientGen.Proofs.TypeScript.Identifiers
import ClientGen.Proofs.TypeScript.Names
import ClientGen.TypeScript.Comment

/-!
# Marks that end comments

A comment ends at the first mark of an asterisk and a slash. A text that is made safe for comments
has none, and neither have its lines. The text of a type has as many as the texts that the type
quotes: quoting keeps them, and nothing else in a type brings one in.

## Main definitions

* `ClientGen.Text.endMarks`, `ClientGen.Text.totalMarks` : how often the mark stands in a text, and
  in all of some texts.
* `ClientGen.Text.IsSpacer` : texts that keep marks apart.
* `ClientGen.TypeScript.TypeExpr.quotes` : the texts that a type quotes.

## Main results

* `ClientGen.Text.IsSpacer.endMarks_between`, `ClientGen.Text.endMarks_intercalate` : marks in texts
  that are kept apart.
* `ClientGen.TypeScript.endMarks_commentText`, `ClientGen.TypeScript.endMarks_of_mem_docLines` :
  texts that are made safe have none.
* `ClientGen.TypeScript.endMarks_text` : the marks in the text of a type.
-/

namespace ClientGen.Text

/-! ### Counting marks -/

/-- How often the mark that ends a comment stands in a text. -/
def endMarks : List Char → Nat
  | [] => 0
  | c :: cs => (if c = '*' ∧ cs.head? = some '/' then 1 else 0) + endMarks cs

variable {c : Char} {cs ds : List Char}

@[simp]
theorem endMarks_nil : endMarks [] = 0 := rfl

theorem endMarks_cons_of_ne (h : c ≠ '*') : endMarks (c :: cs) = endMarks cs := by
  rw [endMarks, if_neg fun hc => h hc.1, Nat.zero_add]

theorem endMarks_cons_of_head?_ne (h : cs.head? ≠ some '/') :
    endMarks (c :: cs) = endMarks cs := by
  rw [endMarks, if_neg fun hc => h hc.2, Nat.zero_add]

/-- No mark is made of two texts, if the first ends with no asterisk or the second starts with no
slash. -/
theorem endMarks_append (h : cs.getLast? ≠ some '*' ∨ ds.head? ≠ some '/') :
    endMarks (cs ++ ds) = endMarks cs + endMarks ds := by
  induction cs with
  | nil => rw [List.nil_append, endMarks_nil, Nat.zero_add]
  | cons c cs ih =>
    rw [List.cons_append, endMarks, endMarks]
    cases cs with
    | nil =>
      have hmark : ¬ (c = '*' ∧ ds.head? = some '/') := fun hc =>
        h.elim (fun hstar => hstar (congrArg some hc.1)) fun hslash => hslash hc.2
      simp [hmark]
    | cons d cs =>
      rw [ih (by rwa [List.getLast?_cons_cons] at h), Nat.add_assoc]
      rfl

theorem endMarks_eq_zero_of_not_mem (h : '*' ∉ cs) : endMarks cs = 0 := by
  induction cs with
  | nil => rfl
  | cons c cs ih =>
    have hc : c ≠ '*' := fun hc => h (hc ▸ List.mem_cons_self)
    rw [endMarks_cons_of_ne hc, ih fun hmem => h (List.mem_cons_of_mem c hmem)]

theorem endMarks_le_cons : endMarks cs ≤ endMarks (c :: cs) := Nat.le_add_left _ _

/-- A text has at least the marks of its parts. -/
theorem endMarks_add_le_append (cs ds : List Char) :
    endMarks cs + endMarks ds ≤ endMarks (cs ++ ds) := by
  induction cs with
  | nil => simp
  | cons c cs ih =>
    have hhead : (if c = '*' ∧ cs.head? = some '/' then 1 else 0) ≤
        if c = '*' ∧ (cs ++ ds).head? = some '/' then 1 else 0 := by
      cases cs with
      | nil => simp
      | cons d cs => simp
    rw [List.cons_append, endMarks, endMarks]
    omega

theorem endMarks_eq_zero_of_append (h : endMarks (cs ++ ds) = 0) :
    endMarks cs = 0 ∧ endMarks ds = 0 := by
  have hle := endMarks_add_le_append cs ds
  omega

/-- Words have no marks. -/
theorem endMarks_of_isWordChar (h : ∀ c ∈ cs, TypeScript.isWordChar c = true) :
    endMarks cs = 0 :=
  endMarks_eq_zero_of_not_mem fun hmem => absurd (h _ hmem) (by decide)

/-- A text that keeps marks apart: it has none itself, and makes none with what stands around it. -/
def IsSpacer (s : String) : Prop :=
  s ≠ "" ∧ s.toList.head? ≠ some '/' ∧ s.toList.getLast? ≠ some '*' ∧ endMarks s.toList = 0

instance (s : String) : Decidable (IsSpacer s) := inferInstanceAs (Decidable (_ ∧ _ ∧ _ ∧ _))

namespace IsSpacer

variable {s : String}

theorem endMarks_between (h : IsSpacer s) (cs ds : List Char) :
    endMarks (cs ++ (s.toList ++ ds)) = endMarks cs + endMarks ds := by
  obtain ⟨hne, hslash, hstar, hnone⟩ := h
  have hhead : (s.toList ++ ds).head? ≠ some '/' := by
    cases hs : s.toList with
    | nil => exact absurd (String.toList_eq_nil_iff.mp hs) hne
    | cons c cs => rwa [hs] at hslash
  rw [Text.endMarks_append (.inr hhead), Text.endMarks_append (.inl hstar), hnone, Nat.zero_add]

theorem endMarks_append (h : IsSpacer s) (cs : List Char) :
    endMarks (cs ++ s.toList) = endMarks cs := by
  simpa using h.endMarks_between cs []

theorem endMarks_prepend (h : IsSpacer s) (cs : List Char) :
    endMarks (s.toList ++ cs) = endMarks cs := by
  simpa using h.endMarks_between [] cs

/-- A text between two that keep marks apart has its own marks. -/
theorem endMarks_enclose {t : String} (h : IsSpacer s) (ht : IsSpacer t) (u : String) :
    endMarks (s ++ u ++ t).toList = endMarks u.toList := by
  rw [String.toList_append, String.toList_append, ht.endMarks_append, h.endMarks_prepend]

end IsSpacer

/-- How often the mark stands in all of some texts. -/
def totalMarks (ss : List String) : Nat := (ss.map fun s => endMarks s.toList).sum

@[simp]
theorem totalMarks_nil : totalMarks [] = 0 := rfl

@[simp]
theorem totalMarks_cons (s : String) (ss : List String) :
    totalMarks (s :: ss) = endMarks s.toList + totalMarks ss := rfl

@[simp]
theorem totalMarks_append (ss ts : List String) :
    totalMarks (ss ++ ts) = totalMarks ss + totalMarks ts := by
  simp [totalMarks]

theorem totalMarks_eq_zero {ss : List String} :
    totalMarks ss = 0 ↔ ∀ s ∈ ss, endMarks s.toList = 0 := by
  induction ss with
  | nil => simp
  | cons s ss ih => rw [totalMarks_cons, Nat.add_eq_zero_iff, ih, List.forall_mem_cons]

/-- Texts that are kept apart have the marks that each of them has. -/
theorem endMarks_intercalate {separator : String} (h : IsSpacer separator) (ss : List String) :
    endMarks (separator.intercalate ss).toList = totalMarks ss := by
  rw [String.toList_intercalate]
  induction ss with
  | nil => rfl
  | cons s ss ih =>
    cases ss with
    | nil => simp
    | cons t ss =>
      rw [List.map_cons, List.map_cons, List.intercalate_cons_cons, List.append_assoc,
        h.endMarks_between, totalMarks_cons, ← ih, List.map_cons]

/-- Lines have the marks that each of them has. -/
theorem endMarks_unlines (ls : List String) : endMarks (unlines ls).toList = totalMarks ls := by
  have hspacer : IsSpacer "\n" := by decide
  rw [unlines, String.toList_join, List.flatMap_map]
  induction ls with
  | nil => rfl
  | cons l ls ih =>
    rw [List.flatMap_cons, String.toList_append, List.append_assoc, hspacer.endMarks_between, ih,
      totalMarks_cons]

/-! ### Lines and trimming -/

theorem endMarks_of_mem_linesFrom {line : List Char} (h : endMarks (line.reverse ++ cs) = 0) :
    ∀ l ∈ linesFrom line cs, endMarks l = 0 := by
  fun_induction linesFrom line cs with
  | case1 line hline => exact List.forall_mem_nil _
  | case2 line hline => simpa using h
  | case3 line rest ih =>
    obtain ⟨hline, hrest⟩ := endMarks_eq_zero_of_append h
    refine List.forall_mem_cons.mpr ⟨hline, ih ?_⟩
    rwa [endMarks_cons_of_ne (by decide), endMarks_cons_of_ne (by decide)] at hrest
  | case4 line c rest _ hc ih =>
    obtain ⟨hline, hrest⟩ := endMarks_eq_zero_of_append h
    exact List.forall_mem_cons.mpr
      ⟨hline, ih (Nat.le_zero.mp (hrest ▸ endMarks_le_cons))⟩
  | case5 line c rest _ hc ih =>
    rw [List.reverse_cons, List.append_assoc, List.singleton_append] at ih
    exact ih h

/-- The lines of a text without marks have none. -/
theorem endMarks_of_mem_lines (h : endMarks cs = 0) : ∀ l ∈ lines cs, endMarks l = 0 :=
  endMarks_of_mem_linesFrom ((congrArg endMarks (List.nil_append cs)).trans h)

theorem endMarks_trimRight {s : String} (h : endMarks s.toList = 0) :
    endMarks (trimRight s).toList = 0 := by
  rw [trimRight, String.toList_ofList]
  obtain ⟨tail, htail⟩ := dropTail_isPrefix isBlank s.toList
  rw [← htail] at h
  exact (endMarks_eq_zero_of_append h).1

end ClientGen.Text

namespace ClientGen.TypeScript

open ClientGen.Text

/-! ### Texts in comments -/

/-- What stands in the place of a mark. -/
def brokenMark : List Char := "*\\/".toList

theorem replaceAll_mark (cs : List Char) : replaceAll "*/".toList brokenMark ('*' :: '/' :: cs) =
    brokenMark ++ replaceAll "*/".toList brokenMark cs := rfl

theorem replaceAll_cons {c : Char} {cs : List Char} (h : ¬ (c = '*' ∧ cs.head? = some '/')) :
    replaceAll "*/".toList brokenMark (c :: cs) =
      c :: replaceAll "*/".toList brokenMark cs := by
  refine replaceAll_cons_of_not_isPrefix ?_
  rintro ⟨rest, hrest⟩
  obtain ⟨rfl, rfl⟩ := List.cons_eq_cons.mp hrest
  exact h ⟨rfl, rfl⟩

theorem head?_replaceAll (cs : List Char) :
    (replaceAll "*/".toList brokenMark cs).head? = cs.head? := by
  cases cs with
  | nil => rfl
  | cons c cs =>
    by_cases h : c = '*' ∧ cs.head? = some '/'
    · obtain ⟨rfl, hslash⟩ := h
      obtain ⟨ds, rfl⟩ := List.head?_eq_some_iff.mp hslash
      rfl
    · rw [replaceAll_cons h]
      rfl

theorem endMarks_replaceAll : (cs : List Char) →
    endMarks (replaceAll "*/".toList brokenMark cs) = 0
  | [] => rfl
  | [c] => by
    rw [replaceAll_cons (by simp)]
    exact endMarks_cons_of_head?_ne nofun
  | c :: d :: cs => by
    by_cases h : c = '*' ∧ d = '/'
    · obtain ⟨rfl, rfl⟩ := h
      have hbroken (ds : List Char) : endMarks (brokenMark ++ ds) = endMarks ds := by
        change endMarks ('*' :: '\\' :: '/' :: ds) = _
        rw [endMarks_cons_of_head?_ne (by simp), endMarks_cons_of_ne (by decide),
          endMarks_cons_of_ne (by decide)]
      rw [replaceAll_mark, hbroken]
      exact endMarks_replaceAll cs
    · have hmark : ¬ (c = '*' ∧ (d :: cs).head? = some '/') := by simpa using h
      rw [replaceAll_cons hmark, endMarks, head?_replaceAll, if_neg hmark, Nat.zero_add]
      exact endMarks_replaceAll (d :: cs)

/-- A text inside a comment does not end it. -/
theorem endMarks_commentText (text : String) : endMarks (commentText text).toList = 0 := by
  rw [commentText, String.toList_ofList]
  exact endMarks_replaceAll _

theorem endMarks_docLine {line : List Char} (h : endMarks line = 0) :
    endMarks (docLine line).toList = 0 := by
  refine endMarks_trimRight ?_
  rw [String.toList_ofList]
  change endMarks (' ' :: '*' :: ' ' :: line) = 0
  rw [endMarks_cons_of_ne (by decide), endMarks_cons_of_head?_ne (by simp),
    endMarks_cons_of_ne (by decide), h]

/-- Trimming its end leaves a line its asterisk. -/
theorem prefix_docLine (line : List Char) : " *".toList <+: (docLine line).toList := by
  have hparts : (docLine line).toList = dropTail isBlank (" *".toList ++ ' ' :: line) := by
    rw [docLine, trimRight, String.toList_ofList, String.toList_ofList]
    rfl
  rw [hparts]
  by_cases hrest : dropTail isBlank (' ' :: line) = []
  · rw [dropTail_append_of_eq_nil hrest]
    exact List.prefix_rfl
  · rw [dropTail_append_of_ne_nil hrest]
    exact List.prefix_append _ _

theorem isLineEnd_of_mem_docLine {line : List Char} (h : ∀ c ∈ line, isLineEnd c = false) :
    ∀ c ∈ (docLine line).toList, isLineEnd c = false := by
  have hall : " * ".toList.all (!isLineEnd ·) = true := by decide
  have hstart : ∀ c ∈ " * ".toList, isLineEnd c = false := fun c hc => by
    simpa using List.all_eq_true.mp hall c hc
  intro c hc
  rw [docLine, trimRight, String.toList_ofList, String.toList_ofList] at hc
  exact List.forall_mem_append.mpr ⟨hstart, h⟩ c ((dropTail_isPrefix _ _).mem hc)

/-- The lines inside a comment of several lines are those of the text in it, each made one. -/
theorem exists_of_mem_docLines {text line : String} (h : line ∈ docLines text) :
    ∃ cs, (∀ c ∈ cs, isLineEnd c = false) ∧ endMarks cs = 0 ∧ line = docLine cs := by
  unfold docLines at h
  split at h
  · exact ⟨[], List.forall_mem_nil _, rfl, List.mem_singleton.mp h⟩
  · obtain ⟨cs, hcs, rfl⟩ := List.mem_map.mp h
    exact ⟨cs, isLineEnd_of_mem_lines cs hcs,
      endMarks_of_mem_lines (endMarks_commentText text) cs hcs, rfl⟩

/-- No line of a text inside a comment ends it. -/
theorem endMarks_of_mem_docLines (text : String) :
    ∀ l ∈ docLines text, endMarks l.toList = 0 := by
  intro line hline
  obtain ⟨cs, -, hcs, rfl⟩ := exists_of_mem_docLines hline
  exact endMarks_docLine hcs

/-! ### Literals and keys -/

theorem head?_escape_ne {cs : List Char} (h : cs.head? ≠ some '/') :
    (escape cs).head? ≠ some '/' := by
  cases cs with
  | nil => nofun
  | cons c cs =>
    rw [escape]
    split
    · simp
    · exact h

theorem endMarks_escape (cs : List Char) : endMarks (escape cs) = endMarks cs := by
  induction cs with
  | nil => rfl
  | cons c cs ih =>
    rw [escape]
    split
    · rename_i hc
      have hstar : c ≠ '*' := by rintro rfl; exact absurd hc (by decide)
      rw [endMarks_cons_of_ne (by decide), endMarks_cons_of_ne hstar, endMarks_cons_of_ne hstar, ih]
    · by_cases hslash : cs.head? = some '/'
      · obtain ⟨ds, rfl⟩ := List.head?_eq_some_iff.mp hslash
        rw [endMarks, endMarks, ih]
        rfl
      · rw [endMarks_cons_of_head?_ne hslash, endMarks_cons_of_head?_ne (head?_escape_ne hslash),
          ih]

/-- Quoting keeps marks. -/
theorem endMarks_quoted (s : String) : endMarks (quoted s).toList = endMarks s.toList := by
  have hspacer : IsSpacer "'" := by decide
  have hquotes : (quoted s).toList = "'".toList ++ (escape s.toList ++ "'".toList) := by
    rw [quoted, String.toList_ofList]
    rfl
  rw [hquotes, hspacer.endMarks_prepend, hspacer.endMarks_append, endMarks_escape]

theorem endMarks_propertyKey (name : String) :
    endMarks (propertyKey name).toList = endMarks name.toList := by
  unfold propertyKey
  split
  · rfl
  · exact endMarks_quoted name

/-! ### Numbers -/

/-- The characters in which numbers are written. -/
def isNumeral (c : Char) : Bool := c.isAlphanum || c == '.' || c == '+' || c == '-'

theorem isNumeral_of_mem_toDigits (n : Nat) : ∀ c ∈ Nat.toDigits 10 n, isNumeral c = true := by
  intro c hc
  have hdigit := Nat.isDigit_of_mem_toDigits (by decide) (by decide) hc
  simp [isNumeral, Char.isAlphanum, hdigit]

theorem isNumeral_of_mem_replicate (n : Nat) : ∀ c ∈ List.replicate n '0', isNumeral c = true :=
  fun _ hc => (List.eq_of_mem_replicate hc) ▸ rfl

theorem isNumeral_of_mem_inPlace (d : Decimal.Digits) : ∀ c ∈ d.inPlace, isNumeral c = true := by
  have hdigits := isNumeral_of_mem_toDigits d.value
  unfold Decimal.Digits.inPlace
  dsimp only
  split
  · refine List.forall_mem_cons.mpr ⟨rfl, List.forall_mem_cons.mpr ⟨rfl, ?_⟩⟩
    exact List.forall_mem_append.mpr ⟨isNumeral_of_mem_replicate _, hdigits⟩
  · split
    · refine List.forall_mem_append.mpr ⟨List.forall_mem_append.mpr ⟨hdigits, ?_⟩, ?_⟩
      · exact isNumeral_of_mem_replicate _
      · exact List.all_eq_true.mp rfl
    · refine List.forall_mem_append.mpr ⟨fun c hc => hdigits c (List.mem_of_mem_take hc), ?_⟩
      exact List.forall_mem_cons.mpr ⟨rfl, fun c hc => hdigits c (List.mem_of_mem_drop hc)⟩

theorem isNumeral_of_mem_scientific (n : Nat) (d : Decimal.Digits) :
    ∀ c ∈ d.scientific n, isNumeral c = true := by
  have hdigits := isNumeral_of_mem_toDigits d.value
  unfold Decimal.Digits.scientific
  dsimp only
  refine List.forall_mem_append.mpr ⟨?_, List.forall_mem_cons.mpr ⟨rfl, ?_⟩⟩
  · split
    · exact List.forall_mem_nil _
    · rename_i hvalue
      exact hvalue ▸ hdigits
    · rename_i c cs _ hvalue
      rw [show Nat.toDigits 10 d.value = c :: cs from hvalue] at hdigits
      obtain ⟨hc, hcs⟩ := List.forall_mem_cons.mp hdigits
      exact List.forall_mem_cons.mpr ⟨hc, List.forall_mem_cons.mpr ⟨rfl, hcs⟩⟩
  · refine List.forall_mem_cons.mpr ⟨by split <;> rfl, List.forall_mem_append.mpr ⟨?_, ?_⟩⟩
    · exact isNumeral_of_mem_replicate _
    · exact isNumeral_of_mem_toDigits _

theorem isNumeral_of_mem_write (x : Float) :
    ∀ c ∈ (Decimal.document.write x).toList, isNumeral c = true := by
  unfold Decimal.Layout.write
  dsimp only
  split
  · exact List.all_eq_true.mp rfl
  · have hsign : ∀ c ∈ (if Nat.pow 2 63 ≤ x.toBits.toNat then "-" else "").toList,
        isNumeral c = true := by
      split <;> exact List.all_eq_true.mp rfl
    split
    · rw [String.toList_append]
      exact List.forall_mem_append.mpr ⟨hsign, List.all_eq_true.mp rfl⟩
    · split
      · rw [String.toList_append]
        exact List.forall_mem_append.mpr ⟨hsign, List.all_eq_true.mp rfl⟩
      · rw [String.toList_append, String.toList_ofList]
        refine List.forall_mem_append.mpr ⟨hsign, ?_⟩
        split
        · exact isNumeral_of_mem_inPlace _
        · exact isNumeral_of_mem_scientific _ _

theorem isNumeral_of_mem_repr (n : Int) : ∀ c ∈ (toString n).toList, isNumeral c = true := by
  rw [Int.toString_eq_repr, Int.repr_eq_if]
  split
  · rw [Nat.toList_repr]
    exact isNumeral_of_mem_toDigits _
  · rw [String.toList_append, Nat.toList_repr]
    exact List.forall_mem_append.mpr ⟨List.all_eq_true.mp rfl, isNumeral_of_mem_toDigits _⟩

theorem endMarks_of_isNumeral {cs : List Char} (h : ∀ c ∈ cs, isNumeral c = true) :
    endMarks cs = 0 :=
  endMarks_eq_zero_of_not_mem fun hmem => absurd (h _ hmem) (by decide)

/-! ### Types -/

/-- The text of a literal that is one. -/
def Literal.text? : Literal → Option String
  | text s => some s
  | _ => none

mutual

/-- The texts that a type quotes: literals and the keys of objects. -/
def TypeExpr.quotes : TypeExpr → List String
  | array t => quotes t
  | record t => quotes t
  | literals ls => ls.filterMap Literal.text?
  | object ms => memberQuotes ms
  | _ => []

/-- The texts that the members of an object quote. -/
def TypeExpr.memberQuotes : List (String × Bool × TypeExpr) → List String
  | [] => []
  | (name, _, t) :: ms => name :: quotes t ++ memberQuotes ms

end

theorem endMarks_write (l : Literal) : endMarks l.write.toList = totalMarks l.text?.toList := by
  cases l with
  | text s => exact endMarks_quoted s
  | int n => exact endMarks_of_isNumeral (isNumeral_of_mem_repr n)
  | float x => exact endMarks_of_isNumeral (isNumeral_of_mem_write x)
  | bool b => cases b <;> rfl
  | null => rfl

theorem totalMarks_map_write (ls : List Literal) :
    totalMarks (ls.map Literal.write) = totalMarks (ls.filterMap Literal.text?) := by
  induction ls with
  | nil => rfl
  | cons l ls ih =>
    rw [List.map_cons, totalMarks_cons, endMarks_write, ih, List.filterMap_cons]
    cases l.text? <;> simp

/-- A key brings its own marks to a member of an object. -/
theorem endMarks_memberHead (name : String) (required : Bool) (cs : List Char) :
    endMarks ((TypeExpr.memberHead name required).toList ++ cs) =
      endMarks name.toList + endMarks cs := by
  have hrequired : IsSpacer ": " := by decide
  have hoptional : IsSpacer "?: " := by decide
  rw [← endMarks_propertyKey]
  cases required with
  | true =>
    have hhead : TypeExpr.memberHead name true = propertyKey name ++ ": " := by
      simp [TypeExpr.memberHead]
    rw [hhead, String.toList_append, List.append_assoc, hrequired.endMarks_between]
  | false =>
    have hhead : TypeExpr.memberHead name false = propertyKey name ++ "?: " := by
      simp [TypeExpr.memberHead, String.append_assoc]
    rw [hhead, String.toList_append, List.append_assoc, hoptional.endMarks_between]

mutual

/-- The text of a type has the marks of the texts that the type quotes, if no mark is in the name of
a declaration. -/
theorem endMarks_text : (t : TypeExpr) → (∀ n ∈ t.models, endMarks n.toList = 0) →
    endMarks t.text.toList = totalMarks t.quotes
  | .any, _ | .void, _ | .unknown, _ | .number, _ | .string, _ | .boolean, _ => rfl
  | .model name, h => h name (List.mem_singleton_self name)
  | .array t, h => by
    have hopening : IsSpacer "Array<" := by decide
    rw [TypeExpr.text, TypeExpr.quotes, ← endMarks_text t h,
      hopening.endMarks_enclose (by decide)]
  | .record t, h => by
    have hopening : IsSpacer "Record<string, " := by decide
    rw [TypeExpr.text, TypeExpr.quotes, ← endMarks_text t h,
      hopening.endMarks_enclose (by decide)]
  | .literals ls, _ => by
    rw [TypeExpr.text, TypeExpr.quotes, ← totalMarks_map_write]
    exact endMarks_intercalate (by decide) _
  | .object ms, h => by
    have hopening : IsSpacer "\x7b " := by decide
    rw [TypeExpr.text, TypeExpr.quotes, ← totalMarks_memberTexts ms h,
      hopening.endMarks_enclose (by decide), endMarks_intercalate (by decide)]

theorem totalMarks_memberTexts : (ms : List (String × Bool × TypeExpr)) →
    (∀ n ∈ TypeExpr.memberModels ms, endMarks n.toList = 0) →
    totalMarks (TypeExpr.memberTexts ms) = totalMarks (TypeExpr.memberQuotes ms)
  | [], _ => rfl
  | (name, required, t) :: ms, h => by
    obtain ⟨ht, hms⟩ := List.forall_mem_append.mp h
    rw [TypeExpr.memberTexts, TypeExpr.memberQuotes, totalMarks_cons, String.toList_append,
      endMarks_memberHead, endMarks_text t ht, totalMarks_memberTexts ms hms, List.cons_append,
      totalMarks_cons, totalMarks_append, Nat.add_assoc]

end

end ClientGen.TypeScript
