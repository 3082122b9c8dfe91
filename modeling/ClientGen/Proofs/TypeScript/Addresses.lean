import Mathlib.Data.List.Find
import ClientGen.Proofs.Text.Replace
import ClientGen.Proofs.TypeScript.Arguments

/-!
# Addresses

The address of a request is the path of the operation with variables for its parameters. They are
put in one after the other, and what is put in has braces of its own. So a variable is taken for a
placeholder if a later parameter has its name, and is replaced once more. Otherwise the address is
the path with all parameters replaced at once.

A path is read as a list of names in braces with single characters in between. On these both ways of
replacing are compared.

## Main definitions

* `ClientGen.TypeScript.interpolate` : a path with all parameters replaced at once.
* `ClientGen.TypeScript.replacedInTurn` : what becomes of a name in braces.

## Main results

* `ClientGen.TypeScript.braced_induction` : induction over the names in braces of a path.
* `ClientGen.TypeScript.inTurn_eq_interpolate_iff` : when both ways of replacing agree.
* `ClientGen.TypeScript.RequestFunction.url_eq_interpolate_iff` : the addresses of functions.
-/

namespace ClientGen.TypeScript

open Text

/-! ### Names in braces -/

/-- The character is a brace. -/
def isBrace (c : Char) : Bool := c == '\x7b' || c == '\x7d'

/-- No brace stands in the text. -/
def Braceless (cs : List Char) : Prop := ∀ c ∈ cs, isBrace c = false

instance decidableBraceless (cs : List Char) : Decidable (Braceless cs) :=
  decidable_of_iff (cs.all (!isBrace ·) = true) (by simp [Braceless])

/-- A name in braces. -/
def braced (name : List Char) : List Char := '\x7b' :: (name ++ ['\x7d'])

/-- The text starts with no name in braces. -/
def OpensNone (cs : List Char) : Prop := ∀ name, Braceless name → ¬ braced name <+: cs

variable {m name rest cs ds new : List Char} {c : Char}

theorem braced_ne_nil (name : List Char) : braced name ≠ [] := List.cons_ne_nil _ _

theorem Braceless.ne_opening (h : Braceless cs) : ∀ d ∈ cs ++ ['\x7d'], d ≠ '\x7b' := by
  refine List.forall_mem_append.mpr ⟨fun d hd hopening => ?_, by simp⟩
  rw [hopening] at hd
  exact absurd (h _ hd) (by decide)

theorem eq_of_append_closing_prefix (hname : Braceless name) (hm : Braceless m)
    (h : name ++ ['\x7d'] <+: m ++ '\x7d' :: rest) : name = m := by
  induction name generalizing m with
  | nil =>
    cases m with
    | nil => rfl
    | cons d m =>
      obtain ⟨rfl, -⟩ := List.cons_prefix_cons.mp h
      exact absurd (hm _ List.mem_cons_self) (by decide)
  | cons c name ih =>
    cases m with
    | nil =>
      obtain ⟨rfl, -⟩ := List.cons_prefix_cons.mp h
      exact absurd (hname _ List.mem_cons_self) (by decide)
    | cons d m =>
      obtain ⟨rfl, htail⟩ := List.cons_prefix_cons.mp h
      rw [ih (List.forall_mem_cons.mp hname).2 (List.forall_mem_cons.mp hm).2 htail]

/-- Behind the name that stands in braces at the start, no other one does. -/
theorem braced_prefix_iff (hname : Braceless name) (hm : Braceless m) (rest : List Char) :
    braced name <+: braced m ++ rest ↔ name = m := by
  constructor
  · intro h
    rw [braced, braced, List.cons_append, List.append_assoc] at h
    exact eq_of_append_closing_prefix hname hm (List.cons_prefix_cons.mp h).2
  · rintro rfl
    exact List.prefix_append _ _

/-- A text starts with no name in braces if it starts with no brace, or with one that is not closed
before the next one is opened. -/
theorem opensNone_cons_iff :
    OpensNone (c :: cs) ↔ (c = '\x7b' → cs.find? isBrace ≠ some '\x7d') := by
  constructor
  · rintro h rfl hclosing
    obtain ⟨-, before, after, rfl, hbefore⟩ := List.find?_eq_some_iff_append.mp hclosing
    have hbraceless : Braceless before := fun d hd => by simpa using hbefore d hd
    refine h before hbraceless ⟨after, ?_⟩
    simp [braced]
  · rintro h name hname ⟨rest, hrest⟩
    rw [braced, List.cons_append, List.append_assoc, List.cons.injEq] at hrest
    obtain ⟨rfl, rfl⟩ := hrest
    refine h rfl ?_
    rw [List.find?_append, List.find?_eq_none.mpr fun d hd => by simp [hname d hd]]
    rfl

theorem opensNone_of_ne (h : c ≠ '\x7b') (cs : List Char) : OpensNone (c :: cs) :=
  opensNone_cons_iff.mpr fun hc => absurd hc h

/-- A property of all texts, from a text to one with a name in braces in front, or with another
character. -/
@[elab_as_elim]
theorem braced_induction {motive : List Char → Prop} (nil : motive [])
    (char : ∀ c cs, OpensNone (c :: cs) → motive cs → motive (c :: cs))
    (braced : ∀ m rest, Braceless m → motive rest → motive (braced m ++ rest)) :
    (cs : List Char) → motive cs
  | [] => nil
  | c :: cs => by
    by_cases h : OpensNone (c :: cs)
    · exact char c cs h (braced_induction nil char braced cs)
    · obtain ⟨m, hm, rest, hrest⟩ : ∃ m, Braceless m ∧ TypeScript.braced m <+: c :: cs := by
        simpa [OpensNone] using h
      have hlength : rest.length ≤ cs.length := by
        have hall := congrArg List.length hrest
        rw [TypeScript.braced, List.cons_append, List.length_cons, List.length_cons,
          List.length_append] at hall
        omega
      rw [← hrest]
      exact braced m rest hm (braced_induction nil char braced rest)
  termination_by cs => cs.length

/-! ### Where a placeholder occurs -/

theorem infix_append_of_forall_ne (h : ∀ d ∈ cs, d ≠ '\x7b') :
    braced name <:+: cs ++ ds ↔ braced name <:+: ds := by
  induction cs with
  | nil => rfl
  | cons c cs ih =>
    obtain ⟨hc, hcs⟩ := List.forall_mem_cons.mp h
    have hstart : ¬ braced name <+: c :: (cs ++ ds) := fun hprefixed =>
      hc (List.cons_prefix_cons.mp hprefixed).1.symm
    rw [List.cons_append, List.infix_cons_iff, or_iff_right hstart, ih hcs]

theorem infix_braced_iff (hname : Braceless name) (hm : Braceless m) (rest : List Char) :
    braced name <:+: braced m ++ rest ↔ name = m ∨ braced name <:+: rest := by
  have hsplit : braced m ++ rest = '\x7b' :: ((m ++ ['\x7d']) ++ rest) := rfl
  rw [hsplit, List.infix_cons_iff, ← hsplit, braced_prefix_iff hname hm,
    infix_append_of_forall_ne hm.ne_opening]

theorem infix_cons_iff_of_opensNone (hname : Braceless name) (h : OpensNone (c :: cs)) :
    braced name <:+: c :: cs ↔ braced name <:+: cs := by
  rw [List.infix_cons_iff, or_iff_right (h name hname)]

/-! ### One placeholder -/

/-- Another name in braces stays. -/
theorem replaceAll_braced_of_ne (hname : Braceless name) (hm : Braceless m) (h : name ≠ m)
    (new rest : List Char) : replaceAll (braced name) new (braced m ++ rest) =
      braced m ++ replaceAll (braced name) new rest := by
  have hstart : ¬ braced name <+: braced m ++ rest :=
    fun hprefixed => h ((braced_prefix_iff hname hm rest).mp hprefixed)
  rw [braced.eq_1 m, List.cons_append] at hstart ⊢
  rw [replaceAll_cons_of_not_isPrefix hstart, List.cons_append]
  exact congrArg _ (replaceAll_append_of_forall_ne hm.ne_opening new rest)

/-- What is put in starts with a brace wherever a placeholder does. -/
theorem find?_isBrace_replaceAll (name value cs : List Char) :
    (replaceAll (braced name) ('$' :: braced value) cs).find? isBrace = cs.find? isBrace := by
  induction cs with
  | nil => rfl
  | cons c cs ih =>
    by_cases hstart : braced name <+: c :: cs
    · obtain ⟨rest, hrest⟩ := hstart
      rw [← hrest, replaceAll_append_self (braced_ne_nil name)]
      rfl
    · rw [replaceAll_cons_of_not_isPrefix hstart, List.find?_cons, List.find?_cons, ih]

theorem OpensNone.replaceAll (h : OpensNone (c :: cs)) (name value : List Char) :
    OpensNone (c :: replaceAll (braced name) ('$' :: braced value) cs) := by
  rw [opensNone_cons_iff, find?_isBrace_replaceAll]
  exact opensNone_cons_iff.mp h

/-! ### Placeholders in turn, and at once -/

namespace ParameterBinding

/-- What stands for the parameter in a path. -/
def placeholder (b : ParameterBinding) : List Char := braced b.parameter.name.toList

/-- What stands for the parameter in an address. -/
def filling (b : ParameterBinding) : List Char := '$' :: braced b.variableName.toList

/-- No brace stands in the name of the parameter, nor in that of the variable. -/
def IsBraceless (b : ParameterBinding) : Prop :=
  Braceless b.parameter.name.toList ∧ Braceless b.variableName.toList

end ParameterBinding

/-- The text with the placeholders of parameters replaced all at once; the next `passed` characters
belong to a placeholder that is replaced already. -/
def interpolateFrom (bs : List ParameterBinding) (passed : Nat) : List Char → List Char
  | [] => []
  | c :: cs =>
    match passed with
    | n + 1 => interpolateFrom bs n cs
    | 0 =>
      match bs.find? fun b => b.placeholder.isPrefixOf (c :: cs) with
      | some b => b.filling ++ interpolateFrom bs (b.placeholder.length - 1) cs
      | none => c :: interpolateFrom bs 0 cs

/-- The text with the placeholders of parameters replaced all at once. -/
def interpolate (bs : List ParameterBinding) (cs : List Char) : List Char :=
  interpolateFrom bs 0 cs

/-- The text with the placeholders of parameters replaced in turn. -/
def inTurn (bs : List ParameterBinding) (cs : List Char) : List Char :=
  bs.foldl (fun path b => replaceAll b.placeholder b.filling path) cs

/-- What becomes of a name in braces if placeholders are replaced all at once. -/
def replacedAtOnce (bs : List ParameterBinding) (m : List Char) : List Char :=
  match bs.find? fun b => b.parameter.name.toList = m with
  | some b => b.filling
  | none => braced m

/-- What becomes of a name in braces if placeholders are replaced in turn: the variable that is put
in stands in braces again. -/
def replacedInTurn : List ParameterBinding → List Char → List Char
  | [], m => braced m
  | b :: bs, m =>
    if b.parameter.name.toList = m then '$' :: replacedInTurn bs b.variableName.toList
    else replacedInTurn bs m

variable {bs : List ParameterBinding}

theorem inTurn_nil : (bs : List ParameterBinding) → inTurn bs [] = []
  | [] => rfl
  | _ :: bs => inTurn_nil bs

theorem inTurn_eq (b : ParameterBinding) (bs : List ParameterBinding) (cs : List Char) :
    inTurn (b :: bs) cs = inTurn bs (replaceAll b.placeholder b.filling cs) := rfl

/-- A character that starts no name in braces stays, and still starts none after a replacement. -/
theorem inTurn_cons (hbs : ∀ b ∈ bs, b.IsBraceless) (h : OpensNone (c :: cs)) :
    inTurn bs (c :: cs) = c :: inTurn bs cs := by
  induction bs generalizing cs with
  | nil => rfl
  | cons b bs ih =>
    obtain ⟨hb, hbs⟩ := List.forall_mem_cons.mp hbs
    have hstay : replaceAll b.placeholder b.filling (c :: cs) =
        c :: replaceAll b.placeholder b.filling cs := replaceAll_cons_of_not_isPrefix (h _ hb.1)
    rw [inTurn_eq, inTurn_eq, hstay]
    exact ih hbs (h.replaceAll _ _)

theorem inTurn_braced (hbs : ∀ b ∈ bs, b.IsBraceless) (hm : Braceless m) (rest : List Char) :
    inTurn bs (braced m ++ rest) = replacedInTurn bs m ++ inTurn bs rest := by
  induction bs generalizing m rest with
  | nil => rfl
  | cons b bs ih =>
    obtain ⟨hb, hbs⟩ := List.forall_mem_cons.mp hbs
    rw [inTurn_eq, inTurn_eq, replacedInTurn]
    by_cases hname : b.parameter.name.toList = m
    · have hfilled : replaceAll b.placeholder b.filling (braced m ++ rest) =
          '$' :: (braced b.variableName.toList ++ replaceAll b.placeholder b.filling rest) := by
        rw [ParameterBinding.placeholder, hname]
        exact replaceAll_append_self (braced_ne_nil m) _ _
      rw [if_pos hname, hfilled, inTurn_cons hbs (opensNone_of_ne (by decide) _), ih hbs hb.2,
        List.cons_append]
    · rw [if_neg hname, ParameterBinding.placeholder, replaceAll_braced_of_ne hb.1 hm hname]
      exact ih hbs hm _

/-- What belongs to a placeholder is passed over. -/
theorem interpolateFrom_append (bs : List ParameterBinding) (ds : List Char) :
    (cs : List Char) → interpolateFrom bs cs.length (cs ++ ds) = interpolate bs ds
  | [] => rfl
  | c :: cs => by
    rw [List.cons_append, List.length_cons, interpolateFrom]
    exact interpolateFrom_append bs ds cs

theorem interpolate_cons (hbs : ∀ b ∈ bs, b.IsBraceless) (h : OpensNone (c :: cs)) :
    interpolate bs (c :: cs) = c :: interpolate bs cs := by
  have hnone : (bs.find? fun b => b.placeholder.isPrefixOf (c :: cs)) = none :=
    List.find?_eq_none.mpr fun b hb hstart =>
      h _ (hbs b hb).1 (List.isPrefixOf_iff_prefix.mp hstart)
  rw [interpolate, interpolateFrom]
  simp only [hnone]
  rfl

theorem interpolate_append_of_forall_ne (hbs : ∀ b ∈ bs, b.IsBraceless)
    (h : ∀ d ∈ cs, d ≠ '\x7b') : interpolate bs (cs ++ ds) = cs ++ interpolate bs ds := by
  induction cs with
  | nil => rfl
  | cons c cs ih =>
    obtain ⟨hc, hcs⟩ := List.forall_mem_cons.mp h
    rw [List.cons_append, interpolate_cons hbs (opensNone_of_ne hc _), ih hcs, List.cons_append]

theorem interpolate_braced (hbs : ∀ b ∈ bs, b.IsBraceless) (hm : Braceless m) (rest : List Char) :
    interpolate bs (braced m ++ rest) = replacedAtOnce bs m ++ interpolate bs rest := by
  have hsplit : braced m ++ rest = '\x7b' :: ((m ++ ['\x7d']) ++ rest) := rfl
  have hfind : (bs.find? fun b => b.placeholder.isPrefixOf (braced m ++ rest)) =
      bs.find? fun b => b.parameter.name.toList = m := by
    refine List.find?_congr fun b hb => Bool.eq_iff_iff.mpr ?_
    rw [List.isPrefixOf_iff_prefix, decide_eq_true_iff]
    exact braced_prefix_iff (hbs b hb).1 hm rest
  rw [interpolate, replacedAtOnce]
  rw [hsplit] at hfind ⊢
  rw [interpolateFrom]
  simp only [hfind]
  split
  · rename_i b hb
    have hname : b.parameter.name.toList = m := by simpa using List.find?_some hb
    have hlength : b.placeholder.length - 1 = (m ++ ['\x7d']).length := by
      rw [ParameterBinding.placeholder, hname]
      rfl
    rw [hlength, interpolateFrom_append]
  · exact congrArg _ (interpolate_append_of_forall_ne hbs hm.ne_opening)

/-! ### Comparison -/

/-- A name in braces that parameters do not have stays. -/
theorem replacedInTurn_of_forall_ne (h : ∀ b ∈ bs, b.parameter.name.toList ≠ m) :
    replacedInTurn bs m = braced m := by
  induction bs with
  | nil => rfl
  | cons b bs ih =>
    obtain ⟨hb, hbs⟩ := List.forall_mem_cons.mp h
    rw [replacedInTurn, if_neg hb, ih hbs]

/-- A name in braces that parameters have gets a mark in front. -/
theorem exists_replacedInTurn_eq (h : ∃ b ∈ bs, b.parameter.name.toList = m) :
    ∃ cs, replacedInTurn bs m = '$' :: cs := by
  induction bs with
  | nil => simp at h
  | cons b bs ih =>
    rw [replacedInTurn]
    by_cases hname : b.parameter.name.toList = m
    · exact ⟨_, if_pos hname⟩
    · rw [if_neg hname]
      exact ih (by simpa [hname] using h)

theorem replacedInTurn_append_eq_braced_iff : replacedInTurn bs m ++ cs = braced m ++ ds ↔
    (∀ b ∈ bs, b.parameter.name.toList ≠ m) ∧ cs = ds := by
  by_cases h : ∀ b ∈ bs, b.parameter.name.toList ≠ m
  · rw [replacedInTurn_of_forall_ne h, List.append_cancel_left_eq, and_iff_right h]
  · have hname : ∃ b ∈ bs, b.parameter.name.toList = m := by simpa using h
    obtain ⟨tail, htail⟩ := exists_replacedInTurn_eq hname
    rw [htail]
    refine iff_of_false (fun heq => ?_) fun hall => h hall.1
    exact absurd (List.cons.inj heq).1 (by decide)

/-- Both ways of replacing give the same for a name in braces if no later parameter is called like
the variable that is put in. -/
theorem replacedInTurn_append_eq_iff
    (hnodup : (bs.map fun b => b.parameter.name.toList).Nodup) :
    replacedInTurn bs m ++ cs = replacedAtOnce bs m ++ ds ↔
      (bs.Pairwise fun b b' => b.parameter.name.toList = m →
        b'.parameter.name.toList ≠ b.variableName.toList) ∧ cs = ds := by
  induction bs with
  | nil => simp [replacedInTurn, replacedAtOnce]
  | cons b bs ih =>
    obtain ⟨hfresh, hnodup⟩ := List.nodup_cons.mp hnodup
    rw [List.pairwise_cons, replacedInTurn, replacedAtOnce, List.find?_cons]
    by_cases hname : b.parameter.name.toList = m
    · have hlater : bs.Pairwise fun b' b'' => b'.parameter.name.toList = m →
          b''.parameter.name.toList ≠ b'.variableName.toList :=
        List.pairwise_of_forall_mem_list fun b' hb' _ _ hm =>
          absurd (List.mem_map.mpr ⟨b', hb', hm.trans hname.symm⟩) hfresh
      simp only [hname, if_true, decide_true, forall_const, hlater, and_true]
      rw [ParameterBinding.filling, List.cons_append, List.cons_append, List.cons.injEq,
        and_iff_right rfl, replacedInTurn_append_eq_braced_iff]
    · simp only [hname, if_false, decide_false, false_implies, implies_true, true_and]
      exact ih hnodup

/-- Placeholders that are replaced in turn give the same as all at once if no later parameter is
called like the variable of an earlier one that the text has. -/
theorem inTurn_eq_interpolate_iff (hbs : ∀ b ∈ bs, b.IsBraceless)
    (hnodup : (bs.map fun b => b.parameter.name.toList).Nodup) (cs : List Char) :
    inTurn bs cs = interpolate bs cs ↔ bs.Pairwise fun b b' => b.placeholder <:+: cs →
      b'.parameter.name.toList ≠ b.variableName.toList := by
  induction cs using braced_induction with
  | nil =>
    rw [inTurn_nil]
    refine iff_of_true rfl (List.pairwise_of_forall fun b b' hinfix => ?_)
    exact absurd (List.infix_nil.mp hinfix) (braced_ne_nil _)
  | char c cs h ih =>
    rw [inTurn_cons hbs h, interpolate_cons hbs h, List.cons.injEq, and_iff_right rfl, ih]
    refine List.Pairwise.iff_of_mem fun hb _ => ?_
    rw [ParameterBinding.placeholder, infix_cons_iff_of_opensNone (hbs _ hb).1 h]
  | braced m rest hm ih =>
    rw [inTurn_braced hbs hm, interpolate_braced hbs hm, replacedInTurn_append_eq_iff hnodup, ih,
      ← List.pairwise_and_iff]
    refine List.Pairwise.iff_of_mem fun hb _ => ?_
    rw [ParameterBinding.placeholder, infix_braced_iff (hbs _ hb).1 hm, or_imp]

/-! ### Functions -/

namespace RequestFunction

variable {o : Operation} {f : RequestFunction}

/-- A part of the request has the parameters that have their place there, in order. -/
theorem map_parameter_parametersIn (h : ofOperation o = .ok f) (location : ParameterLocation) :
    (f.parametersIn location).map (·.parameter) =
      o.primitives.filter fun p => p.location = location := by
  have hall : f.parameters.map (·.parameter) = o.primitives := by
    rw [(bindings_of_ofOperation h).1, map_parameter_bindParameters]
  rw [← hall, List.filter_map]
  rfl

theorem address_eq_inTurn (f : RequestFunction) :
    f.address = inTurn (f.parametersIn .path) f.path.toList := by
  have hbraced (s : String) : ("\x7b" ++ s ++ "\x7d").toList = braced s.toList := by
    simp [braced]
  have hfilling (s : String) : ("$\x7b" ++ s ++ "\x7d").toList = '$' :: braced s.toList := by
    simp [braced]
  simp only [address, hbraced, hfilling]
  rfl

/-- Replacing brings in no characters but those that stand in what is put in. -/
theorem mem_inTurn (h : c ∈ inTurn bs cs) : c ∈ cs ∨ ∃ b ∈ bs, c ∈ b.filling := by
  induction bs generalizing cs with
  | nil => exact .inl h
  | cons b bs ih =>
    rcases ih h with hc | ⟨b', hb', hc⟩
    · rcases mem_of_mem_replaceAll hc with hc | hc
      · exact .inr ⟨b, List.mem_cons_self, hc⟩
      · exact .inl hc
    · exact .inr ⟨b', List.mem_cons_of_mem _ hb', hc⟩

theorem isVariableChar_of_mem_parameters (h : ofOperation o = .ok f) {b : ParameterBinding}
    (hb : b ∈ f.parameters) : ∀ d ∈ b.variableName.toList, isVariableChar d = true :=
  isVariableChar_of_mem_arguments h (.parameter b) (mem_arguments.mpr (.inr ⟨b, hb, rfl⟩))

/-- What is put into the address for a parameter has no back quotes. -/
theorem backQuote_not_mem_filling (h : ofOperation o = .ok f) {b : ParameterBinding}
    (hb : b ∈ f.parameters) : '\x60' ∉ b.filling := by
  intro hquote
  have hvariable : '\x60' ∈ b.variableName.toList := by
    simpa [ParameterBinding.filling, braced] using hquote
  exact absurd (isVariableChar_of_mem_parameters h hb _ hvariable) (by decide)

/-- A path without back quotes becomes an address without them, which stands as it is. -/
theorem toList_url (hpath : '\x60' ∉ o.path.toList) (h : ofOperation o = .ok f) :
    f.url.toList = inTurn (f.parametersIn .path) o.path.toList := by
  have hpaths : f.path = o.path := (ofOperation_eq_ok h).1
  have hquote : '\x60' ∉ f.address := by
    rw [address_eq_inTurn, hpaths]
    intro hmem
    rcases mem_inTurn hmem with hmem | ⟨b, hb, hmem⟩
    · exact hpath hmem
    · exact backQuote_not_mem_filling h (List.mem_filter.mp hb).1 hmem
  rw [url, String.toList_ofList, replaceAll_singleton_of_not_mem hquote, address_eq_inTurn, hpaths]

theorem braceless_of_isVariableChar (h : ∀ d ∈ cs, isVariableChar d = true) : Braceless cs := by
  intro d hd
  by_cases hbrace : isBrace d = true
  · have hcases : d = '\x7b' ∨ d = '\x7d' := by simpa [isBrace] using hbrace
    rcases hcases with rfl | rfl <;> exact absurd (h _ hd) (by decide)
  · simpa using hbrace

/-- **Addresses.** The address of a function is the path of its operation with all parameters of the
path replaced at once by their variables, exactly if no such parameter is called like the variable
of an earlier one that the path has. -/
theorem url_eq_interpolate_iff (hpath : '\x60' ∉ o.path.toList)
    (hnames : ∀ p ∈ o.primitives, p.location = .path → Braceless p.name.toList)
    (hnodup : ((o.primitives.filter fun p => p.location = .path).map (·.name)).Nodup)
    (h : ofOperation o = .ok f) :
    (f.parametersIn .path).map (·.parameter) = o.primitives.filter (fun p => p.location = .path) ∧
      (f.url.toList = interpolate (f.parametersIn .path) o.path.toList ↔
        (f.parametersIn .path).Pairwise fun b b' => b.placeholder <:+: o.path.toList →
          b'.parameter.name ≠ b.variableName) := by
  have hparameters := map_parameter_parametersIn h .path
  have hbraceless : ∀ b ∈ f.parametersIn .path, b.IsBraceless := fun b hb => by
    have hp : b.parameter ∈ o.primitives.filter fun p => p.location = .path :=
      hparameters ▸ List.mem_map_of_mem hb
    obtain ⟨hmem, hlocation⟩ := List.mem_filter.mp hp
    exact ⟨hnames _ hmem (of_decide_eq_true hlocation), braceless_of_isVariableChar
      (isVariableChar_of_mem_parameters h (List.mem_filter.mp hb).1)⟩
  have hdistinct : ((f.parametersIn .path).map fun b => b.parameter.name.toList).Nodup := by
    have hmap : (f.parametersIn .path).map (fun b => b.parameter.name.toList) =
        ((o.primitives.filter fun p => p.location = .path).map (·.name)).map String.toList := by
      rw [← hparameters, List.map_map, List.map_map]
      rfl
    rw [hmap]
    exact hnodup.map fun _ _ => String.toList_inj.mp
  refine ⟨hparameters, ?_⟩
  rw [toList_url hpath h, inTurn_eq_interpolate_iff hbraceless hdistinct]
  simp only [ne_eq, String.toList_inj]

/-- An operation with these parameters of the path. -/
def operationAt (path : String) (names : List String) : Operation where
  method := .get
  path := path
  operationId := "getItem"
  parameters := some (names.map fun name => parameterCalled name .path true)

theorem url_eq_interpolate_iff_operationAt :
    ∃ f, ofOperation (operationAt "/items/\x7bx_id\x7d/\x7bx.id\x7d" ["x_id", "x.id"]) = .ok f ∧
      f.url = "/items/$\x7bx_id\x7d/$\x7bx_id_2\x7d" ∧
      f.url.toList = interpolate (f.parametersIn .path)
        "/items/\x7bx_id\x7d/\x7bx.id\x7d".toList := by
  have hrun : ∃ f, ofOperation (operationAt "/items/\x7bx_id\x7d/\x7bx.id\x7d" ["x_id", "x.id"]) =
      .ok f ∧ f.url = "/items/$\x7bx_id\x7d/$\x7bx_id_2\x7d" ∧
        (f.parametersIn .path).Pairwise fun b b' =>
          b.placeholder <:+: "/items/\x7bx_id\x7d/\x7bx.id\x7d".toList →
            b'.parameter.name ≠ b.variableName := by decide +kernel
  obtain ⟨f, hf, hurl, hpairwise⟩ := hrun
  exact ⟨f, hf, hurl, (url_eq_interpolate_iff (by decide +kernel) (by decide +kernel)
    (by decide +kernel) hf).2.mpr hpairwise⟩

/-- A variable that is put in need not stay. -/
theorem url_ne_interpolate :
    ∃ f, ofOperation (operationAt "/items/\x7bx.id\x7d/\x7bx_id\x7d" ["x.id", "x_id"]) = .ok f ∧
      f.url = "/items/$$\x7bx_id_2\x7d/$\x7bx_id_2\x7d" ∧
      interpolate (f.parametersIn .path) "/items/\x7bx.id\x7d/\x7bx_id\x7d".toList =
        "/items/$\x7bx_id\x7d/$\x7bx_id_2\x7d".toList := by
  decide +kernel

end RequestFunction

end ClientGen.TypeScript
