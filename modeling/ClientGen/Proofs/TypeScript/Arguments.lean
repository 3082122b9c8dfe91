import Std.Data.String.ToNat
import ClientGen.Proofs.Outcome
import ClientGen.Proofs.TypeScript.Identifiers
import ClientGen.Proofs.TypeScript.Names

/-!
# Arguments of functions

The arguments of a function are one for every primitive parameter of the operation and one for its
body, if it has one in JSON. Each has a variable of its own: names are bound one after the other,
and each gets a name that is free by then, the body at last.

## Main definitions

* `ClientGen.TypeScript.isVariable` : small letters, digits and underscores, no digit at the start.
* `ClientGen.TypeScript.RequestFunction.Binds` : the arguments of a function for an operation.

## Main results

* `ClientGen.TypeScript.exists_freshVariable_eq` : a fresh variable is free.
* `ClientGen.TypeScript.nodup_bindParameters` : no two parameters have one variable.
* `ClientGen.TypeScript.RequestFunction.pairwise_arguments` : what has to be there stands in front.
* `ClientGen.TypeScript.RequestFunction.binds_of_ofOperation` : the arguments of a function.
-/

namespace ClientGen.TypeScript

/-! ### Variables -/

/-- The character may stand in a variable. -/
def isVariableChar (c : Char) : Bool := c.isLower || c.isDigit || c == '_'

/-- The text is a variable: a small letter or an underscore, and then small letters, digits and
underscores. -/
def isVariable : List Char → Bool
  | [] => false
  | c :: cs => (c.isLower || c == '_') && cs.all isVariableChar

theorem isLower_toLower {c : Char} (h : c.isAlpha = true) : c.toLower.isLower = true := by
  unfold Char.toLower
  split
  · rename_i hc
    have hupper : 65 ≤ c.val.toNat ∧ c.val.toNat ≤ 90 := hc
    have hlower : (c.val + ('a'.val - 'A'.val)).toNat = c.val.toNat + 32 := by
      have hsub : ('a'.val - 'A'.val).toNat = 32 := rfl
      rw [UInt32.toNat_add, hsub]
      omega
    have hrange : 97 ≤ (c.val + ('a'.val - 'A'.val)).toNat ∧
        (c.val + ('a'.val - 'A'.val)).toNat ≤ 122 := by omega
    exact Bool.and_eq_true_iff.mpr ⟨decide_eq_true hrange.1, decide_eq_true hrange.2⟩
  · rename_i hc
    rcases Bool.or_eq_true_iff.mp h with hupper | hlower
    · exact absurd (of_decide_eq_true hupper) hc
    · exact hlower

theorem toLower_of_isAlpha_eq_false {c : Char} (h : c.isAlpha = false) : c.toLower = c := by
  unfold Char.toLower
  split
  · rename_i hc
    have hupper : c.isUpper = true := decide_eq_true hc
    have halpha : c.isAlpha = true := Bool.or_eq_true_iff.mpr (.inl hupper)
    exact absurd halpha (Bool.eq_false_iff.mp h)
  · rfl

theorem isVariableChar_toLower {c : Char} (h : isWordChar c = true) :
    isVariableChar c.toLower = true := by
  cases halpha : c.isAlpha with
  | true => simp [isVariableChar, isLower_toLower halpha]
  | false =>
    rw [toLower_of_isAlpha_eq_false halpha]
    simp only [isWordChar, Char.isAlphanum, halpha, Bool.false_or] at h
    rw [isVariableChar, Bool.or_assoc, h, Bool.or_true]

theorem isVariable_map_toLower {c : Char} {cs : List Char} (hc : c.isDigit = false)
    (h : ∀ d ∈ c :: cs, isWordChar d = true) :
    isVariable ((c :: cs).map Char.toLower) = true := by
  obtain ⟨hhead, htail⟩ := List.forall_mem_cons.mp h
  have hstart := isVariableChar_toLower hhead
  rw [List.map_cons, isVariable, Bool.and_eq_true, List.all_map, List.all_eq_true]
  refine ⟨?_, fun d hd => isVariableChar_toLower (htail d hd)⟩
  cases halpha : c.isAlpha with
  | true => simp [isLower_toLower halpha]
  | false => simpa [isVariableChar, toLower_of_isAlpha_eq_false halpha, hc] using hstart

theorem exists_guardDigit_eq {cs : List Char} (h : cs ≠ []) :
    ∃ c ds, guardDigit cs = c :: ds ∧ c.isDigit = false := by
  unfold guardDigit
  split
  · rename_i c cs
    by_cases hc : c.isDigit = true
    · exact ⟨'_', c :: cs, if_pos hc, rfl⟩
    · exact ⟨c, cs, if_neg hc, by simpa using hc⟩
  · exact absurd rfl h

/-- The variable for a name that is not empty is one. -/
theorem isVariable_variableName {name : String} (h : name ≠ "") :
    isVariable (variableName name).toList = true := by
  have hcs : name.toList ≠ [] := fun hnil => h (String.toList_eq_nil_iff.mp hnil)
  obtain ⟨c, ds, hguard, hc⟩ := exists_guardDigit_eq (mt List.map_eq_nil_iff.mp hcs)
  have hword : ∀ d ∈ word name.toList, isWordChar d = true := by
    have hall : ∀ d ∈ (functionName name).toList, isWordChar d = true :=
      isWordChar_of_mem_functionName
    rwa [functionName, String.toList_ofList] at hall
  rw [variableName, String.toList_ofList]
  rw [word, hguard] at hword ⊢
  exact isVariable_map_toLower hc hword

/-- The variable for a name has no other characters than variables have. -/
theorem isVariableChar_of_mem_variableName {name : String} :
    ∀ c ∈ (variableName name).toList, isVariableChar c = true := by
  have hword : ∀ d ∈ (functionName name).toList, isWordChar d = true :=
    isWordChar_of_mem_functionName
  rw [functionName, String.toList_ofList] at hword
  rw [variableName, String.toList_ofList]
  exact List.forall_mem_map.mpr fun d hd => isVariableChar_toLower (hword d hd)

theorem isVariableChar_of_isVariable {cs : List Char} (h : isVariable cs = true) :
    ∀ c ∈ cs, isVariableChar c = true := by
  cases cs with
  | nil => exact List.forall_mem_nil _
  | cons c cs =>
    obtain ⟨hc, hcs⟩ := Bool.and_eq_true_iff.mp h
    refine List.forall_mem_cons.mpr ⟨?_, List.all_eq_true.mp hcs⟩
    rcases Bool.or_eq_true_iff.mp hc with hlower | hmark
    · simp [isVariableChar, hlower]
    · simp [isVariableChar, hmark]

theorem isVariableChar_of_mem_number (k : Nat) :
    ∀ c ∈ ("_" ++ toString k).toList, isVariableChar c = true := by
  rw [String.toList_append, Nat.toString_eq_repr, Nat.toList_repr]
  refine List.forall_mem_append.mpr ⟨List.all_eq_true.mp rfl, fun c hc => ?_⟩
  simp [isVariableChar, Nat.isDigit_of_mem_toDigits (by decide) (by decide) hc]

theorem isVariable_append {cs ds : List Char} (h : isVariable cs = true)
    (hds : ∀ c ∈ ds, isVariableChar c = true) : isVariable (cs ++ ds) = true := by
  cases cs with
  | nil => cases h
  | cons c cs =>
    rw [isVariable, Bool.and_eq_true] at h
    rw [List.cons_append, isVariable, List.all_append, h.1, h.2, List.all_eq_true.mpr hds]
    rfl

theorem toList_numbered (base : String) (k : Nat) :
    (numbered base (k + 1)).toList = base.toList ++ ("_" ++ toString (k + 2)).toList := by
  rw [numbered, String.append_assoc, String.toList_append]

theorem isVariable_numbered {base : String} (h : isVariable base.toList = true) :
    (k : Nat) → isVariable (numbered base k).toList = true
  | 0 => h
  | k + 1 => by
    rw [toList_numbered]
    exact isVariable_append h (isVariableChar_of_mem_number _)

theorem isVariableChar_of_mem_numbered {base : String}
    (h : ∀ c ∈ base.toList, isVariableChar c = true) :
    (k : Nat) → ∀ c ∈ (numbered base k).toList, isVariableChar c = true
  | 0 => h
  | k + 1 => by
    rw [toList_numbered]
    exact List.forall_mem_append.mpr ⟨h, isVariableChar_of_mem_number _⟩

/-! ### Fresh variables -/

theorem numbered_injective (base : String) : Function.Injective (numbered base) := by
  have hlength (k : Nat) : base.length < (numbered base (k + 1)).length := by
    have hmark : ("_" : String).length = 1 := rfl
    rw [numbered, String.length_append, String.length_append]
    omega
  intro j k h
  match j, k with
  | 0, 0 => rfl
  | 0, k + 1 => exact absurd (congrArg String.length h) (hlength k).ne
  | j + 1, 0 => exact absurd (congrArg String.length h) (hlength j).ne'
  | j + 1, k + 1 =>
    simp only [numbered, String.append_right_inj] at h
    have hnumber : j + 2 = k + 2 := Nat.repr_injective h
    omega

/-- A fresh variable is the name itself or the name with a number, and it is free. -/
theorem exists_freshVariable_eq (base : String) (taken : List String) :
    ∃ k, freshVariable base taken = numbered base k ∧ numbered base k ∉ taken := by
  obtain ⟨k, hk, hfree, -⟩ := exists_firstFree_eq taken (numbered_injective base)
  exact ⟨k, hk, hfree⟩

theorem freshVariable_not_mem (base : String) (taken : List String) :
    freshVariable base taken ∉ taken := by
  obtain ⟨k, hk, hfree⟩ := exists_freshVariable_eq base taken
  exact hk ▸ hfree

/-! ### Parameters -/

section Parameters

variable {ps : List PrimitiveParameter}

/-- Every parameter is bound once, in order. -/
theorem map_parameter_bindParameters (taken : List String) :
    (bindParameters taken ps).map (·.parameter) = ps := by
  induction ps generalizing taken with
  | nil => rfl
  | cons p ps ih => rw [bindParameters, List.map_cons, ih]

theorem not_mem_of_mem_bindParameters {taken : List String} {b : ParameterBinding}
    (h : b ∈ bindParameters taken ps) : b.variableName ∉ taken := by
  induction ps generalizing taken with
  | nil => cases h
  | cons p ps ih =>
    rcases List.mem_cons.mp h with rfl | h
    · exact freshVariable_not_mem _ _
    · exact fun hmem => ih h (List.mem_cons_of_mem _ hmem)

/-- No two parameters have one variable: a variable is taken for all parameters behind its own. -/
theorem nodup_bindParameters (taken : List String) :
    ((bindParameters taken ps).map (·.variableName)).Nodup := by
  induction ps generalizing taken with
  | nil => exact .nil
  | cons p ps ih =>
    rw [bindParameters, List.map_cons, List.nodup_cons]
    refine ⟨fun hmem => ?_, ih _⟩
    obtain ⟨b, hb, heq⟩ := List.mem_map.mp hmem
    exact not_mem_of_mem_bindParameters hb (heq ▸ List.mem_cons_self)

/-- What holds of the names of parameters, and still holds with a number behind them, holds of their
variables. -/
theorem forall_mem_bindParameters {P : String → Prop}
    (hnumber : ∀ base k, P base → P (numbered base k)) {taken : List String}
    (hps : ∀ p ∈ ps, P (variableName p.name)) :
    ∀ b ∈ bindParameters taken ps, P b.variableName := by
  induction ps generalizing taken with
  | nil => exact List.forall_mem_nil _
  | cons p ps ih =>
    obtain ⟨hp, hps⟩ := List.forall_mem_cons.mp hps
    refine List.forall_mem_cons.mpr ⟨?_, ih hps⟩
    obtain ⟨k, hk, -⟩ := exists_freshVariable_eq (variableName p.name) taken
    dsimp only
    rw [hk]
    exact hnumber _ k hp

end Parameters

/-! ### The body -/

theorem lowerFirst_ne_empty {name : String} (h : name ≠ "") : lowerFirst name ≠ "" := by
  have hlower (c : Char) : Text.lowerChar c ≠ [] := by
    unfold Text.lowerChar
    split
    · exact List.cons_ne_nil _ _
    · split
      · exact List.cons_ne_nil _ _
      · split <;> exact List.cons_ne_nil _ _
  unfold lowerFirst
  split
  · rename_i hnil
    exact absurd (String.toList_eq_nil_iff.mp hnil) h
  · rename_i c cs _
    rw [Ne, String.ofList_eq_empty_iff, List.append_eq_nil_iff]
    exact fun hnil => hlower c hnil.1

theorem isVariable_bodyVariable (handle : Option SchemaHandle) :
    isVariable (bodyVariable handle).toList = true := by
  unfold bodyVariable
  split
  · split
    · rfl
    · exact isVariable_variableName (lowerFirst_ne_empty (typeName_ne_empty _))
  · rfl

/-- A body with a schema in JSON is bound to a variable that is free. -/
theorem bindBody_eq_ok {taken : List String} {v : Value} {body : Option BodyBinding}
    (h : bindBody taken v = .ok body) : (body.isSome = true ↔ jsonSchema v ≠ .null) ∧
      ∀ b ∈ body, b.variableName ∉ taken ∧ isVariable b.variableName.toList = true := by
  unfold bindBody at h
  simp only at h
  split at h
  · rename_i hnull
    obtain rfl := Except.pure_eq_ok.mp h
    exact ⟨iff_of_false nofun (not_not.mpr hnull), nofun⟩
  · rename_i hschema
    obtain ⟨handle, -, h⟩ := Except.bind_eq_ok.mp h
    obtain ⟨t, -, h⟩ := Except.bind_eq_ok.mp h
    obtain ⟨ns, -, h⟩ := Except.bind_eq_ok.mp h
    obtain rfl := Except.pure_eq_ok.mp h
    refine ⟨iff_of_true rfl hschema, fun b hb => ?_⟩
    obtain rfl := Option.some.inj hb
    by_cases htaken : taken.contains (bodyVariable handle) = true
    · rw [if_pos htaken]
      obtain ⟨k, hk, hfree⟩ := exists_freshVariable_eq "body" taken
      exact hk ▸ ⟨hfree, isVariable_numbered rfl k⟩
    · rw [if_neg htaken]
      exact ⟨by simpa using htaken, isVariable_bodyVariable handle⟩

/-! ### All arguments -/

namespace RequestFunction

variable {o : Operation} {f : RequestFunction}

/-- Every parameter and the body are one argument. -/
theorem arguments_perm (f : RequestFunction) :
    f.arguments.Perm (f.body.toList.map .body ++ f.parameters.map .parameter) :=
  List.filter_append_perm _ _

theorem mem_arguments {a : Argument} : a ∈ f.arguments ↔
    (∃ b ∈ f.body, a = .body b) ∨ ∃ b ∈ f.parameters, a = .parameter b := by
  rw [f.arguments_perm.mem_iff, List.mem_append, List.mem_map, List.mem_map]
  simp only [Option.mem_toList, Option.mem_def, eq_comm]

/-- What has to be there stands in front of what may be left out. -/
theorem pairwise_arguments (f : RequestFunction) :
    f.arguments.Pairwise fun a b => b.required = true → a.required = true := by
  unfold arguments
  refine List.pairwise_append.mpr ⟨?_, ?_, fun a ha b hb hrequired => ?_⟩
  · exact List.pairwise_of_forall_mem_list fun a ha b _ _ => (List.mem_filter.mp ha).2
  · refine List.pairwise_of_forall_mem_list fun a _ b hb hrequired => ?_
    simp [hrequired] at hb
  · exact (List.mem_filter.mp ha).2

/-- The declarations of all arguments are separated by commas, with the context in front. -/
theorem signature_eq (f : RequestFunction) : f.signature =
    ", ".intercalate ("ctx: ApiContext" :: f.arguments.map Argument.declared) := by
  have hfilled (a : Argument) (as : List Argument) :
      (", ".intercalate ((a :: as).map Argument.declared)).isEmpty = false := by
    have hdeclared : a.declared ≠ "" := by simp [Argument.declared]
    cases as with
    | nil => simpa [String.isEmpty_iff] using hdeclared
    | cons b bs => simp [String.intercalate_cons_cons, hdeclared]
  rw [signature, parameterList]
  cases f.arguments with
  | nil => rfl
  | cons a as =>
    rw [hfilled, List.map_cons, String.intercalate_cons_cons]
    rfl

theorem bindings_of_ofOperation (h : ofOperation o = .ok f) :
    f.parameters = bindParameters reservedArguments o.primitives ∧
      bindBody (reservedArguments ++ f.parameters.map (·.variableName))
        (.ofFields (o.requestBody.getD [])) = .ok f.body := by
  obtain ⟨-, hparameters, hbody, -⟩ := ofOperation_eq_ok h
  exact ⟨hparameters, hbody⟩

/-- The arguments of a function for an operation. -/
structure Binds (o : Operation) (f : RequestFunction) : Prop where
  /-- Every primitive parameter is bound once, in order. -/
  parameters : f.parameters.map (·.parameter) = o.primitives
  /-- A body is bound if the operation has one in JSON. -/
  body : f.body.isSome = true ↔ jsonSchema (.ofFields (o.requestBody.getD [])) ≠ .null
  /-- The body and the parameters are one argument each. -/
  perm : f.arguments.Perm (f.body.toList.map .body ++ f.parameters.map .parameter)
  /-- No two arguments have one variable. -/
  distinct : (f.arguments.map Argument.variableName).Nodup
  /-- No argument has a name that no argument may have. -/
  unreserved : ∀ a ∈ f.arguments, a.variableName ∉ reservedArguments
  /-- Arguments are named with variables. -/
  named : ∀ a ∈ f.arguments, isVariable a.variableName.toList = true
  /-- What has to be there stands in front of what may be left out. -/
  order : f.arguments.Pairwise fun a b => b.required = true → a.required = true
  /-- The function declares the context and all arguments. -/
  declares : f.signature =
    ", ".intercalate ("ctx: ApiContext" :: f.arguments.map Argument.declared)
  /-- It is called with the context and the variables of all arguments, in the same order. -/
  takes : f.argumentList = ", ".intercalate ("ctx" :: f.arguments.map Argument.variableName)
  /-- A part of the request is filled from the parameters that have their place there. -/
  sent : ∀ location, (f.parametersIn location).map (·.parameter) =
    o.primitives.filter fun p => p.location = location
  /-- What a parameter fills comes from the variable of its own argument. -/
  parameterOf : ∀ location, ∀ b ∈ f.parametersIn location, .parameter b ∈ f.arguments ∧
    ∀ a ∈ f.arguments, a.variableName = b.variableName → a = .parameter b
  /-- The body that is sent comes from the variable of its own argument. -/
  bodyOf : ∀ b ∈ f.body, .body b ∈ f.arguments ∧
    ∀ a ∈ f.arguments, a.variableName = b.variableName → a = .body b

/-- Whatever the names of the parameters are, the variables have no other characters than variables
have. -/
theorem isVariableChar_of_mem_arguments (h : ofOperation o = .ok f) :
    ∀ a ∈ f.arguments, ∀ c ∈ a.variableName.toList, isVariableChar c = true := by
  obtain ⟨hparameters, hbody⟩ := bindings_of_ofOperation h
  intro a ha
  rcases mem_arguments.mp ha with ⟨b, hb, rfl⟩ | ⟨b, hb, rfl⟩
  · exact isVariableChar_of_isVariable ((bindBody_eq_ok hbody).2 b hb).2
  · refine forall_mem_bindParameters (P := fun s => ∀ c ∈ s.toList, isVariableChar c = true)
      (fun _ k hbase => isVariableChar_of_mem_numbered hbase k)
      (fun p _ => isVariableChar_of_mem_variableName) b (hparameters ▸ hb)

/-- The arguments that have one variable are one argument. -/
theorem eq_of_variableName_eq (h : (f.arguments.map Argument.variableName).Nodup)
    {a b : Argument} (ha : a ∈ f.arguments) (hb : b ∈ f.arguments)
    (heq : a.variableName = b.variableName) : a = b :=
  List.inj_on_of_nodup_map h ha hb heq

/-- **Arguments.** The primitive parameters of an operation and its body are the arguments of its
function, each once and under a variable of its own, and what has to be there stands in front. -/
theorem binds_of_ofOperation (hnames : ∀ p ∈ o.primitives, p.name ≠ "")
    (h : ofOperation o = .ok f) : Binds o f := by
  obtain ⟨hparameters, hbody⟩ := bindings_of_ofOperation h
  obtain ⟨hsome, hbound⟩ := bindBody_eq_ok hbody
  have hall : f.parameters.map (·.parameter) = o.primitives := by
    rw [hparameters, map_parameter_bindParameters]
  have hnodup : (f.arguments.map Argument.variableName).Nodup := by
    rw [(f.arguments_perm.map _).nodup_iff, List.map_append, List.map_map, List.map_map]
    refine .append ?_ ?_ ?_
    · cases f.body <;> simp
    · rw [hparameters]
      exact nodup_bindParameters _
    · intro s hs
      obtain ⟨b, hb, rfl⟩ := List.mem_map.mp hs
      exact fun hmem => (hbound b (Option.mem_toList.mp hb)).1 (List.mem_append_right _ hmem)
  refine
    { parameters := hall, body := hsome, perm := f.arguments_perm, distinct := hnodup
      unreserved := fun a ha => ?_, named := fun a ha => ?_, order := f.pairwise_arguments
      declares := f.signature_eq, takes := rfl, sent := fun location => ?_
      parameterOf := fun location b hb => ?_, bodyOf := fun b hb => ?_ }
  · rcases mem_arguments.mp ha with ⟨b, hb, rfl⟩ | ⟨b, hb, rfl⟩
    · exact fun hmem => (hbound b hb).1 (List.mem_append_left _ hmem)
    · exact not_mem_of_mem_bindParameters (hparameters ▸ hb)
  · rcases mem_arguments.mp ha with ⟨b, hb, rfl⟩ | ⟨b, hb, rfl⟩
    · exact (hbound b hb).2
    · exact forall_mem_bindParameters (P := fun s => isVariable s.toList = true)
        (fun _ k hbase => isVariable_numbered hbase k)
        (fun p hp => isVariable_variableName (hnames p hp)) b (hparameters ▸ hb)
  · rw [← hall, List.filter_map]
    rfl
  · have hmem : .parameter b ∈ f.arguments :=
      mem_arguments.mpr (.inr ⟨b, (List.mem_filter.mp hb).1, rfl⟩)
    exact ⟨hmem, fun a ha heq => eq_of_variableName_eq hnodup ha hmem heq⟩
  · have hmem : .body b ∈ f.arguments := mem_arguments.mpr (.inl ⟨b, hb, rfl⟩)
    exact ⟨hmem, fun a ha heq => eq_of_variableName_eq hnodup ha hmem heq⟩

/-- A parameter that is no reference. -/
def parameterCalled (name : String) (location : ParameterLocation) (required : Bool) : Parameter :=
  .primitive { modelName := none, isReference := false, name, location, required
               primitiveType := "string" }

/-- An operation whose parameters and body come to the same names, to a reserved one, and to one
that has a number of its own. -/
def crowdedOperation : Operation where
  method := .post
  path := "/pets/{pet.id}"
  operationId := "crowdPets"
  parameters := some [parameterCalled "Pet-Id" .header false, parameterCalled "pet_id" .query true,
    parameterCalled "pet_id_2" .query false, parameterCalled "pet.id" .path true,
    parameterCalled "default" .query false, parameterCalled "2fa" .header false,
    parameterCalled "BODY" .query false]
  requestBody := some [("content", .ofFields [("application/json", .ofFields
    [("schema", .ofFields [("type", .text "object")])])])]

theorem binds_of_ofOperation_crowdedOperation :
    (∀ p ∈ crowdedOperation.primitives, p.name ≠ "") ∧
      ∃ f, ofOperation crowdedOperation = .ok f ∧
        f.arguments.map Argument.variableName = ["pet_id_2", "pet_id_3", "body_2", "pet_id",
          "pet_id_2_2", "default_2", "_2fa", "body"] ∧
        Binds crowdedOperation f := by
  have hnames : ∀ p ∈ crowdedOperation.primitives, p.name ≠ "" := by decide +kernel
  have hrun : ∃ f, ofOperation crowdedOperation = .ok f ∧
      f.arguments.map Argument.variableName = ["pet_id_2", "pet_id_3", "body_2", "pet_id",
        "pet_id_2_2", "default_2", "_2fa", "body"] := by decide +kernel
  obtain ⟨f, hf, hvariables⟩ := hrun
  exact ⟨hnames, f, hf, hvariables, binds_of_ofOperation hnames hf⟩

end RequestFunction

end ClientGen.TypeScript
