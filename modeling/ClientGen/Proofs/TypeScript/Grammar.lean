import ClientGen.Proofs.TypeScript.Arguments
import ClientGen.Proofs.TypeScript.Depth
import ClientGen.Proofs.TypeScript.Quoted

/-!
# The grammar of types

The texts of types form a small language: words, lists, objects with any keys, choices of literals
and objects with given keys. The text of a handle is always one of it. The text of a schema is, if
the names and the texts that go into it have no line breaks and every keyword that is looked at has
a value of a kind that fits. Then a type is found as well, unless the schema is too deep or a whole
number too long, and the type of a list is the list of the type.

## Main definitions

* `ClientGen.TypeScript.IsTypeText` : the texts of types.
* `ClientGen.TypeScript.Needs`, `ClientGen.TypeScript.Seeks` : where a type, and where a handle is
  looked for.
* `ClientGen.TypeScript.NamesHandles`, `ClientGen.TypeScript.Presentable`,
  `ClientGen.TypeScript.IsRegular` : schemas whose keywords have values that fit.
* `ClientGen.TypeScript.listOf` : the schema of lists.

## Main results

* `ClientGen.TypeScript.isTypeText_handleType` : the types of handles.
* `ClientGen.TypeScript.yields_typeWithin` : the types of regular schemas.
* `ClientGen.TypeScript.schemaType_of_isRegular` : regular schemas and lists of them.
-/

namespace ClientGen.TypeScript

open Relation

/-! ### Texts of types -/

/-- A letter or an underscore, and then letters, digits and underscores. -/
def isLedWord : List Char → Bool
  | [] => false
  | c :: cs => (c.isAlpha || c == '_') && cs.all isWordChar

/-- The digits of a whole number, with a sign in front if it is negative. -/
def isWhole : List Char → Bool
  | [] => false
  | c :: cs => if c = '-' then cs != [] && cs.all Char.isDigit else (c :: cs).all Char.isDigit

/-- The texts of literals. -/
inductive IsLiteralText : String → Prop
  /-- A text in quotes. -/
  | quotation {s t : String} (h : unquote? s = some t) : IsLiteralText s
  /-- A whole number. -/
  | whole {s : String} (h : isWhole s.toList = true) : IsLiteralText s
  | true : IsLiteralText "true"
  | false : IsLiteralText "false"
  | null : IsLiteralText "null"

/-- The texts of keys. -/
inductive IsKeyText : String → Prop
  /-- An identifier. -/
  | identifier {s : String} (h : isIdentifier s.toList = true) : IsKeyText s
  /-- A text in quotes. -/
  | quotation {s t : String} (h : unquote? s = some t) : IsKeyText s

/-- A key with its type; the truth value says that the key has to be there. -/
def memberText (m : String × Bool × String) : String :=
  m.1 ++ (if m.2.1 then "" else "?") ++ ": " ++ m.2.2

/-- The texts of types. -/
inductive IsTypeText : String → Prop
  | any : IsTypeText "any"
  | number : IsTypeText "number"
  | string : IsTypeText "string"
  | boolean : IsTypeText "boolean"
  /-- The name of a declaration. -/
  | name {s : String} (h : isLedWord s.toList = true) : IsTypeText s
  /-- Lists. -/
  | array {s : String} (h : IsTypeText s) : IsTypeText ("Array<" ++ s ++ ">")
  /-- Objects with any keys. -/
  | record {s : String} (h : IsTypeText s) : IsTypeText ("Record<string, " ++ s ++ ">")
  /-- One of some literals. -/
  | literals {ls : List String} (hne : ls ≠ []) (h : ∀ l ∈ ls, IsLiteralText l) :
    IsTypeText (" | ".intercalate ls)
  /-- Objects with the given keys. -/
  | object {ms : List (String × Bool × String)} (hne : ms ≠ []) (hkeys : ∀ m ∈ ms, IsKeyText m.1)
    (htypes : ∀ m ∈ ms, IsTypeText m.2.2) :
    IsTypeText ("\x7b " ++ "; ".intercalate (ms.map memberText) ++ " \x7d")

/-- A word is led by a letter or an underscore if it is not led by a digit. -/
theorem isLedWord_cons {c : Char} {cs : List Char} (hc : c.isDigit = false)
    (h : ∀ d ∈ c :: cs, isWordChar d = true) : isLedWord (c :: cs) = true := by
  obtain ⟨hhead, htail⟩ := List.forall_mem_cons.mp h
  rw [isLedWord, Bool.and_eq_true, List.all_eq_true]
  refine ⟨?_, htail⟩
  simpa [isWordChar, Char.isAlphanum, hc] using hhead

theorem isLedWord_functionName {name : String} (h : name ≠ "") :
    isLedWord (functionName name).toList = true := by
  have hcs : name.toList ≠ [] := fun hnil => h (String.toList_eq_nil_iff.mp hnil)
  obtain ⟨c, ds, hguard, hc⟩ := exists_guardDigit_eq (mt List.map_eq_nil_iff.mp hcs)
  have hword : ∀ d ∈ (functionName name).toList, isWordChar d = true :=
    isWordChar_of_mem_functionName
  rw [functionName, String.toList_ofList, word, hguard] at hword ⊢
  exact isLedWord_cons hc hword

theorem isLedWord_typeName (name : String) : isLedWord (typeName name).toList = true := by
  unfold typeName
  split
  · rfl
  · rename_i hname
    exact isLedWord_functionName fun h => hname (h ▸ rfl)

/-- The type of a handle has a text of the grammar. -/
theorem isTypeText_handleType (handle : SchemaHandle) : IsTypeText (handleType handle).text := by
  induction handle with
  | arrayOf items ih => exact .array ih
  | named name kind isReference =>
    cases name with
    | none => exact .any
    | some name =>
      cases kind with
      | parameter | other => exact .any
      | schema =>
        rw [handleType]
        split
        · exact .any
        · exact .name (isLedWord_typeName name)

theorem isTypeText_ofPrimitive? {s : String} {t : TypeExpr} (h : TypeExpr.ofPrimitive? s = some t) :
    IsTypeText t.text := by
  unfold TypeExpr.ofPrimitive? at h
  split at h <;> cases h
  · exact .number
  · exact .number
  · exact .string
  · exact .boolean

theorem all_isDigit_toDigits (n : Nat) : (Nat.toDigits 10 n).all Char.isDigit = true :=
  List.all_eq_true.mpr fun _ hc => Nat.isDigit_of_mem_toDigits (by decide) (by decide) hc

theorem isWhole_toString (n : Int) : isWhole (toString n).toList = true := by
  rw [Int.toString_eq_repr, Int.repr_eq_if]
  split
  · rw [Nat.toList_repr]
    have hdigits := all_isDigit_toDigits n.toNat
    cases hcs : Nat.toDigits 10 n.toNat with
    | nil => exact absurd hcs Nat.toDigits_ne_nil
    | cons c cs =>
      rw [hcs] at hdigits
      have hc : c ≠ '-' := by
        rintro rfl
        cases hdigits
      rw [isWhole, if_neg hc]
      exact hdigits
  · rw [String.toList_append, Nat.toList_repr]
    change isWhole ('-' :: Nat.toDigits 10 (-n).toNat) = true
    simp [isWhole, all_isDigit_toDigits, Nat.toDigits_ne_nil]

/-! ### Regular schemas -/

/-- A value that is listed for a choice: a text without line breaks, a truth value, null, or a whole
number that is not too long. -/
inductive IsChoice : Value → Prop
  | text {s : String} (h : IsUnbroken s) : IsChoice (.text s)
  | bool (b : Bool) : IsChoice (.bool b)
  | int {n : Int} (h : n.natAbs < Scalar.writableBound) : IsChoice (.int n)
  | null : IsChoice .null

/-- The type of the schema is made of the type of another one. -/
inductive Needs : Value → Value → Prop
  /-- The type of a list is made of that of its items. -/
  | items {v : Value} (hv : Typed callLimit v) (htype : declaredType v = .text "array") :
    Needs v (v.field "items")
  /-- The type of an object is made of those of its properties. -/
  | property {v : Value} {es : List (Scalar × Value)} {e : Scalar × Value}
    (hv : Composed callLimit v)
    (hes : (v.field "properties").entries? = some es) (he : e ∈ es) : Needs v e.2
  /-- Without properties, the type is made of that of additional ones. -/
  | additional {v : Value} (hv : Composed callLimit v)
    (hes : ∀ e es, (v.field "properties").entries? ≠ some (e :: es))
    (hadditional : (v.field "additionalProperties").isMapping = true) :
    Needs v (v.field "additionalProperties")

/-- A handle that is looked for in a schema is looked for in another one: in the items of a list. -/
inductive Seeks : Value → Value → Prop
  | items {v : Value} (hv : v.isMapping = true) (hkind : SchemaHandle.kind? v = none)
    (htype : v.field "type" = .text "array") : Seeks v (v.field "items")

/-- The value is null or a text, or a list of texts. -/
def NamesTypes (v : Value) : Prop :=
  v = .null ∨ (∃ s, v = .text s) ∨ ∃ ss : List String, v.items? = some (ss.map .text)

/-- The value is null or a list of texts. -/
def ListsNames (v : Value) : Prop := v = .null ∨ ∃ ss : List String, v.items? = some (ss.map .text)

/-- Wherever a handle is looked for, it has no name or is named by a text. -/
def NamesHandles (v : Value) : Prop :=
  ∀ w, ReflTransGen Seeks v w → ∀ kind, SchemaHandle.kind? w = some kind →
    w.field "modelName" = .null ∨ ∃ s, w.field "modelName" = .text s

/-- The keywords of the schema that are looked at for its type have values of a kind that fits. -/
structure Presentable (v : Value) : Prop where
  /-- The handle, if there is one, is named by a text or not at all. -/
  names : NamesHandles v
  /-- The values that are listed for a choice are texts, truth values, whole numbers or null. -/
  choices : Structured callLimit v → ∀ xs, (v.field "enum").items? = some xs → ∀ x ∈ xs, IsChoice x
  /-- The type, if there is one, is a text or a list of texts. -/
  type : Typed callLimit v → NamesTypes (v.field "type")
  /-- The required names, if there are any, are a list of texts. -/
  required : Composed callLimit v → (∃ e es, (v.field "properties").entries? = some (e :: es)) →
    ListsNames (v.field "required")
  /-- Properties are named by texts without line breaks. -/
  keys : Composed callLimit v → ∀ es, (v.field "properties").entries? = some es →
    ∀ e ∈ es, ∃ s, e.1 = .text s ∧ IsUnbroken s

/-- Wherever a type is looked for, the keywords have values of a kind that fits. -/
def IsRegular (v : Value) : Prop := ∀ w, ReflTransGen Needs v w → Presentable w

theorem IsRegular.presentable {v : Value} (h : IsRegular v) : Presentable v := h v .refl

theorem IsRegular.of_needs {v w : Value} (h : IsRegular v) (hw : Needs v w) : IsRegular w :=
  fun u hu => h u (.head hw hu)

theorem NamesHandles.of_seeks {v w : Value} (h : NamesHandles v) (hw : Seeks v w) :
    NamesHandles w :=
  fun u hu => h u (.head hw hu)

theorem isRegular_of_presentable {v : Value} (h : Presentable v)
    (hneeds : ∀ w, Needs v w → IsRegular w) : IsRegular v := by
  intro w hw
  rcases hw.cases_head with rfl | ⟨u, hu, hw⟩
  · exact h
  · exact hneeds u hu w hw

/-- A schema of which neither an array nor properties are looked at is regular by itself. -/
theorem isRegular_of_not_typed {v : Value} (h : ¬ Typed callLimit v) (hnames : NamesHandles v)
    (hchoices : Structured callLimit v →
      ∀ xs, (v.field "enum").items? = some xs → ∀ x ∈ xs, IsChoice x) :
    IsRegular v :=
  isRegular_of_presentable
    { names := hnames
      choices := hchoices
      type := fun hv => absurd hv h
      required := fun hv => absurd hv.toTyped h
      keys := fun hv => absurd hv.toTyped h }
    fun w hw => by
      cases hw with
      | items hv _ => exact absurd hv h
      | property hv _ _ => exact absurd hv.toTyped h
      | additional hv _ _ => exact absurd hv.toTyped h

theorem namesHandles_of_seeks {v : Value} (hkind : SchemaHandle.kind? v = none)
    (hseeks : ∀ w, Seeks v w → NamesHandles w) : NamesHandles v := by
  intro w hw kind hw'
  rcases hw.cases_head with rfl | ⟨u, hu, hw⟩
  · cases hkind.symm.trans hw'
  · exact hseeks u hu w hw kind hw'

/-! ### Types of regular schemas -/

section Regular

variable {v : Value} {depth : Nat} {f : Fault}

/-- A handle that is looked for is not misnamed. -/
theorem not_misnamed_of_namesHandles (h : NamesHandles v) : ¬ SchemaHandle.Misnamed depth v := by
  intro hmisnamed
  induction hmisnamed with
  | name hv hkind hname =>
    rcases h _ .refl _ hkind with hnull | ⟨s, hs⟩
    · rw [hnull] at hname
      cases hname
    · rw [hs] at hname
      cases hname
  | items hv hkind htype _ ih => exact ih (h.of_seeks (.items hv hkind htype))

/-- A value for a choice has a literal of the grammar. -/
theorem IsChoice.exists_ofValue {x : Value} (h : IsChoice x) :
    ∃ l, Literal.ofValue x = .ok l ∧ IsLiteralText l.write := by
  cases h with
  | text h => exact ⟨_, ofValue_text _, .quotation (unquote?_quoted h)⟩
  | bool b =>
    cases b with
    | true => exact ⟨_, rfl, .true⟩
    | false => exact ⟨_, rfl, .false⟩
  | @int n h =>
    refine ⟨.int n, ?_, .whole (isWhole_toString n)⟩
    have hshown : (Value.int n).shown = .ok (Value.int n).display := if_pos (decide_eq_true h)
    rw [Literal.ofValue, hshown]
    rfl
  | null => exact ⟨_, rfl, .null⟩

theorem isTypeText_literals {x : Value} {xs : List Value} {ls : List Literal}
    (h : (x :: xs).mapM Literal.ofValue = .ok ls) (hxs : ∀ y ∈ x :: xs, IsChoice y) :
    IsTypeText (TypeExpr.literals ls).text := by
  have hls := mapM_eq_ok_iff.mp h
  refine .literals ?_ (List.forall_mem_map.mpr fun l hl => ?_)
  · rw [Ne, List.map_eq_nil_iff]
    rintro rfl
    cases hls
  · obtain ⟨y, hy, hyl⟩ := exists_of_forall₂ hls hl
    obtain ⟨l', hl', htext⟩ := (hxs y hy).exists_ofValue
    obtain rfl := Except.ok.inj (hl'.symm.trans hyl)
    exact htext

theorem isMember_declaredType (h : NamesTypes (v.field "type")) :
    (declaredType v).isMember = true := by
  unfold declaredType
  rcases h with hnull | ⟨s, hs⟩ | ⟨ss, hss⟩
  · rw [hnull]
    rfl
  · rw [hs]
    rfl
  · rw [hss]
    dsimp only
    cases hhead : ((ss.map Value.text).filter (· ≠ .text "null")).head? with
    | none => rfl
    | some w =>
      obtain ⟨s, -, rfl⟩ := List.mem_map.mp (List.mem_of_mem_filter (List.mem_of_head? hhead))
      rfl

theorem exists_requiredNames (h : ListsNames (v.field "required")) :
    ∃ ns, requiredNames v = .ok ns := by
  unfold requiredNames Value.scalarSet
  split
  · rename_i hfilled
    rcases h with hnull | ⟨ss, hss⟩
    · rw [hnull] at hfilled
      cases hfilled
    · have hall : (ss.map Value.text).all Value.isMember = true := by simp [Value.isMember]
      rw [Value.elements, Value.items?_eq_some.mp hss]
      exact ⟨_, if_pos hall⟩
  · exact ⟨[], rfl⟩

/-- The texts of the members of an object. -/
theorem memberTexts_eq (ms : List (String × Bool × TypeExpr)) :
    TypeExpr.memberTexts ms =
      (ms.map fun m => (propertyKey m.1, m.2.1, m.2.2.text)).map memberText := by
  induction ms with
  | nil => rfl
  | cons m ms ih =>
    rw [TypeExpr.memberTexts, ih]
    rfl

theorem isKeyText_propertyKey {s : String} (h : IsUnbroken s) : IsKeyText (propertyKey s) := by
  rw [propertyKey_of_isUnbroken h]
  split
  · exact .identifier ‹_›
  · exact .quotation (unquote?_quoted h)

theorem isTypeText_object {ms : List (String × Bool × TypeExpr)} (hne : ms ≠ [])
    (h : ∀ m ∈ ms, IsUnbroken m.1 ∧ IsTypeText m.2.2.text) :
    IsTypeText (TypeExpr.object ms).text := by
  rw [TypeExpr.text, memberTexts_eq]
  refine .object (by simpa using hne) ?_ ?_
  · exact List.forall_mem_map.mpr fun m hm => isKeyText_propertyKey (h m hm).1
  · exact List.forall_mem_map.mpr fun m hm => (h m hm).2

/-- What a step that looks for a type gives. -/
abbrev YieldsType (depth : Nat) (v : Value) : Except Fault TypeExpr → Prop :=
  Yields (fun t => IsTypeText t.text) (TooDeep depth v)

section Step

variable (hdepth : depth + 1 ≤ callLimit) (ih : ∀ shallower ≤ depth, ∀ {w : Value}, w.Plain →
  IsRegular w → YieldsType shallower w (typeWithin shallower w))

include ih

/-- The type of what a schema needs is found, or the schema is too deep. -/
theorem yieldsType_of_needs {w : Value} {shallower : Nat} (hv : IsRegular v)
    (hneeds : Needs v w) (hw : w.Plain) (hshallower : shallower ≤ depth)
    (hless : depth + w.nesting < shallower + v.nesting) :
    YieldsType (depth + 1) v (typeWithin shallower w) := by
  refine (ih shallower hshallower hw (hv.of_needs hneeds)).mono (fun _ h => h) fun f h => ?_
  have hdeep := h.2
  exact ⟨h.1, by omega⟩

include hdepth

theorem yieldsType_of_composed (hplain : v.Plain) (hv : IsRegular v)
    (hcomposed : Composed (depth + 1) v) :
    YieldsType (depth + 1) v (typeWithin (depth + 1) v) := by
  rw [typeWithin_of_composed hcomposed]
  have hshown := hcomposed.of_le hdepth
  have hless (key : String) := Value.nesting_field_lt hplain hcomposed.mapping key
  split
  · rename_i e es hes
    obtain ⟨ns, hns⟩ := exists_requiredNames (hv.presentable.required hshown ⟨e, es, hes⟩)
    have hkeys := hv.presentable.keys hshown _ hes
    rw [hns]
    have hmembers : Yields
        (List.Forall₂ (fun _ m => IsUnbroken m.1 ∧ IsTypeText m.2.2.text) (e :: es))
        (TooDeep (depth + 1) v) ((e :: es).mapM fun e => do
          let name ← keyOf e.1
          return (name, isRequired ns e.1, ← memberWithin depth e.2)) := by
      refine .mapM fun x hx => ?_
      obtain ⟨s, hs, hunbroken⟩ := hkeys x hx
      have hpart := Value.nesting_lt_of_mem_entries (Value.plain_field hplain _) hes hx
      have hproperties := hless "properties"
      rw [hs, memberWithin_eq]
      refine (yieldsType_of_needs ih hv (.property hshown hes hx)
        (Value.plain_of_mem_entries (Value.plain_field hplain _) hes hx) (Nat.sub_le _ _)
        (by omega)).bind fun t ht => .pure ⟨hunbroken, ht⟩
    refine hmembers.bind fun ms hms => .pure (isTypeText_object ?_ fun m hm => ?_)
    · rintro rfl
      cases hms
    · obtain ⟨_, -, hm⟩ := exists_of_forall₂ hms hm
      exact hm
  · rename_i hes
    dsimp only
    split
    · rename_i hadditional
      exact (yieldsType_of_needs ih hv (.additional hshown hes hadditional)
        (Value.plain_field hplain _) (Nat.le_refl _)
        (Nat.add_lt_add_left (hless _) _)).bind fun t ht => .pure (.record ht)
    · split
      · exact .pure (.record .any)
      · exact .pure .any

theorem yieldsType_of_typed (hplain : v.Plain) (hv : IsRegular v) (htyped : Typed (depth + 1) v) :
    YieldsType (depth + 1) v (typeWithin (depth + 1) v) := by
  have hshown := htyped.of_le hdepth
  have hmember := isMember_declaredType (hv.presentable.type hshown)
  by_cases harray : declaredType v = .text "array"
  · rw [typeWithin_of_typed htyped]
    simp only [harray, if_true]
    exact (yieldsType_of_needs ih hv (.items hshown harray) (Value.plain_field hplain _)
      (Nat.le_refl _) (Nat.add_lt_add_left (Value.nesting_field_lt hplain htyped.mapping _) _)).bind
      fun t ht => .pure (.array ht)
  · cases hprimitive : (declaredType v).text?.bind TypeExpr.ofPrimitive? with
    | some t =>
      obtain ⟨s, -, hs⟩ := Option.bind_eq_some_iff.mp hprimitive
      rw [typeWithin_of_typed htyped]
      simp only [harray, hmember, hprimitive, if_false, Bool.not_true, Bool.false_eq_true]
      exact .pure (isTypeText_ofPrimitive? hs)
    | none => exact yieldsType_of_composed hdepth ih hplain hv ⟨htyped, harray, hmember, hprimitive⟩

theorem yieldsType_of_structured (hplain : v.Plain) (hv : IsRegular v)
    (hstructured : Structured (depth + 1) v) :
    YieldsType (depth + 1) v (typeWithin (depth + 1) v) := by
  by_cases henum : ∀ x xs, (v.field "enum").items? ≠ some (x :: xs)
  · exact yieldsType_of_typed hdepth ih hplain hv ⟨hstructured, henum⟩
  · simp only [ne_eq, not_forall, not_not] at henum
    obtain ⟨x, xs, hxs⟩ := henum
    have hchoices := hv.presentable.choices (hstructured.of_le hdepth) _ hxs
    obtain ⟨ls, hls⟩ := exists_mapM_eq_ok fun y hy =>
      (hchoices y hy).exists_ofValue.imp fun _ h => h.1
    rw [typeWithin, hstructured.mapping, hstructured.handle]
    simp only [Bool.not_true, Bool.false_eq_true, if_false, Except.ok_bind, hxs, hls]
    exact .pure (isTypeText_literals hls hchoices)

end Step

/-- The type of a regular schema has a text of the grammar, unless the schema is too deep. -/
theorem yields_typeWithin (hdepth : depth ≤ callLimit) (hplain : v.Plain) (hv : IsRegular v) :
    YieldsType depth v (typeWithin depth v) := by
  induction depth using Nat.strongRecOn generalizing v with | ind depth ih
  cases depth with
  | zero => exact ⟨rfl, Nat.zero_le _⟩
  | succ depth =>
    cases hm : v.isMapping with
    | false =>
      rw [typeWithin, hm]
      exact .pure .any
    | true =>
      cases hfound : SchemaHandle.ofNodeWithin (depth + 1) v with
      | error g =>
        rw [typeWithin, hm, hfound]
        rcases SchemaHandle.tooDeep_of_ofNodeWithin hplain hfound with hmisnamed | hdeep
        · exact absurd hmisnamed (not_misnamed_of_namesHandles hv.presentable.names)
        · exact hdeep
      | ok found =>
        cases found with
        | some handle =>
          rw [typeWithin, hm, hfound]
          exact .pure (isTypeText_handleType handle)
        | none =>
          refine yieldsType_of_structured hdepth (fun shallower hshallower _ => ?_) hplain hv
            ⟨hm, hfound⟩
          exact ih shallower (by omega) (by omega)

end Regular

/-! ### Lists of regular schemas -/

/-- The schema of lists whose items have the given schema. -/
def listOf (v : Value) : Value := .ofFields [("type", .text "array"), ("items", v)]

section Lists

variable {v w : Value} {depth : Nat}

theorem isMapping_of_ofNodeWithin_ne {x : Except Fault (Option SchemaHandle)}
    (h : SchemaHandle.ofNodeWithin (depth + 1) v = x) (hx : x ≠ .ok none) : v.isMapping = true := by
  by_contra hm
  refine hx (h.symm.trans ?_)
  rw [SchemaHandle.ofNodeWithin, if_pos (by simpa using hm)]

theorem ofNodeWithin_listOf : SchemaHandle.ofNodeWithin (depth + 1) (listOf v) =
    (do return (← SchemaHandle.ofNodeWithin depth v).map .arrayOf) := by
  rw [SchemaHandle.ofNodeWithin]
  rfl

theorem typeWithin_listOf : typeWithin (depth + 1) (listOf v) = (do
    if let some handle ← SchemaHandle.ofNodeWithin (depth + 1) (listOf v) then
      return handleType handle
    return .array (← typeWithin depth v)) := by
  rw [typeWithin]
  rfl

/-- The type of a list is the list of the type, or the list is too deep: the items are looked at one
schema less deep than on their own, for a handle as well as for a type. -/
theorem extends_typeWithin_listOf :
    Extends (typeWithin (depth + 1) (listOf v))
      (do return .array (← typeWithin (depth + 1) v)) := by
  have hitems : Extends (SchemaHandle.ofNodeWithin depth v)
      (SchemaHandle.ofNodeWithin (depth + 1) v) :=
    SchemaHandle.extends_ofNodeWithin
  rw [typeWithin_listOf, ofNodeWithin_listOf]
  rcases hitems with hitems | hitems
  · rw [hitems]
    cases hfound : SchemaHandle.ofNodeWithin (depth + 1) v with
    | error f =>
      have hm : v.isMapping = true := isMapping_of_ofNodeWithin_ne hfound (by simp)
      rw [typeWithin, hm, hfound]
      exact .refl _
    | ok found =>
      cases found with
      | none => exact .bind extends_typeWithin fun _ => .refl _
      | some handle =>
        have hm : v.isMapping = true := isMapping_of_ofNodeWithin_ne hfound (by simp)
        rw [typeWithin, hm, hfound]
        exact .refl _
  · rw [hitems]
    exact .inr rfl

theorem not_composed_listOf : ¬ Composed depth (listOf v) := fun h => h.array rfl

/-- The type of a list needs that of its items only. -/
theorem eq_of_needs_listOf (h : Needs (listOf v) w) : w = v := by
  cases h with
  | items _ _ => rfl
  | property hv _ _ => exact absurd hv not_composed_listOf
  | additional hv _ _ => exact absurd hv not_composed_listOf

theorem eq_of_seeks_listOf (h : Seeks (listOf v) w) : w = v := by
  cases h
  rfl

theorem IsRegular.listOf (hv : IsRegular v) : IsRegular (listOf v) :=
  isRegular_of_presentable
    { names := namesHandles_of_seeks rfl fun _ hw => eq_of_seeks_listOf hw ▸ hv.presentable.names
      choices := fun _ xs hxs => by cases hxs
      type := fun _ => .inr (.inl ⟨"array", rfl⟩)
      required := fun h => absurd h not_composed_listOf
      keys := fun h => absurd h not_composed_listOf }
    fun _ hw => eq_of_needs_listOf hw ▸ hv

theorem plain_listOf (hv : v.Plain) : (listOf v).Plain :=
  Value.plain_ofFields (by simpa [Value.plain_scalar] using hv)

theorem nesting_listOf (v : Value) : (listOf v).nesting = v.nesting + 1 := by
  have htext : (Value.text "array").nesting = 0 := rfl
  simp [listOf, Value.ofFields, Value.nesting, Value.nestingEntries]

/-- **Types are in the grammar.** The type of a regular schema is found, with a text of the grammar,
unless there are too many containers inside each other. The type of the list of such schemas is the
list of the type then, unless the list is too deep. -/
theorem schemaType_of_isRegular (hplain : v.Plain) (hv : IsRegular v) :
    ((∃ t, schemaType v = .ok t ∧ IsTypeText t.text) ∨
      schemaType v = .error .depthExceeded ∧ callLimit ≤ v.nesting) ∧
    ∀ t, schemaType v = .ok t →
      (∃ u, schemaType (listOf v) = .ok u ∧ u.text = "Array<" ++ t.text ++ ">") ∨
        schemaType (listOf v) = .error .depthExceeded ∧ callLimit ≤ v.nesting + 1 := by
  have hlist : Extends (schemaType (listOf v)) (do return .array (← schemaType v)) :=
    extends_typeWithin_listOf
  refine ⟨(yields_typeWithin (Nat.le_refl _) hplain hv).ok_or_depthExceeded, fun t ht => ?_⟩
  rw [ht] at hlist
  rcases hlist with hlist | hdeep
  · exact .inl ⟨_, hlist, rfl⟩
  · have hyields : YieldsType callLimit (listOf v) (schemaType (listOf v)) :=
      yields_typeWithin (Nat.le_refl _) (plain_listOf hplain) hv.listOf
    rw [hdeep] at hyields
    exact .inr ⟨hdeep, nesting_listOf v ▸ hyields.2⟩

/-- Looking for the handle of a list of lists goes as deep as there are lists. -/
theorem ofNodeWithin_iterate_listOf {n : Nat} (h : depth ≤ n) (v : Value) :
    SchemaHandle.ofNodeWithin depth (listOf^[n] v) = .error .depthExceeded := by
  induction depth generalizing n with
  | zero => rfl
  | succ depth ih =>
    obtain ⟨n, rfl⟩ := Nat.exists_eq_add_one_of_ne_zero (by omega : n ≠ 0)
    rw [Function.iterate_succ_apply', ofNodeWithin_listOf, ih (by omega)]
    rfl

/-- Lists inside each other have no type if there are as many of them as calls are allowed. -/
theorem schemaType_iterate_listOf {n : Nat} (h : callLimit ≤ n) (v : Value) :
    schemaType (listOf^[n] v) = .error .depthExceeded := by
  have hdeep := ofNodeWithin_iterate_listOf h v
  obtain ⟨n, rfl⟩ := Nat.exists_eq_add_one_of_ne_zero (Nat.ne_of_gt (Nat.lt_of_lt_of_le
    (by decide : 0 < callLimit) h))
  rw [Function.iterate_succ_apply'] at hdeep ⊢
  change typeWithin (callLimit - 1 + 1) _ = _
  rw [typeWithin_listOf]
  change SchemaHandle.ofNodeWithin (callLimit - 1 + 1) _ = _ at hdeep
  rw [hdeep]
  rfl

end Lists

/-- A pet has a name of two, and tags. -/
def petShape : Value :=
  .ofFields [("properties", .ofFields [
    ("pet's name", .ofFields [("enum", .sequence [.text "Rex", .null])]),
    ("tags", listOf (.ofFields [("refType", .text "schema"), ("modelName", .text "Tag")]))])]

theorem isRegular_petShape : IsRegular petShape := by
  have hname : IsRegular (.ofFields [("enum", .sequence [.text "Rex", .null])]) := by
    refine isRegular_of_not_typed (fun h => h.enum _ _ rfl)
      (namesHandles_of_seeks rfl fun w hw => by cases hw; contradiction) fun _ xs hxs => ?_
    cases hxs
    simp only [List.forall_mem_cons]
    exact ⟨.text (by decide), .null, List.forall_mem_nil _⟩
  have htag : IsRegular (.ofFields [("refType", .text "schema"), ("modelName", .text "Tag")]) := by
    refine isRegular_of_not_typed (fun h => by cases h.handle) ?_ fun h => by cases h.handle
    intro w hw kind hkind
    rcases hw.cases_head with rfl | ⟨u, hu, hw⟩
    · exact .inr ⟨"Tag", rfl⟩
    · cases hu
      contradiction
  refine isRegular_of_presentable
    { names := namesHandles_of_seeks rfl fun w hw => by cases hw; contradiction
      choices := fun _ xs hxs => by cases hxs
      type := fun _ => .inl rfl
      required := fun _ _ => .inl rfl
      keys := fun _ es hes => ?_ } fun w hw => ?_
  · cases hes
    intro e he
    rcases List.mem_pair.mp he with rfl | rfl
    · exact ⟨_, rfl, by decide⟩
    · exact ⟨_, rfl, by decide⟩
  · cases hw with
    | items _ htype => cases htype
    | property _ hes he =>
      cases hes
      rcases List.mem_pair.mp he with rfl | rfl
      · exact hname
      · exact htag.listOf
    | additional _ hes _ => exact absurd rfl (hes _ _)

/-- The type of a pet, and of a list of pets. -/
theorem schemaType_of_isRegular_petShape : petShape.Plain ∧ IsRegular petShape ∧
    (∃ t, schemaType petShape = .ok t ∧ IsTypeText t.text ∧
      ∃ u, schemaType (listOf petShape) = .ok u ∧ u.text = "Array<" ++ t.text ++ ">") := by
  have hplain : petShape.Plain := rfl
  obtain ⟨⟨t, ht, htext⟩ | ⟨-, hdeep⟩, hlist⟩ := schemaType_of_isRegular hplain isRegular_petShape
  · refine ⟨hplain, isRegular_petShape, t, ht, htext, ?_⟩
    rcases hlist t ht with hlist | ⟨-, hdeep⟩
    · exact hlist
    · exact absurd hdeep (by decide)
  · exact absurd hdeep (by decide)

theorem schemaType_of_writableBound_le {n : Int} (h : Scalar.writableBound ≤ n.natAbs) :
    schemaType (.ofFields [("enum", .sequence [.int n])]) = .error .tooManyDigits := by
  have hdigits : (Value.int n).isWritable = false := by
    simpa only [Value.int, Value.isWritable, Scalar.isWritable, decide_eq_false_iff_not, not_lt]
      using h
  exact (breaks_schemaType.mpr (.literal ⟨rfl, rfl⟩ rfl (List.mem_singleton_self _) hdigits)).1

theorem isRegular_empty : IsRegular (.ofFields []) :=
  isRegular_of_presentable
    { names := namesHandles_of_seeks rfl fun w hw => by cases hw; contradiction
      choices := fun _ xs hxs => by cases hxs
      type := fun _ => .inl rfl
      required := fun _ _ => .inl rfl
      keys := fun _ es hes => by cases hes }
    fun w hw => by cases hw <;> contradiction

/-- A schema that is nested too deeply has no type though it is regular, and a choice of a whole
number with too many digits has none. -/
theorem not_schemaType_of_isRegular :
    (IsRegular (listOf^[5000] (.ofFields [])) ∧
      schemaType (listOf^[5000] (.ofFields [])) = .error .depthExceeded) ∧
    schemaType (.ofFields [("enum", .sequence [.int Scalar.writableBound])]) =
      .error .tooManyDigits := by
  refine ⟨⟨?_, schemaType_iterate_listOf (by decide) _⟩, ?_⟩
  · exact Function.Iterate.rec IsRegular isRegular_empty (fun _ hv => hv.listOf) 5000
  · exact schemaType_of_writableBound_le (Int.natAbs_natCast _).ge

end ClientGen.TypeScript
