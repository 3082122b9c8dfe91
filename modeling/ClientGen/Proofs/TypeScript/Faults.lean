import ClientGen.Proofs.TypeScript.Names

/-!
# Faults of types

Schemas are taken as they stand in a document, whose keys may hold values of any kind. A type is
found for a schema, or it is nested too deeply, or one of a few kinds of values stands where it does
not fit: the name of a handle is no text, a value of an enumeration is a too long number, the type
is a container, the required names are no collection, or the name of a property is no text.

## Main definitions

* `ClientGen.Breaks` : a step ends in a fault other than that of depth.
* `ClientGen.TypeScript.Untypable` : schemas that have no type.
* `ClientGen.TypeScript.Uncallable`, `ClientGen.TypeScript.Undeclarable` : operations that have no
  function, and schemas that have no declaration.

## Main results

* `ClientGen.TypeScript.breaks_schemaType` : the faults of types.
* `ClientGen.TypeScript.breaks_ofOperation` : the faults of functions.
* `ClientGen.TypeScript.breaks_ofSchema`, `ClientGen.TypeScript.lines_eq_error` : the faults of
  declarations, and those of writing them.
-/

namespace ClientGen

variable {v : Value} {f : Fault} {depth : Nat}

/-! ### Faults other than that of depth -/

section Breaks

variable {α β : Type} {x : Except Fault α}

/-- The step ends in the fault, which is another one than that of depth. -/
def Breaks (x : Except Fault α) (f : Fault) : Prop := x = .error f ∧ f ≠ .depthExceeded

theorem not_breaks_ok {a : α} : ¬ Breaks (.ok a) f := nofun

theorem not_breaks_pure {a : α} : ¬ Breaks (pure a) f := nofun

theorem breaks_error {g : Fault} :
    Breaks (.error g : Except Fault α) f ↔ f = g ∧ g ≠ .depthExceeded := by
  simp only [Breaks, Except.error.injEq]
  grind

theorem not_breaks_depthExceeded : ¬ Breaks (.error .depthExceeded : Except Fault α) f :=
  fun ⟨h, hf⟩ => hf (Except.error.inj h).symm

theorem breaks_bind {g : α → Except Fault β} :
    Breaks (x >>= g) f ↔ Breaks x f ∨ ∃ a, x = .ok a ∧ Breaks (g a) f := by
  simp only [Breaks, Except.bind_eq_error]
  grind

theorem breaks_mapM {g : α → Except Fault β} {xs : List α} :
    Breaks (xs.mapM g) f ↔ ∃ before a after, xs = before ++ a :: after ∧
      (∀ u ∈ before, ∃ y, g u = .ok y) ∧ Breaks (g a) f := by
  simp only [Breaks, mapM_eq_error_iff]
  grind

end Breaks

/-! ### Handles and collections -/

namespace SchemaHandle

/-- The schema has the kind of a handle and a name that is neither a text nor null, or is an array
of what such a schema stands for, looking at most `depth` schemas deep. -/
inductive Misnamed : Nat → Value → Prop
  /-- The name is neither a text nor null. -/
  | name {depth : Nat} {v : Value} {kind : ReferenceKind} (hv : v.isMapping = true)
      (hkind : kind? v = some kind)
      (h : PrimitiveParameter.textOrNull? (v.field "modelName") = none) : Misnamed (depth + 1) v
  /-- The items of the array are misnamed. -/
  | items {depth : Nat} {v : Value} (hv : v.isMapping = true) (hkind : kind? v = none)
      (htype : v.field "type" = .text "array") (h : Misnamed depth (v.field "items")) :
      Misnamed (depth + 1) v

/-- The faults of handles. -/
theorem breaks_ofNodeWithin :
    Breaks (ofNodeWithin depth v) f ↔ f = .shapeMismatch ∧ Misnamed depth v := by
  constructor
  · intro h
    induction depth generalizing v with
    | zero => exact absurd h not_breaks_depthExceeded
    | succ depth ih =>
      unfold ofNodeWithin at h
      split at h
      · exact absurd h not_breaks_ok
      · rename_i hv
        have hv : v.isMapping = true := by simpa using hv
        split at h
        · rename_i kind hkind
          rcases breaks_bind.mp h with ⟨h, -⟩ | ⟨name, -, h⟩
          · obtain ⟨hname, rfl⟩ := need_eq_error.mp h
            exact ⟨rfl, .name hv hkind hname⟩
          · exact absurd h not_breaks_pure
        · rename_i hkind
          split at h
          · rename_i htype
            rcases breaks_bind.mp h with h | ⟨found, -, h⟩
            · obtain ⟨rfl, hitems⟩ := ih h
              exact ⟨rfl, .items hv hkind htype hitems⟩
            · exact absurd h not_breaks_pure
          · exact absurd h not_breaks_ok
  · rintro ⟨rfl, h⟩
    induction h with
    | name hv hkind hname =>
      rw [ofNodeWithin, hv, hkind]
      exact breaks_bind.mpr (.inl ⟨need_eq_error.mpr ⟨hname, rfl⟩, by decide⟩)
    | items hv hkind htype _ ih =>
      rw [ofNodeWithin, hv, hkind, if_pos htype]
      exact breaks_bind.mpr (.inl ih)

end SchemaHandle

namespace Value

/-- A value that counts as present but is no collection of scalars. -/
inductive Uncollectable (v : Value) : Fault → Prop
  /-- The value is no collection. -/
  | scalar (hv : v.isFilled = true) (h : ∀ xs, v.elements ≠ .ok xs) :
      Uncollectable v .collectionExpected
  /-- An element is a container that can change. -/
  | container {xs : List Value} {x : Value} (hv : v.isFilled = true) (hxs : v.elements = .ok xs)
      (hx : x ∈ xs) (h : x.isMember = false) : Uncollectable v .containerAsMember

theorem breaks_elements :
    Breaks v.elements f ↔ f = .collectionExpected ∧ ∀ xs, v.elements ≠ .ok xs := by
  unfold elements
  split
  case h_7 => simp [breaks_error]
  all_goals simp [Breaks]

/-- The faults of sets of scalars. -/
theorem breaks_scalarSet : Breaks v.scalarSet f ↔ v.Uncollectable f := by
  constructor
  · intro h
    unfold scalarSet at h
    split at h
    · rename_i hv
      rcases breaks_bind.mp h with h | ⟨xs, hxs, h⟩
      · obtain ⟨rfl, hall⟩ := breaks_elements.mp h
        exact .scalar hv hall
      · split at h
        · exact absurd h not_breaks_pure
        · rename_i hmembers
          obtain ⟨rfl, -⟩ := breaks_error.mp h
          obtain ⟨x, hx, hmember⟩ := List.all_eq_false.mp (Bool.not_eq_true _ ▸ hmembers)
          exact .container hv hxs hx (by simpa using hmember)
    · exact absurd h not_breaks_ok
  · intro h
    cases h with
    | scalar hv hall =>
      rw [scalarSet, if_pos hv]
      exact breaks_bind.mpr (.inl (breaks_elements.mpr ⟨rfl, hall⟩))
    | @container xs x hv hxs hx hmember =>
      have hmembers : ¬ xs.all isMember = true := fun hall => by
        rw [List.all_eq_true.mp hall x hx] at hmember
        cases hmember
      rw [scalarSet, if_pos hv]
      refine breaks_bind.mpr (.inr ⟨xs, hxs, ?_⟩)
      rw [if_neg hmembers]
      exact breaks_error.mpr ⟨rfl, nofun⟩

end Value

namespace TypeScript

/-! ### Literals and members -/

theorem ofValue_eq_error :
    Literal.ofValue v = .error f ↔ f = .tooManyDigits ∧ v.isWritable = false := by
  unfold Literal.ofValue Value.shown
  cases hv : v.isWritable with
  | true => exact iff_of_false nofun nofun
  | false => simp [bind, Except.bind, eq_comm]

/-- The values of an enumeration are literals, unless a whole number is too long. -/
theorem breaks_mapM_ofValue {xs : List Value} :
    Breaks (xs.mapM Literal.ofValue) f ↔
      f = .tooManyDigits ∧ ∃ x ∈ xs, x.isWritable = false := by
  rw [Breaks, mapM_eq_error_iff_exists fun _ _ => ofValue_eq_error]
  grind

section Members

variable (required : List Scalar) {e : Scalar × Value}

theorem keyOf_eq_ok {x : Scalar} {s : String} : keyOf x = .ok s ↔ x = .text s := by
  cases x <;> simp [keyOf]

theorem keyOf_eq_error {x : Scalar} :
    keyOf x = .error f ↔ f = .textExpected ∧ ∀ s, x ≠ .text s := by
  cases x <;> simp [keyOf, eq_comm]

theorem breaks_keyOf {x : Scalar} :
    Breaks (keyOf x) f ↔ f = .textExpected ∧ ∀ s, x ≠ .text s := by
  rw [Breaks, keyOf_eq_error]
  grind

/-- The member for a property has a fault if the name is no text, or the type has it. -/
theorem breaks_member :
    Breaks (do
        let name ← keyOf e.1
        return (name, isRequired required e.1, ← memberWithin depth e.2) :
          Except Fault (String × Bool × TypeExpr)) f ↔
      f = .textExpected ∧ (∀ s, e.1 ≠ .text s) ∨
        (∃ s, e.1 = .text s) ∧ Breaks (typeWithin (depth - 1) e.2) f := by
  simp only [memberWithin_eq, breaks_bind, breaks_keyOf, keyOf_eq_ok, not_breaks_pure, and_false,
    exists_false, or_false, exists_and_right]

theorem exists_member_eq_ok_iff :
    (∃ m, (do
        let name ← keyOf e.1
        return (name, isRequired required e.1, ← memberWithin depth e.2) :
          Except Fault (String × Bool × TypeExpr)) = .ok m) ↔
      (∃ s, e.1 = .text s) ∧ ∃ t, typeWithin (depth - 1) e.2 = .ok t := by
  simp only [memberWithin_eq, Except.bind_eq_ok, keyOf_eq_ok, Except.pure_eq_ok]
  grind

end Members

/-! ### Types -/

/-- The schema is a mapping, and no handle, looking at most `depth` schemas deep. -/
structure Structured (depth : Nat) (v : Value) : Prop where
  /-- It is a mapping. -/
  mapping : v.isMapping = true
  /-- It is no handle. -/
  handle : SchemaHandle.ofNodeWithin depth v = .ok none

/-- The schema has the type that it declares: it is no handle and lists no values. -/
structure Typed (depth : Nat) (v : Value) : Prop extends Structured depth v where
  /-- It lists no values. -/
  enum : ∀ x xs, (v.field "enum").items? ≠ some (x :: xs)

/-- The schema has the type that its properties give: it declares no array and nothing primitive. -/
structure Composed (depth : Nat) (v : Value) : Prop extends Typed depth v where
  /-- It is no array. -/
  array : declaredType v ≠ .text "array"
  /-- The declared type is no container. -/
  member : (declaredType v).isMember = true
  /-- The declared type is not primitive. -/
  primitive : (declaredType v).text?.bind TypeExpr.ofPrimitive? = none

/-- The schema has no type, with at most `depth` calls inside each other, though it is not too
deep. -/
inductive Untypable : Nat → Value → Fault → Prop
  /-- The name of a handle is no text. -/
  | handle {depth : Nat} {v : Value} (hv : v.isMapping = true)
      (h : SchemaHandle.Misnamed (depth + 1) v) : Untypable (depth + 1) v .shapeMismatch
  /-- A listed value is a whole number with too many digits, or holds one. -/
  | literal {depth : Nat} {v x : Value} {xs : List Value} (hv : Structured (depth + 1) v)
      (hxs : (v.field "enum").items? = some xs) (hx : x ∈ xs) (h : x.isWritable = false) :
      Untypable (depth + 1) v .tooManyDigits
  /-- The items of an array have no type. -/
  | items {depth : Nat} {v : Value} {f : Fault} (hv : Typed (depth + 1) v)
      (htype : declaredType v = .text "array") (h : Untypable depth (v.field "items") f) :
      Untypable (depth + 1) v f
  /-- The declared type is a container. -/
  | type {depth : Nat} {v : Value} (hv : Typed (depth + 1) v)
      (htype : (declaredType v).isMember = false) :
      Untypable (depth + 1) v .containerAsMember
  /-- The required names are no collection of scalars. -/
  | required {depth : Nat} {v : Value} {f : Fault} {es : List (Scalar × Value)}
      (hv : Composed (depth + 1) v)
      (hes : (v.field "properties").entries? = some es) (hne : es ≠ [])
      (h : (v.field "required").Uncollectable f) : Untypable (depth + 1) v f
  /-- The name of a property is no text, and the properties in front of it have types. -/
  | key {depth : Nat} {v : Value} {before after : List (Scalar × Value)} {e : Scalar × Value}
      (hv : Composed (depth + 1) v)
      (hes : (v.field "properties").entries? = some (before ++ e :: after))
      (hrequired : ∃ ns, requiredNames v = .ok ns)
      (hbefore : ∀ x ∈ before, (∃ s, x.1 = .text s) ∧ ∃ t, typeWithin (depth - 1) x.2 = .ok t)
      (h : ∀ s, e.1 ≠ .text s) : Untypable (depth + 1) v .textExpected
  /-- A property has no type, and those in front of it have types. -/
  | property {depth : Nat} {v : Value} {f : Fault} {before after : List (Scalar × Value)}
      {e : Scalar × Value} {s : String} (hv : Composed (depth + 1) v)
      (hes : (v.field "properties").entries? = some (before ++ e :: after))
      (hrequired : ∃ ns, requiredNames v = .ok ns)
      (hbefore : ∀ x ∈ before, (∃ s, x.1 = .text s) ∧ ∃ t, typeWithin (depth - 1) x.2 = .ok t)
      (hkey : e.1 = .text s) (h : Untypable (depth - 1) e.2 f) : Untypable (depth + 1) v f
  /-- There are no properties, and additional ones have no type. -/
  | additional {depth : Nat} {v : Value} {f : Fault} (hv : Composed (depth + 1) v)
      (hes : ∀ e es, (v.field "properties").entries? ≠ some (e :: es))
      (hadditional : (v.field "additionalProperties").isMapping = true)
      (h : Untypable depth (v.field "additionalProperties") f) : Untypable (depth + 1) v f

theorem Untypable.isMapping (h : Untypable depth v f) : v.isMapping = true := by
  cases h with
  | handle hv => exact hv
  | literal hv => exact hv.mapping
  | items hv | type hv => exact hv.mapping
  | required hv | key hv | property hv | additional hv => exact hv.mapping

/-- A schema that lists no values has the type that it declares. -/
theorem typeWithin_of_typed (hv : Typed (depth + 1) v) : typeWithin (depth + 1) v = (do
    let declared := declaredType v
    if declared = .text "array" then return .array (← typeWithin depth (v.field "items"))
    if !declared.isMember then throw .containerAsMember
    if let some t := declared.text?.bind TypeExpr.ofPrimitive? then return t
    if let some (e :: es) := (v.field "properties").entries? then
      let required ← requiredNames v
      let members ← (e :: es).mapM fun e => do
        let name ← keyOf e.1
        return (name, isRequired required e.1, ← memberWithin depth e.2)
      return .object members
    let additional := v.field "additionalProperties"
    if additional.isMapping then return .record (← typeWithin depth additional)
    if declared = .text "object" ∨ additional = .bool true then return .record .any
    return .any) := by
  rw [typeWithin, hv.mapping, hv.handle]
  simp only [Bool.not_true, Bool.false_eq_true, if_false, Except.ok_bind]
  split
  · rename_i x xs hxs
    exact absurd hxs (hv.enum x xs)
  · rfl

/-- A schema that declares neither an array nor anything primitive has the type that its properties
give. -/
theorem typeWithin_of_composed (hv : Composed (depth + 1) v) : typeWithin (depth + 1) v = (do
    if let some (e :: es) := (v.field "properties").entries? then
      let required ← requiredNames v
      let members ← (e :: es).mapM fun e => do
        let name ← keyOf e.1
        return (name, isRequired required e.1, ← memberWithin depth e.2)
      return .object members
    let additional := v.field "additionalProperties"
    if additional.isMapping then return .record (← typeWithin depth additional)
    if declaredType v = .text "object" ∨ additional = .bool true then return .record .any
    return .any) := by
  rw [typeWithin_of_typed hv.toTyped]
  simp only [hv.array, hv.member, hv.primitive, if_false, Bool.not_true, Bool.false_eq_true]

section Untypable

variable (ih : ∀ shallower ≤ depth, ∀ {w : Value} {g : Fault},
  Breaks (typeWithin shallower w) g → Untypable shallower w g)

include ih

theorem untypable_of_composed (hv : Composed (depth + 1) v)
    (h : Breaks (typeWithin (depth + 1) v) f) :
    Untypable (depth + 1) v f := by
  rw [typeWithin_of_composed hv] at h
  split at h
  · rename_i e es hes
    rcases breaks_bind.mp h with h | ⟨ns, hns, h⟩
    · exact .required hv hes (List.cons_ne_nil _ _) (Value.breaks_scalarSet.mp h)
    · rcases breaks_bind.mp h with h | ⟨ms, -, h⟩
      · obtain ⟨before, x, after, hsplit, hbefore, hx⟩ := breaks_mapM.mp h
        rw [hsplit] at hes
        simp only [exists_member_eq_ok_iff] at hbefore
        rcases (breaks_member _).mp hx with ⟨rfl, hkey⟩ | ⟨⟨s, hkey⟩, hx⟩
        · exact .key hv hes ⟨ns, hns⟩ hbefore hkey
        · exact .property hv hes ⟨ns, hns⟩ hbefore hkey (ih _ (Nat.sub_le _ _) hx)
      · exact absurd h not_breaks_pure
  · rename_i hes
    simp only at h
    split at h
    · rename_i hadditional
      rcases breaks_bind.mp h with h | ⟨t, -, h⟩
      · exact .additional hv hes hadditional (ih _ (Nat.le_refl _) h)
      · exact absurd h not_breaks_pure
    · split at h <;> exact absurd h not_breaks_pure

theorem untypable_of_typed (hv : Typed (depth + 1) v) (h : Breaks (typeWithin (depth + 1) v) f) :
    Untypable (depth + 1) v f := by
  by_cases harray : declaredType v = .text "array"
  · rw [typeWithin_of_typed hv] at h
    simp only [harray, if_true] at h
    rcases breaks_bind.mp h with h | ⟨t, -, h⟩
    · exact .items hv harray (ih _ (Nat.le_refl _) h)
    · exact absurd h not_breaks_pure
  cases hmember : (declaredType v).isMember with
  | false =>
    rw [typeWithin_of_typed hv] at h
    simp only [harray, hmember, if_false, Bool.not_false, if_true] at h
    obtain ⟨rfl, -⟩ := breaks_error.mp h
    exact .type hv hmember
  | true =>
    cases hprimitive : (declaredType v).text?.bind TypeExpr.ofPrimitive? with
    | some t =>
      rw [typeWithin_of_typed hv] at h
      simp only [harray, hmember, hprimitive, if_false, Bool.not_true, Bool.false_eq_true] at h
      exact absurd h not_breaks_pure
    | none => exact untypable_of_composed ih ⟨hv, harray, hmember, hprimitive⟩ h

theorem untypable_of_structured (hv : Structured (depth + 1) v)
    (h : Breaks (typeWithin (depth + 1) v) f) :
    Untypable (depth + 1) v f := by
  by_cases henum : ∀ x xs, (v.field "enum").items? ≠ some (x :: xs)
  · exact untypable_of_typed ih ⟨hv, henum⟩ h
  · simp only [ne_eq, not_forall, not_not] at henum
    obtain ⟨x, xs, hxs⟩ := henum
    rw [typeWithin, hv.mapping, hv.handle] at h
    simp only [Bool.not_true, Bool.false_eq_true, if_false, Except.ok_bind, hxs] at h
    rcases breaks_bind.mp h with h | ⟨ls, -, h⟩
    · obtain ⟨rfl, y, hy, hwritable⟩ := breaks_mapM_ofValue.mp h
      exact .literal hv hxs hy hwritable
    · exact absurd h not_breaks_pure

end Untypable

theorem untypable_of_breaks (h : Breaks (typeWithin depth v) f) : Untypable depth v f := by
  induction depth using Nat.strongRecOn generalizing v f with | ind depth ih
  cases depth with
  | zero => exact absurd h not_breaks_depthExceeded
  | succ depth =>
    cases hm : v.isMapping with
    | false =>
      rw [typeWithin, hm] at h
      exact absurd h not_breaks_pure
    | true =>
      cases hfound : SchemaHandle.ofNodeWithin (depth + 1) v with
      | error g =>
        rw [typeWithin, hm, hfound] at h
        rcases breaks_bind.mp h with h | ⟨found, hok, -⟩
        · obtain ⟨rfl, hname⟩ := SchemaHandle.breaks_ofNodeWithin.mp (hfound ▸ h)
          exact .handle hm hname
        · cases hok
      | ok found =>
        cases found with
        | some handle =>
          rw [typeWithin, hm, hfound] at h
          exact absurd h not_breaks_pure
        | none =>
          exact untypable_of_structured (fun d hd => ih d (Nat.lt_succ_of_le hd)) ⟨hm, hfound⟩ h

/-- A fault of the member for a property is one of the schema, if there is none in front of it. -/
theorem breaks_of_member {before after : List (Scalar × Value)} {e : Scalar × Value}
    (hv : Composed (depth + 1) v)
    (hes : (v.field "properties").entries? = some (before ++ e :: after))
    (hrequired : ∃ ns, requiredNames v = .ok ns)
    (hbefore : ∀ x ∈ before, (∃ s, x.1 = .text s) ∧ ∃ t, typeWithin (depth - 1) x.2 = .ok t)
    (h : f = .textExpected ∧ (∀ s, e.1 ≠ .text s) ∨
      (∃ s, e.1 = .text s) ∧ Breaks (typeWithin (depth - 1) e.2) f) :
    Breaks (typeWithin (depth + 1) v) f := by
  obtain ⟨ns, hns⟩ := hrequired
  have hmembers := breaks_mapM.mpr ⟨before, e, after, rfl,
    fun u hu => (exists_member_eq_ok_iff ns).mpr (hbefore u hu), (breaks_member ns).mpr h⟩
  obtain ⟨x, xs, hcons⟩ := List.exists_cons_of_ne_nil (l := before ++ e :: after) (by simp)
  rw [hcons] at hes hmembers
  rw [typeWithin_of_composed hv]
  simp only [hes, hns, Except.ok_bind]
  exact breaks_bind.mpr (.inl hmembers)

theorem breaks_of_untypable (h : Untypable depth v f) : Breaks (typeWithin depth v) f := by
  induction h with
  | handle hv h =>
    rw [typeWithin, hv]
    exact breaks_bind.mpr (.inl (SchemaHandle.breaks_ofNodeWithin.mpr ⟨rfl, h⟩))
  | @literal depth v x xs hv hxs hx h =>
    have hliterals := breaks_mapM_ofValue.mpr ⟨rfl, x, hx, h⟩
    obtain ⟨y, ys, rfl⟩ := List.exists_cons_of_ne_nil (List.ne_nil_of_mem hx)
    rw [typeWithin, hv.mapping, hv.handle]
    simp only [Bool.not_true, Bool.false_eq_true, if_false, Except.ok_bind, hxs]
    exact breaks_bind.mpr (.inl hliterals)
  | items hv htype _ ih =>
    rw [typeWithin_of_typed hv]
    simp only [htype, if_true]
    exact breaks_bind.mpr (.inl ih)
  | @type depth v hv htype =>
    have harray : declaredType v ≠ .text "array" := fun h => by
      rw [h] at htype
      cases htype
    rw [typeWithin_of_typed hv]
    simp only [harray, htype, if_false, Bool.not_false, if_true]
    exact breaks_error.mpr ⟨rfl, by decide⟩
  | @required depth v f es hv hes hne h =>
    obtain ⟨e, es, rfl⟩ := List.exists_cons_of_ne_nil hne
    rw [typeWithin_of_composed hv]
    simp only [hes]
    exact breaks_bind.mpr (.inl (Value.breaks_scalarSet.mpr h))
  | key hv hes hrequired hbefore h =>
    exact breaks_of_member hv hes hrequired hbefore (.inl ⟨rfl, h⟩)
  | property hv hes hrequired hbefore hkey _ ih =>
    exact breaks_of_member hv hes hrequired hbefore (.inr ⟨⟨_, hkey⟩, ih⟩)
  | additional hv hes hadditional h ih =>
    rw [typeWithin_of_composed hv]
    simp only [hadditional, if_true]
    exact breaks_bind.mpr (.inl ih)

/-- The faults of types. -/
theorem breaks_schemaType : Breaks (schemaType v) f ↔ Untypable callLimit v f :=
  ⟨untypable_of_breaks, breaks_of_untypable⟩

/-! ### Operations -/

theorem not_breaks_modelsWithin : ¬ Breaks (modelsWithin depth v) f := by
  induction depth generalizing v with
  | zero => exact not_breaks_depthExceeded
  | succ depth ih =>
    unfold modelsWithin
    split
    · simp only [breaks_bind, breaks_mapM, ih, not_breaks_pure]
      grind
    · simp only [breaks_bind, breaks_mapM, ih, not_breaks_pure]
      grind
    · exact not_breaks_ok

theorem not_breaks_referencedModels : ¬ Breaks (referencedModels v) f := by
  simp only [referencedModels, breaks_bind, not_breaks_modelsWithin, not_breaks_pure, and_false,
    exists_false, or_false, not_false_eq_true]

theorem breaks_schemaType_of_ofNode? (h : Breaks (SchemaHandle.ofNode? v) f) :
    Breaks (schemaType v) f := by
  obtain ⟨rfl, hname⟩ := SchemaHandle.breaks_ofNodeWithin.mp h
  have hv : v.isMapping = true := by cases hname <;> assumption
  exact breaks_schemaType.mpr (.handle hv hname)

/-- If the type of a schema has a fault, either its handle has it, or the schema is no handle. -/
theorem breaks_ofNode?_or (h : Breaks (schemaType v) f) :
    Breaks (SchemaHandle.ofNode? v) f ∨ SchemaHandle.ofNode? v = .ok none := by
  have hv := breaks_schemaType.mp h
  cases hv with
  | handle hv hname => exact .inl (SchemaHandle.breaks_ofNodeWithin.mpr ⟨rfl, hname⟩)
  | literal hv => exact .inr hv.handle
  | items hv | type hv => exact .inr hv.handle
  | required hv | key hv | property hv | additional hv => exact .inr hv.handle

theorem exists_ofNode?_eq_ok {t : TypeExpr} (h : schemaType v = .ok t) :
    ∃ handle, SchemaHandle.ofNode? v = .ok handle := by
  unfold schemaType callLimit typeWithin at h
  split at h
  · rename_i hv
    exact ⟨none, by rw [SchemaHandle.ofNode?, callLimit, SchemaHandle.ofNodeWithin, if_pos hv]⟩
  · obtain ⟨handle, hhandle, -⟩ := Except.bind_eq_ok.mp h
    exact ⟨handle, hhandle⟩

/-- The faults of the argument for a body are those of its type. -/
theorem breaks_bindBody {taken : List String} :
    Breaks (bindBody taken v) f ↔ Untypable callLimit (jsonSchema v) f := by
  rw [← breaks_schemaType]
  unfold bindBody
  simp only
  split
  · rename_i hnull
    rw [hnull]
    exact iff_of_false not_breaks_pure not_breaks_pure
  · constructor
    · intro h
      rcases breaks_bind.mp h with h | ⟨handle, -, h⟩
      · exact breaks_schemaType_of_ofNode? h
      · rcases breaks_bind.mp h with h | ⟨t, -, h⟩
        · exact h
        · rcases breaks_bind.mp h with h | ⟨ns, -, h⟩
          · exact absurd h not_breaks_referencedModels
          · exact absurd h not_breaks_pure
    · intro h
      rcases breaks_ofNode?_or h with hnode | hnode
      · exact breaks_bind.mpr (.inl hnode)
      · exact breaks_bind.mpr (.inr ⟨none, hnode, breaks_bind.mpr (.inl h)⟩)

/-- A body has its argument if it has a type and what it refers to is listed. -/
theorem exists_bindBody_eq_ok_iff {taken : List String} : (∃ b, bindBody taken v = .ok b) ↔
    (∃ t, schemaType (jsonSchema v) = .ok t) ∧ ∃ ns, referencedModels (jsonSchema v) = .ok ns := by
  unfold bindBody
  simp only
  split
  · rename_i hnull
    rw [hnull]
    exact iff_of_true ⟨none, rfl⟩ ⟨⟨.any, rfl⟩, _, rfl⟩
  · constructor
    · rintro ⟨b, h⟩
      obtain ⟨handle, -, h⟩ := Except.bind_eq_ok.mp h
      obtain ⟨t, ht, h⟩ := Except.bind_eq_ok.mp h
      obtain ⟨ns, hns, -⟩ := Except.bind_eq_ok.mp h
      exact ⟨⟨t, ht⟩, ns, hns⟩
    · rintro ⟨⟨t, ht⟩, ns, hns⟩
      obtain ⟨handle, hhandle⟩ := exists_ofNode?_eq_ok ht
      rw [hhandle, ht, hns]
      exact ⟨_, rfl⟩

/-- The schema of the body of an operation in JSON. -/
def bodySchema (o : Operation) : Value := jsonSchema (.ofFields (o.requestBody.getD []))

/-- No function can be made for the operation. -/
inductive Uncallable (o : Operation) : Fault → Prop
  /-- The body has no type. -/
  | body {f : Fault} (h : Untypable callLimit (bodySchema o) f) : Uncallable o f
  /-- The body has its argument, and the response of success has no type. -/
  | result {f : Fault} {r : Value} (htype : ∃ t, schemaType (bodySchema o) = .ok t)
      (hmodels : ∃ ns, referencedModels (bodySchema o) = .ok ns)
      (hr : successResponse (.ofFields (o.responses.getD [])) = some r)
      (h : Untypable callLimit (jsonSchema r) f) : Uncallable o f

theorem breaks_resultType {fs : Fields} : Breaks (resultType (.ofFields fs)) f ↔
    ∃ r, successResponse (.ofFields fs) = some r ∧ Untypable callLimit (jsonSchema r) f := by
  have hmapping : (Value.ofFields fs).isMapping = true := rfl
  unfold resultType
  simp only [hmapping, Bool.not_true, Bool.and_false, Bool.false_eq_true, if_false,
    ← breaks_schemaType]
  split
  · rename_i hnone
    simp [hnone, not_breaks_ok]
  · rename_i r hr
    simp only [hr, Option.some.injEq, exists_eq_left']
    split
    · rename_i hnull
      rw [hnull]
      exact iff_of_false not_breaks_ok not_breaks_pure
    · rfl

/-- The faults of functions for operations. -/
theorem breaks_ofOperation {o : Operation} :
    Breaks (RequestFunction.ofOperation o) f ↔ Uncallable o f := by
  constructor
  · intro h
    rcases breaks_bind.mp h with h | ⟨b, hb, h⟩
    · exact .body (breaks_bindBody.mp h)
    · obtain ⟨htype, hmodels⟩ := exists_bindBody_eq_ok_iff.mp ⟨b, hb⟩
      rcases breaks_bind.mp h with h | ⟨t, -, h⟩
      · obtain ⟨r, hr, h⟩ := breaks_resultType.mp h
        exact .result htype hmodels hr h
      · rcases breaks_bind.mp h with h | ⟨ns, -, h⟩
        · obtain ⟨_, r, _, -, -, h⟩ := breaks_mapM.mp h
          exact absurd h not_breaks_referencedModels
        · exact absurd h not_breaks_pure
  · intro h
    cases h with
    | body h => exact breaks_bind.mpr (.inl (breaks_bindBody.mpr h))
    | result htype hmodels hr h =>
      obtain ⟨b, hb⟩ := exists_bindBody_eq_ok_iff.mpr ⟨htype, hmodels⟩
      refine breaks_bind.mpr (.inr ⟨b, hb, breaks_bind.mpr (.inl ?_)⟩)
      exact breaks_resultType.mpr ⟨_, hr, h⟩

/-! ### Declarations -/

/-- The schema cannot be declared. -/
inductive Undeclarable (v : Value) : Fault → Prop
  /-- The required names of an interface are no collection of scalars. -/
  | required {f : Fault} (hv : Declaration.isInterface v = true)
      (h : (v.field "required").Uncollectable f) : Undeclarable v f
  /-- The properties of an interface are no mapping. -/
  | properties (hv : Declaration.isInterface v = true)
      (hrequired : ∃ ns, requiredNames v = .ok ns)
      (hfilled : (v.field "properties").isFilled = true)
      (h : (v.field "properties").entries? = none) : Undeclarable v .mappingExpected
  /-- A property of an interface has no type, and those in front of it have types. -/
  | property {f : Fault} {before after : List (Scalar × Value)} {e : Scalar × Value}
      (hv : Declaration.isInterface v = true) (hrequired : ∃ ns, requiredNames v = .ok ns)
      (hes : (v.field "properties").entries? = some (before ++ e :: after))
      (hbefore : ∀ x ∈ before, ∃ t, schemaType x.2 = .ok t)
      (h : Untypable callLimit e.2 f) : Undeclarable v f
  /-- The schema is declared as an alias, and has no type. -/
  | type {f : Fault} (hv : Declaration.isInterface v = false) (h : Untypable callLimit v f) :
      Undeclarable v f

theorem isMapping_of_isInterface (h : Declaration.isInterface v = true) : v.isMapping = true := by
  cases hv : v.isMapping with
  | true => rfl
  | false =>
    rw [Declaration.isInterface, Value.field_of_isMapping_eq_false hv,
      Value.field_of_isMapping_eq_false hv] at h
    cases h

theorem breaks_ofEntry {required : List Scalar} {e : Scalar × Value} :
    Breaks (Property.ofEntry required e) f ↔ Breaks (schemaType e.2) f := by
  simp only [Property.ofEntry, breaks_bind, not_breaks_pure, and_false, exists_false, or_false]

theorem exists_ofEntry_eq_ok_iff {required : List Scalar} {e : Scalar × Value} :
    (∃ p, Property.ofEntry required e = .ok p) ↔ ∃ t, schemaType e.2 = .ok t := by
  simp only [Property.ofEntry, Except.bind_eq_ok, Except.pure_eq_ok]
  grind

theorem breaks_propertiesOf : Breaks (propertiesOf v) f ↔ f = .mappingExpected ∧
    (v.field "properties").isFilled = true ∧ (v.field "properties").entries? = none := by
  unfold propertiesOf
  simp only
  split
  · rename_i es hes
    simp [hes, not_breaks_ok]
  · rename_i hes
    split
    · rename_i hfilled
      simp [hes, hfilled, breaks_error]
    · rename_i hfilled
      simp [hfilled, not_breaks_ok]

theorem entries?_of_propertiesOf {es : List (Scalar × Value)} (h : propertiesOf v = .ok es)
    (hne : es ≠ []) : (v.field "properties").entries? = some es := by
  unfold propertiesOf at h
  simp only at h
  split at h
  · rename_i es' hes
    rw [hes, Except.ok.inj h]
  · split at h
    · cases h
    · exact absurd (Except.ok.inj h).symm hne

/-- The faults of declarations. -/
theorem breaks_ofSchema {name : String} :
    Breaks (Declaration.ofSchema name v) f ↔ Undeclarable v f := by
  constructor
  · intro h
    unfold Declaration.ofSchema at h
    simp only at h
    split at h
    · exact absurd h not_breaks_pure
    · split at h
      · rename_i hv
        rcases breaks_bind.mp h with h | ⟨ns, hns, h⟩
        · exact .required hv (Value.breaks_scalarSet.mp h)
        · rcases breaks_bind.mp h with h | ⟨es, hes, h⟩
          · obtain ⟨rfl, hfilled, hnone⟩ := breaks_propertiesOf.mp h
            exact .properties hv ⟨ns, hns⟩ hfilled hnone
          · rcases breaks_bind.mp h with h | ⟨ps, -, h⟩
            · obtain ⟨before, e, after, rfl, hbefore, h⟩ := breaks_mapM.mp h
              simp only [exists_ofEntry_eq_ok_iff] at hbefore
              have hentries := entries?_of_propertiesOf hes (by simp)
              exact .property hv ⟨ns, hns⟩ hentries hbefore
                (breaks_schemaType.mp (breaks_ofEntry.mp h))
            · exact absurd h not_breaks_pure
      · rename_i hv
        rcases breaks_bind.mp h with h | ⟨t, -, h⟩
        · exact .type (by simpa using hv) (breaks_schemaType.mp h)
        · exact absurd h not_breaks_pure
  · intro h
    unfold Declaration.ofSchema
    cases h with
    | required hv h =>
      simp only [isMapping_of_isInterface hv, hv, Bool.not_true, Bool.false_eq_true, if_false,
        if_true]
      exact breaks_bind.mpr (.inl (Value.breaks_scalarSet.mpr h))
    | properties hv hrequired hfilled h =>
      obtain ⟨ns, hns⟩ := hrequired
      simp only [isMapping_of_isInterface hv, hv, hns, Except.ok_bind, Bool.not_true,
        Bool.false_eq_true, if_false, if_true]
      exact breaks_bind.mpr (.inl (breaks_propertiesOf.mpr ⟨rfl, hfilled, h⟩))
    | @property f before after e hv hrequired hes hbefore h =>
      obtain ⟨ns, hns⟩ := hrequired
      have hproperties : propertiesOf v = .ok (before ++ e :: after) := by
        simp only [propertiesOf, hes]
      simp only [isMapping_of_isInterface hv, hv, hns, hproperties, Except.ok_bind, Bool.not_true,
        Bool.false_eq_true, if_false, if_true]
      refine breaks_bind.mpr (.inl (breaks_mapM.mpr ⟨before, e, after, rfl, fun u hu => ?_, ?_⟩))
      · exact exists_ofEntry_eq_ok_iff.mpr (hbefore u hu)
      · exact breaks_ofEntry.mpr (breaks_schemaType.mpr h)
    | type hv h =>
      simp only [h.isMapping, hv, Bool.not_true, Bool.false_eq_true, if_false]
      exact breaks_bind.mpr (.inl (breaks_schemaType.mpr h))

/-- The members of an interface; none for an alias. -/
def Declaration.properties (d : Declaration) : List Property :=
  match d.body with
  | .alias _ => []
  | .interface ps => ps

theorem propertyLines_eq_error {p : Property} :
    p.lines = .error f ↔ f = .textExpected ∧ ∀ s, p.name ≠ .text s := by
  rw [Property.lines, Except.bind_pure_eq_error, keyOf_eq_error]

/-- A declaration is written unless the name of a member is no text. -/
theorem lines_eq_error {d : Declaration} : d.lines = .error f ↔
    f = .textExpected ∧ ∃ p ∈ d.properties, ∀ s, p.name ≠ .text s := by
  unfold Declaration.lines Declaration.properties
  cases d.body with
  | «alias» t => exact iff_of_false nofun (by simp)
  | interface ps =>
    simp only [pure_bind, Except.bind_pure_eq_error]
    exact mapM_eq_error_iff_exists fun _ _ => propertyLines_eq_error

/-- The schema is declared as an interface and has a property whose name is no text. -/
def HasOddKey (v : Value) : Prop :=
  Declaration.isInterface v = true ∧
    ∃ es, (v.field "properties").entries? = some es ∧ ∃ e ∈ es, ∀ s, e.1 ≠ .text s

theorem hasOddKey_iff {name : String} {d : Declaration} (h : Declaration.ofSchema name v = .ok d) :
    HasOddKey v ↔ ∃ p ∈ d.properties, ∀ s, p.name ≠ .text s := by
  unfold Declaration.ofSchema at h
  simp only at h
  split at h
  · rename_i hv
    obtain rfl := Except.pure_eq_ok.mp h
    refine iff_of_false (fun hodd => ?_) (by simp [Declaration.properties])
    simp [isMapping_of_isInterface hodd.1] at hv
  · split at h
    · rename_i hv
      obtain ⟨ns, -, h⟩ := Except.bind_eq_ok.mp h
      obtain ⟨es, hes, h⟩ := Except.bind_eq_ok.mp h
      obtain ⟨ps, hps, h⟩ := Except.bind_eq_ok.mp h
      obtain rfl := Except.pure_eq_ok.mp h
      have hnames : List.Forall₂ (fun e p => e.1 = p.name) es ps := by
        refine (mapM_eq_ok_iff.mp hps).imp fun e p hp => ?_
        obtain ⟨t, -, hp⟩ := Except.bind_eq_ok.mp hp
        rw [← Except.pure_eq_ok.mp hp]
      constructor
      · rintro ⟨-, es', hes', e, he, hkey⟩
        obtain rfl : es = es' := by
          rw [propertiesOf, hes'] at hes
          exact (Except.ok.inj hes).symm
        obtain ⟨p, hp, hep⟩ := exists_of_forall₂ hnames.flip he
        exact ⟨p, hp, hep ▸ hkey⟩
      · rintro ⟨p, hp, hname⟩
        obtain ⟨e, he, hep⟩ := exists_of_forall₂ hnames hp
        exact ⟨hv, es, entries?_of_propertiesOf hes (List.ne_nil_of_mem he), e, he, hep ▸ hname⟩
    · rename_i hv
      obtain ⟨t, -, h⟩ := Except.bind_eq_ok.mp h
      obtain rfl := Except.pure_eq_ok.mp h
      exact iff_of_false (fun hodd => hv hodd.1) (by simp [Declaration.properties])

end TypeScript

end ClientGen
