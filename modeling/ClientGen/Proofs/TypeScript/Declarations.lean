import ClientGen.Proofs.TypeScript.Grammar

/-!
# Declarations and types

A schema that is composed of properties has a type where it stands inside other ones, and is
declared where it has a name. With properties, the members of the interface are those of the type,
in their order, written alike. With additional properties only, the declaration is an alias for the
type if the schema neither says that it is an object nor has a mapping of properties, and an
interface without members otherwise.

## Main definitions

* `ClientGen.TypeScript.Property.IsMember` : a property and a member of an object that agree.
* `ClientGen.TypeScript.Declaration.Presents` : declarations that stand for a type.
* `ClientGen.TypeScript.IsComposite` : schemas with properties or additional ones.
* `ClientGen.TypeScript.IsDeclaredAsTyped` : those whose declarations stand for their types.

## Main results

* `ClientGen.TypeScript.Property.IsMember.lines_eq` : the line of a member has its text.
* `ClientGen.TypeScript.presents_ofSchema_of_properties` : interfaces.
* `ClientGen.TypeScript.presents_ofSchema_iff` : which declarations stand for types.
-/

namespace ClientGen.TypeScript

variable {v : Value} {t : TypeExpr} {name : String}

/-! ### Declarations that stand for a type -/

/-- The property is the member of an object; the truth value says that the key has to be there. -/
structure Property.IsMember (p : Property) (m : String × Bool × TypeExpr) : Prop where
  /-- The names agree. -/
  name : p.name = .text m.1
  /-- The property may be missing if the key does not have to be there. -/
  mayMiss : p.mayMiss = !m.2.1
  /-- The types agree. -/
  type : p.type = m.2.2

/-- The body of a declaration stands for the type: it is an alias for the type, or an interface with
the members of the type. -/
inductive DeclarationBody.Denotes : DeclarationBody → TypeExpr → Prop
  | alias (t : TypeExpr) : Denotes (.alias t) t
  | interface {ps : List Property} {ms : List (String × Bool × TypeExpr)}
    (h : List.Forall₂ Property.IsMember ps ms) : Denotes (.interface ps) (.object ms)

/-- The declaration stands for the type, and is written like it. -/
structure Declaration.Presents (d : Declaration) (t : TypeExpr) : Prop where
  /-- The body stands for the type. -/
  denotes : d.body.Denotes t
  /-- The texts of the members, each of which has a line of its own in an interface, are joined in
  the text of the type. -/
  text : ∀ ps, d.body = .interface ps → ∃ ss : List String,
    List.Forall₂ (fun p s =>
      p.lines = .ok (descriptionLines "  " p.description ++ ["  " ++ s ++ ";"])) ps ss ∧
    t.text = "\x7b " ++ "; ".intercalate ss ++ " \x7d"

/-- The text of a member, as it stands in the text of an object. -/
def memberTextOf (m : String × Bool × TypeExpr) : String :=
  memberText (propertyKey m.1, m.2.1, m.2.2.text)

theorem memberTexts_eq_map (ms : List (String × Bool × TypeExpr)) :
    TypeExpr.memberTexts ms = ms.map memberTextOf := by
  rw [memberTexts_eq, List.map_map]
  rfl

/-- A member is written in the line of its property. -/
theorem Property.IsMember.lines_eq {p : Property} {m : String × Bool × TypeExpr}
    (h : p.IsMember m) : p.lines =
      .ok (descriptionLines "  " p.description ++ ["  " ++ memberTextOf m ++ ";"]) := by
  rw [Property.lines, h.name, h.mayMiss, h.type]
  cases hm : m.2.1 <;>
    simp [keyOf, memberTextOf, memberText, hm, String.append_assoc]

theorem Declaration.presents_of_denotes {d : Declaration} (h : d.body.Denotes t) :
    d.Presents t where
  denotes := h
  text ps hps := by
    rw [hps] at h
    cases h with
    | @interface ps ms h =>
      refine ⟨ms.map memberTextOf, ?_, ?_⟩
      · exact List.forall₂_map_right_iff.mpr (h.imp fun _ _ hp => hp.lines_eq)
      · rw [TypeExpr.text, memberTexts_eq_map]

/-! ### Schemas of objects -/

/-- A schema of objects that has properties, or has additional ones instead: it is no handle and no
choice, and says nothing about its type or that it is an object. -/
structure IsComposite (v : Value) : Prop extends Structured callLimit v where
  /-- It is no choice. -/
  enum : v.get? "enum" = none
  /-- It says that it is an object, or nothing about its type. -/
  type : v.field "type" = .null ∨ v.field "type" = .text "object"
  /-- It has properties, or additional ones. -/
  content : (∃ e es, (v.field "properties").entries? = some (e :: es)) ∨
    (v.field "additionalProperties").isMapping = true

theorem IsComposite.composed (hv : IsComposite v) : Composed callLimit v := by
  have henum : v.field "enum" = .null := by rw [Value.field, hv.enum]; rfl
  have htyped : Typed callLimit v := ⟨hv.toStructured, fun x xs h => by rw [henum] at h; cases h⟩
  have hdeclared : declaredType v = v.field "type" := by
    unfold declaredType
    rcases hv.type with h | h <;> rw [h] <;> rfl
  rcases hv.type with h | h
  all_goals
    rw [h] at hdeclared
    exact ⟨htyped, by rw [hdeclared]; decide, by rw [hdeclared]; rfl, by rw [hdeclared]; rfl⟩

theorem isInterface_of_isComposite (hv : IsComposite v) : Declaration.isInterface v =
    (v.field "type" == .text "object" || (v.field "properties").isMapping) := by
  rw [Declaration.isInterface, hv.enum, Option.isNone_none, Bool.and_true]

/-- A schema that is no interface is declared as its type. -/
theorem ofSchema_of_isInterface_eq_false (hv : v.isMapping = true)
    (hinterface : Declaration.isInterface v = false) (ht : schemaType v = .ok t) :
    Declaration.ofSchema name v = .ok
      { name := typeName name, description := descriptionOf v, body := .alias t } := by
  simp only [Declaration.ofSchema, hv, hinterface, ht, Bool.not_true, Bool.false_eq_true, if_false]
  rfl

/-- An interface is declared with the properties of the schema. -/
theorem ofSchema_of_isInterface (hv : Declaration.isInterface v = true) :
    Declaration.ofSchema name v = (do
      let required ← requiredNames v
      let properties ← (← propertiesOf v).mapM (Property.ofEntry required)
      return { name := typeName name, description := descriptionOf v,
               body := .interface properties }) := by
  simp only [Declaration.ofSchema, isMapping_of_isInterface hv, hv, Bool.not_true,
    Bool.false_eq_true, if_false, if_true]

/-! ### Interfaces -/

/-- The property of an interface is the member of the type. It is looked at deeper in the type,
which makes no difference to a type that is found. -/
theorem exists_ofEntry_isMember {required : List Scalar} {e : Scalar × Value}
    {m : String × Bool × TypeExpr}
    (h : (do
        let name ← keyOf e.1
        return (name, isRequired required e.1, ← memberWithin (callLimit - 1) e.2)) = .ok m) :
    ∃ p, Property.ofEntry required e = .ok p ∧ p.IsMember m := by
  obtain ⟨key, hkey, h⟩ := Except.bind_eq_ok.mp h
  obtain ⟨u, hu, h⟩ := Except.bind_eq_ok.mp h
  obtain rfl := Except.pure_eq_ok.mp h
  rw [memberWithin_eq] at hu
  have htype : schemaType e.2 = .ok u := (extends_typeWithin_of_le (by decide)).eq_ok hu
  refine ⟨⟨e.1, !isRequired required e.1, u, descriptionOf e.2⟩, ?_,
    ⟨keyOf_eq_ok.mp hkey, rfl, rfl⟩⟩
  rw [Property.ofEntry, htype]
  rfl

/-- A schema with properties is declared as an interface with the members of its type. -/
theorem presents_ofSchema_of_properties {e : Scalar × Value} {es : List (Scalar × Value)}
    (hv : IsComposite v) (hes : (v.field "properties").entries? = some (e :: es))
    (ht : schemaType v = .ok t) :
    ∃ d, Declaration.ofSchema name v = .ok d ∧ d.Presents t := by
  have hinterface : Declaration.isInterface v = true := by
    rw [isInterface_of_isComposite hv, Value.isMapping, hes, Option.isSome_some, Bool.or_true]
  have hproperties : propertiesOf v = .ok (e :: es) := by
    simp only [propertiesOf, hes]
  have hcomposed : Composed (callLimit - 1 + 1) v := hv.composed
  change typeWithin (callLimit - 1 + 1) v = .ok t at ht
  rw [typeWithin_of_composed hcomposed] at ht
  simp only [hes] at ht
  obtain ⟨ns, hns, ht⟩ := Except.bind_eq_ok.mp ht
  obtain ⟨ms, hms, ht⟩ := Except.bind_eq_ok.mp ht
  obtain rfl := Except.pure_eq_ok.mp ht
  obtain ⟨ps, hps, hmembers⟩ :=
    exists_forall₂_comp (mapM_eq_ok_iff.mp hms) fun _ _ => exists_ofEntry_isMember
  refine ⟨⟨typeName name, descriptionOf v, .interface ps⟩, ?_,
    Declaration.presents_of_denotes (.interface hmembers)⟩
  rw [ofSchema_of_isInterface hinterface, hns, hproperties]
  simp only [Except.ok_bind, mapM_eq_ok_iff.mpr hps]
  rfl

/-! ### Additional properties -/

/-- Without properties, the type is that of objects with any keys. -/
theorem exists_eq_record (hv : IsComposite v)
    (hes : ∀ e es, (v.field "properties").entries? ≠ some (e :: es)) (ht : schemaType v = .ok t) :
    ∃ u, t = .record u := by
  have hadditional := hv.content.resolve_left fun ⟨e, es, h⟩ => hes e es h
  have hcomposed : Composed (callLimit - 1 + 1) v := hv.composed
  change typeWithin (callLimit - 1 + 1) v = .ok t at ht
  rw [typeWithin_of_composed hcomposed] at ht
  split at ht
  · rename_i e es h
    exact absurd h (hes e es)
  · simp only [hadditional, if_true] at ht
    obtain ⟨u, -, ht⟩ := Except.bind_eq_ok.mp ht
    exact ⟨u, (Except.pure_eq_ok.mp ht).symm⟩

/-- Without properties, an interface has no members. -/
theorem body_eq_of_ofSchema {d : Declaration} (hinterface : Declaration.isInterface v = true)
    (hes : ∀ e es, (v.field "properties").entries? ≠ some (e :: es))
    (hd : Declaration.ofSchema name v = .ok d) : d.body = .interface [] := by
  rw [ofSchema_of_isInterface hinterface] at hd
  obtain ⟨ns, -, hd⟩ := Except.bind_eq_ok.mp hd
  obtain ⟨es, hproperties, hd⟩ := Except.bind_eq_ok.mp hd
  obtain rfl : es = [] := by
    by_contra hne
    obtain ⟨e, es, rfl⟩ := List.exists_cons_of_ne_nil hne
    exact hes e es (entries?_of_propertiesOf hproperties hne)
  obtain ⟨ps, hps, hd⟩ := Except.bind_eq_ok.mp hd
  obtain rfl := Except.pure_eq_ok.mp hps
  rw [← Except.pure_eq_ok.mp hd]
  rfl

theorem not_presents_record {d : Declaration} {u : TypeExpr} (h : d.body = .interface []) :
    ¬ d.Presents (.record u) := fun hd => by
  have hdenotes := hd.denotes
  rw [h] at hdenotes
  cases hdenotes

/-! ### Declarations of composite schemas -/

/-- The schema has properties, or neither says that it is an object nor has a mapping of
properties. -/
def IsDeclaredAsTyped (v : Value) : Prop :=
  (∃ e es, (v.field "properties").entries? = some (e :: es)) ∨
    v.field "type" = .null ∧ (v.field "properties").isMapping = false

theorem presents_ofSchema (hv : IsComposite v) (hdeclared : IsDeclaredAsTyped v)
    (ht : schemaType v = .ok t) : ∃ d, Declaration.ofSchema name v = .ok d ∧ d.Presents t := by
  rcases hdeclared with ⟨e, es, hes⟩ | ⟨htype, hproperties⟩
  · exact presents_ofSchema_of_properties hv hes ht
  · have hinterface : Declaration.isInterface v = false := by
      rw [isInterface_of_isComposite hv, htype, hproperties]
      rfl
    exact ⟨_, ofSchema_of_isInterface_eq_false hv.mapping hinterface ht,
      Declaration.presents_of_denotes (.alias t)⟩

/-- A composite schema that is not declared as it is typed is declared as an interface without
members. -/
theorem body_eq_and_exists_eq_record (hv : IsComposite v) (hdeclared : ¬ IsDeclaredAsTyped v)
    (ht : schemaType v = .ok t) {d : Declaration} (hd : Declaration.ofSchema name v = .ok d) :
    d.body = .interface [] ∧ ∃ u, t = .record u := by
  obtain ⟨hnone, htype⟩ := not_or.mp hdeclared
  have hnone : ∀ e es, (v.field "properties").entries? ≠ some (e :: es) :=
    fun e es h => hnone ⟨e, es, h⟩
  have hinterface : Declaration.isInterface v = true := by
    rw [isInterface_of_isComposite hv, Bool.or_eq_true, beq_iff_eq]
    rcases hv.type with h | h
    · exact .inr (by simpa using fun hproperties => htype ⟨h, hproperties⟩)
    · exact .inl h
  exact ⟨body_eq_of_ofSchema hinterface hnone hd, exists_eq_record hv hnone ht⟩

/-- **Declarations stand for types.** If a composite schema has a type, its declaration stands for
it exactly if the schema has properties, or neither says that it is an object nor has a mapping of
properties. Any other declaration is an interface without members, where the type is that of objects
with any keys. -/
theorem presents_ofSchema_iff (hv : IsComposite v) (ht : schemaType v = .ok t) :
    ((∃ d, Declaration.ofSchema name v = .ok d ∧ d.Presents t) ↔
      (∃ e es, (v.field "properties").entries? = some (e :: es)) ∨
        v.field "type" = .null ∧ (v.field "properties").isMapping = false) ∧
    ∀ d, Declaration.ofSchema name v = .ok d → ¬ d.Presents t →
      d.body = .interface [] ∧ ∃ u, t = .record u := by
  by_cases hdeclared : IsDeclaredAsTyped v
  · have hpresents : ∃ d, Declaration.ofSchema name v = .ok d ∧ d.Presents t :=
      presents_ofSchema hv hdeclared ht
    refine ⟨iff_of_true hpresents hdeclared, fun d hd hnot => ?_⟩
    obtain ⟨d', hd', hpresents⟩ := hpresents
    cases hd'.symm.trans hd
    exact absurd hpresents hnot
  · have hempty {d : Declaration} (hd : Declaration.ofSchema name v = .ok d) :=
      body_eq_and_exists_eq_record hv hdeclared ht hd
    refine ⟨iff_of_false ?_ hdeclared, fun d hd _ => hempty hd⟩
    rintro ⟨d, hd, hpresents⟩
    obtain ⟨hbody, u, rfl⟩ := hempty hd
    exact not_presents_record hbody hpresents

/-- A pet has a number, and may have a name. -/
def petObject : Value :=
  .ofFields [("type", .text "object"), ("required", .sequence [.text "id"]),
    ("properties", .ofFields [("id", .ofFields [("type", .text "integer")]),
      ("pet's name", .ofFields [("type", .text "string"), ("description", .text "Its name")])])]

/-- Numbers under any keys. -/
def countsObject : Value :=
  .ofFields [("type", .text "object"),
    ("additionalProperties", .ofFields [("type", .text "integer")])]

/-- The declaration of a pet. -/
theorem presents_ofSchema_iff_petObject :
    IsComposite petObject ∧ (∃ t, schemaType petObject = .ok t ∧
      ∃ d, Declaration.ofSchema "Pet" petObject = .ok d ∧ d.Presents t) := by
  have hv : IsComposite petObject := {
    mapping := rfl
    handle := rfl
    enum := rfl
    type := .inr rfl
    content := .inl ⟨_, _, rfl⟩ }
  have ht : schemaType petObject =
      .ok (.object [("id", true, .number), ("pet's name", false, .string)]) := rfl
  exact ⟨hv, _, ht, (presents_ofSchema_iff hv ht).1.mpr (.inl ⟨_, _, rfl⟩)⟩

/-- The interface for numbers under any keys has no members. -/
theorem not_presents_ofSchema :
    IsComposite countsObject ∧ schemaType countsObject = .ok (.record .number) ∧
      ∃ d, Declaration.ofSchema "Counts" countsObject = .ok d ∧ d.body = .interface [] ∧
        ¬ d.Presents (.record .number) := by
  have hv : IsComposite countsObject := {
    mapping := rfl
    handle := rfl
    enum := rfl
    type := .inr rfl
    content := .inr rfl }
  exact ⟨hv, rfl, ⟨typeName "Counts", "", .interface []⟩, rfl, rfl, not_presents_record rfl⟩

end ClientGen.TypeScript
