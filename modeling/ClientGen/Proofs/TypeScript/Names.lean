import Mathlib.Data.List.Forall2
import ClientGen.Proofs.Outcome
import ClientGen.Proofs.Value.Parts
import ClientGen.TypeScript.Declaration
import ClientGen.TypeScript.RequestFunction

/-!
# Names in types

The names that the type of a schema uses are those of the handles that stand in the schema. The same
holds of the names that are listed for a part of a document, and so of the names that a function or
a declaration uses.

## Main definitions

* `ClientGen.Value.IsHandleOf`, `ClientGen.Value.Names` : the handles that stand in a value.
* `ClientGen.Value.NamesBy` : the handles that stand in a value outside of pairs, with the name that
  is read from them.
* `ClientGen.TypeScript.Declaration.models` : the names that a declaration uses.

## Main results

* `ClientGen.TypeScript.namesBy_of_typeWithin` : the names in the type of a schema.
* `ClientGen.TypeScript.mem_modelsWithin_iff` : the names that are listed for a value.
* `ClientGen.TypeScript.names_of_ofSchema` : the names in a declaration.
* `ClientGen.TypeScript.RequestFunction.ofOperation_eq_ok` : what a function takes from its
  operation.
* `ClientGen.TypeScript.mem_models_iff_of_ofOperation` : the names that are listed for a function.
-/

namespace ClientGen

variable {v w : Value} {n : String}

namespace Value

/-- The value shows the handle of a schema of that name. -/
def IsHandleOf (v : Value) (name : String) : Prop :=
  v.field "refType" = .text "schema" ∧ (v.field "modelName").asText? = some name

/-- In the value stands a handle whose declaration has that name. -/
def Names (v : Value) (n : String) : Prop :=
  ∃ w name, v.Holds w ∧ w.IsHandleOf name ∧ TypeScript.typeName name = n

theorem IsHandleOf.names {name : String} (h : v.IsHandleOf name) :
    v.Names (TypeScript.typeName name) := ⟨v, name, .refl, h, rfl⟩

theorem Names.of_holds (h : w.Names n) (hw : v.Holds w) : v.Names n := by
  obtain ⟨x, name, hx, hname⟩ := h
  exact ⟨x, name, hw.trans hx, hname⟩

theorem Names.of_mem_parts (h : w.Names n) (hw : w ∈ v.parts) : v.Names n :=
  h.of_holds (.single hw)

/-- In a value without parts stands no handle, unless it is one itself. -/
theorem not_names_of_parts_eq_nil (hparts : v.parts = []) (hkind : v.field "refType" = .null) :
    ¬ v.Names n := by
  rintro ⟨w, name, hw, ⟨hhandle, -⟩, -⟩
  rcases hw.cases_head with rfl | ⟨x, hx, -⟩
  · cases hkind.symm.trans hhandle
  · exact List.not_mem_nil (hparts ▸ hx)

theorem not_names_scalar (s : Scalar) : ¬ (scalar s).Names n := not_names_of_parts_eq_nil rfl rfl

theorem not_names_nil : ¬ (mapping []).Names n := not_names_of_parts_eq_nil rfl rfl

/-- What stands under a key stands in the mapping. -/
theorem Names.of_field {key : String} (h : (v.field key).Names n) : v.Names n := by
  cases hw : v.get? key with
  | none =>
    rw [field, hw] at h
    exact absurd h (not_names_scalar _)
  | some w =>
    rw [field, hw] at h
    exact h.of_mem_parts (mem_parts_of_get? hw)

theorem Names.exists_mem_fields {fs : Fields} {key : String}
    (h : ((ofFields fs).field key).Names n) : ∃ g ∈ fs, g.2.Names n := by
  rw [field, get?_ofFields] at h
  cases hw : fs.lookup key with
  | none =>
    rw [hw] at h
    exact absurd h (not_names_scalar _)
  | some w =>
    rw [hw] at h
    exact ⟨_, mem_of_lookup hw, h⟩

theorem Names.of_mem_entries {es : List (Scalar × Value)} {e : Scalar × Value}
    (h : e.2.Names n) (hes : v.entries? = some es) (he : e ∈ es) : v.Names n :=
  h.of_mem_parts (parts_of_entries? hes ▸ List.mem_map_of_mem he)

section NamesBy

variable {read : Value → Option String}

/-- The value shows the handle of a schema, and its declaration has that name; `read` gives the name
that is shown. -/
def ShowsBy (read : Value → Option String) (v : Value) (n : String) : Prop :=
  v.field "refType" = .text "schema" ∧
    ∃ name, read (v.field "modelName") = some name ∧ TypeScript.typeName name = n

/-- In the value stands a handle, outside of pairs, whose declaration has that name. -/
def NamesBy (read : Value → Option String) (v : Value) (n : String) : Prop :=
  ∃ w, v.HoldsOutside IsPair w ∧ w.ShowsBy read n

/-- A name stands in a handle itself, or in the parts of a value that is no pair. -/
theorem namesBy_iff : v.NamesBy read n ↔
    v.ShowsBy read n ∨ ¬ v.IsPair ∧ ∃ w ∈ v.parts, w.NamesBy read n := by
  constructor
  · rintro ⟨w, hw, hshows⟩
    rcases hw.cases_head with rfl | ⟨x, ⟨hpair, hx⟩, hxw⟩
    · exact .inl hshows
    · exact .inr ⟨hpair, x, hx, w, hxw, hshows⟩
  · rintro (hshows | ⟨hpair, x, hx, w, hxw, hshows⟩)
    · exact ⟨v, .refl, hshows⟩
    · exact ⟨w, .head ⟨hpair, hx⟩ hxw, hshows⟩

/-- Only mappings show a handle. -/
theorem not_showsBy_of_entries? (h : v.entries? = none) : ¬ v.ShowsBy read n := by
  rintro ⟨hkind, -⟩
  rw [field_of_isMapping_eq_false (by simp [isMapping, h])] at hkind
  cases hkind

theorem namesBy_iff_of_entries? {es : List (Scalar × Value)} (h : v.entries? = some es) :
    v.NamesBy read n ↔ v.ShowsBy read n ∨ ∃ e ∈ es, e.2.NamesBy read n := by
  have hpair : ¬ v.IsPair := by
    rintro ⟨k, w, hopened⟩
    cases (entries?_eq_some.mp h).symm.trans hopened
  rw [namesBy_iff, parts_of_entries? h, and_iff_right hpair]
  refine or_congr_right ⟨fun ⟨w, hw, hname⟩ => ?_, fun ⟨e, he, hname⟩ => ?_⟩
  · obtain ⟨e, he, rfl⟩ := List.mem_map.mp hw
    exact ⟨e, he, hname⟩
  · exact ⟨e.2, List.mem_map_of_mem he, hname⟩

theorem namesBy_iff_of_items? {xs : List Value} (h : v.items? = some xs) :
    v.NamesBy read n ↔ ∃ x ∈ xs, x.NamesBy read n := by
  have hopened := items?_eq_some.mp h
  have hpair : ¬ v.IsPair := by
    rintro ⟨k, w, hpair⟩
    cases hopened.symm.trans hpair
  have hentries : v.entries? = none := by rw [entries?, hopened]
  rw [namesBy_iff, parts_of_items? h]
  simp [hpair, not_showsBy_of_entries? hentries]

/-- In a value that is neither a mapping nor a sequence stands no handle outside of pairs. -/
theorem not_namesBy (hentries : v.entries? = none) (hitems : v.items? = none) :
    ¬ v.NamesBy read n := by
  rw [namesBy_iff, not_or]
  refine ⟨not_showsBy_of_entries? hentries, fun h => ?_⟩
  obtain ⟨hpair, w, hw, -⟩ := h
  unfold parts at hw
  unfold entries? at hentries
  unfold items? at hitems
  split at hw
  · simp_all
  · simp_all
  · rename_i k u hopened
    exact hpair ⟨k, u, hopened⟩
  · cases hw

theorem not_namesBy_scalar (s : Scalar) : ¬ (scalar s).NamesBy read n := not_namesBy rfl rfl

theorem NamesBy.of_mem_entries {es : List (Scalar × Value)} {e : Scalar × Value}
    (h : e.2.NamesBy read n) (hes : v.entries? = some es) (he : e ∈ es) : v.NamesBy read n :=
  (namesBy_iff_of_entries? hes).mpr (.inr ⟨e, he, h⟩)

theorem NamesBy.of_field {key : String} (h : (v.field key).NamesBy read n) : v.NamesBy read n := by
  cases hw : v.get? key with
  | none =>
    rw [field, hw] at h
    exact absurd h (not_namesBy_scalar _)
  | some w =>
    rw [field, hw] at h
    obtain ⟨es, hes, hlookup⟩ := get?_eq_some hw
    exact h.of_mem_entries hes (mem_of_lookup hlookup)

/-- A name that is read as a text is that of a handle. -/
theorem NamesBy.names (h : v.NamesBy asText? n) : v.Names n := by
  obtain ⟨w, hw, hkind, name, hname, rfl⟩ := h
  have hheld : v.Holds w := Relation.ReflTransGen.mono (fun _ _ hstep => hstep.2) _ _ hw
  exact ⟨w, name, hheld, ⟨hkind, hname⟩, rfl⟩

theorem asText?_of_text? {s : String} (h : v.text? = some s) : v.asText? = some s := by
  rw [eq_text_of_text? h]
  rfl

/-- A name that is a text is read as one. -/
theorem NamesBy.asText? (h : v.NamesBy text? n) : v.NamesBy asText? n := by
  obtain ⟨w, hw, hkind, name, hname, hn⟩ := h
  exact ⟨w, hw, hkind, name, asText?_of_text? hname, hn⟩

end NamesBy

end Value

theorem SchemaHandle.eq_text_of_kind? (h : SchemaHandle.kind? v = some .schema) :
    v.field "refType" = .text "schema" := by
  unfold kind? at h
  split at h
  · rename_i htext
    exact Value.eq_text_of_text? htext
  · cases h
  · cases h

theorem PrimitiveParameter.asText?_of_textOrNull? {name : String}
    (h : PrimitiveParameter.textOrNull? v = some (some name)) : v.asText? = some name := by
  unfold textOrNull? at h
  split at h
  · cases h
  · simpa using h

namespace TypeScript

open Value (Names)

variable {depth : Nat} {t : TypeExpr}

/-! ### Types -/

/-- A handle uses the name that it shows, or that of its items. -/
theorem namesBy_of_handleType {handle : SchemaHandle}
    (h : SchemaHandle.ofNodeWithin depth v = .ok (some handle))
    (hn : n ∈ (handleType handle).models) : v.NamesBy Value.asText? n := by
  induction depth generalizing v handle with
  | zero => cases h
  | succ depth ih =>
    unfold SchemaHandle.ofNodeWithin at h
    split at h
    · cases h
    · split at h
      · rename_i kind hkind
        obtain ⟨name, hname, h⟩ := Except.bind_eq_ok.mp h
        obtain rfl := Option.some.inj (Except.pure_eq_ok.mp h)
        cases kind with
        | parameter | other => cases name <;> cases hn
        | schema =>
          cases name with
          | none => cases hn
          | some name =>
            have hshown := PrimitiveParameter.asText?_of_textOrNull? (need_eq_ok.mp hname)
            unfold handleType at hn
            split at hn
            · cases hn
            · obtain rfl := List.mem_singleton.mp hn
              exact ⟨v, .refl, SchemaHandle.eq_text_of_kind? hkind, name, hshown, rfl⟩
      · split at h
        · obtain ⟨found, hfound, h⟩ := Except.bind_eq_ok.mp h
          obtain ⟨items, rfl, rfl⟩ := Option.map_eq_some_iff.mp (Except.pure_eq_ok.mp h)
          exact (ih hfound hn).of_field
        · cases h

theorem mem_memberModels {ms : List (String × Bool × TypeExpr)} :
    n ∈ TypeExpr.memberModels ms ↔ ∃ m ∈ ms, n ∈ m.2.2.models := by
  induction ms with
  | nil => simp [TypeExpr.memberModels]
  | cons m ms ih =>
    obtain ⟨name, required, t⟩ := m
    simp [TypeExpr.memberModels, ih]

theorem models_ofPrimitive? {s : String} (h : TypeExpr.ofPrimitive? s = some t) :
    t.models = [] := by
  unfold TypeExpr.ofPrimitive? at h
  split at h <;> cases h <;> rfl

/-- The type of a property is looked for with one call less. -/
theorem memberWithin_eq (depth : Nat) (v : Value) :
    memberWithin depth v = typeWithin (depth - 1) v := by
  cases depth <;> rfl

/-- The type of a schema is that of a handle, or uses the names that the types of its items,
properties or additional properties use, or none. -/
theorem typeWithin_succ_eq_ok (h : typeWithin (depth + 1) v = .ok t) :
    (∃ handle, SchemaHandle.ofNodeWithin (depth + 1) v = .ok (some handle) ∧
        t = handleType handle) ∨
      (∃ key u, typeWithin depth (v.field key) = .ok u ∧ t.models = u.models) ∨
      (∃ es ms, (v.field "properties").entries? = some es ∧ t = .object ms ∧
        List.Forall₂ (fun e m => typeWithin (depth - 1) e.2 = .ok m.2.2) es ms) ∨
      t.models = [] := by
  -- The cases stand in the order in which a type is looked for: no mapping, a handle, literals, an
  -- array, a primitive type, properties, additional properties, and any object.
  unfold typeWithin at h
  split at h
  · obtain rfl := Except.pure_eq_ok.mp h
    exact .inr (.inr (.inr rfl))
  · obtain ⟨found, hfound, h⟩ := Except.bind_eq_ok.mp h
    split at h
    · rename_i handle
      exact .inl ⟨handle, hfound, (Except.pure_eq_ok.mp h).symm⟩
    · split at h
      · obtain ⟨ls, -, h⟩ := Except.bind_eq_ok.mp h
        obtain rfl := Except.pure_eq_ok.mp h
        exact .inr (.inr (.inr rfl))
      · simp only at h
        split at h
        · obtain ⟨u, hu, h⟩ := Except.bind_eq_ok.mp h
          obtain rfl := Except.pure_eq_ok.mp h
          exact .inr (.inl ⟨"items", u, hu, rfl⟩)
        · split at h
          · cases h
          · split at h
            · rename_i u hu
              obtain rfl := Except.pure_eq_ok.mp h
              obtain ⟨s, -, hs⟩ := Option.bind_eq_some_iff.mp hu
              exact .inr (.inr (.inr (models_ofPrimitive? hs)))
            · split at h
              · rename_i e es hes
                obtain ⟨required, -, h⟩ := Except.bind_eq_ok.mp h
                obtain ⟨ms, hms, h⟩ := Except.bind_eq_ok.mp h
                obtain rfl := Except.pure_eq_ok.mp h
                refine .inr (.inr (.inl ⟨e :: es, ms, hes, rfl, ?_⟩))
                refine (mapM_eq_ok_iff.mp hms).imp fun x m hm => ?_
                obtain ⟨name, -, hm⟩ := Except.bind_eq_ok.mp hm
                obtain ⟨u, hu, hm⟩ := Except.bind_eq_ok.mp hm
                obtain rfl := Except.pure_eq_ok.mp hm
                exact memberWithin_eq depth x.2 ▸ hu
              · split at h
                · obtain ⟨u, hu, h⟩ := Except.bind_eq_ok.mp h
                  obtain rfl := Except.pure_eq_ok.mp h
                  exact .inr (.inl ⟨"additionalProperties", u, hu, rfl⟩)
                · split at h <;> obtain rfl := Except.pure_eq_ok.mp h <;>
                    exact .inr (.inr (.inr rfl))

/-- The type of a schema uses the names of handles in the schema. -/
theorem namesBy_of_typeWithin (h : typeWithin depth v = .ok t) (hn : n ∈ t.models) :
    v.NamesBy Value.asText? n := by
  -- the properties of an object are looked at with two calls less than the object itself
  induction depth using Nat.strongRecOn generalizing v t with | ind depth ih
  cases depth with
  | zero => cases h
  | succ depth =>
    rcases typeWithin_succ_eq_ok h with ⟨handle, hhandle, rfl⟩ | ⟨key, u, hu, hmodels⟩ |
      ⟨es, ms, hes, rfl, hms⟩ | hnone
    · exact namesBy_of_handleType hhandle hn
    · exact (ih depth (by omega) hu (hmodels ▸ hn)).of_field
    · obtain ⟨m, hm, hn⟩ := mem_memberModels.mp hn
      obtain ⟨e, he, hem⟩ := exists_of_forall₂ hms hm
      exact ((ih (depth - 1) (by omega) hem hn).of_mem_entries hes he).of_field
    · rw [hnone] at hn
      cases hn

theorem names_of_typeWithin (h : typeWithin depth v = .ok t) (hn : n ∈ t.models) : v.Names n :=
  (namesBy_of_typeWithin h hn).names

theorem mem_ownModel_iff : n ∈ ownModel v ↔ v.ShowsBy Value.text? n := by
  unfold ownModel Value.ShowsBy
  split
  · rename_i hkind
    rw [Option.mem_toList, Option.map_eq_some_iff, and_iff_right hkind]
  · rename_i hkind
    simp [hkind]

/-- What is listed for values one after the other is what is listed for one of them. -/
theorem mem_flatten_iff {α : Type} {f : α → Except Fault (List String)} {P : α → Prop}
    {xs : List α} {nss : List (List String)} (h : xs.mapM f = .ok nss)
    (hP : ∀ x ∈ xs, ∀ ns, f x = .ok ns → (n ∈ ns ↔ P x)) :
    n ∈ nss.flatten ↔ ∃ x ∈ xs, P x := by
  have hall : List.Forall₂ (fun x ns => n ∈ ns ↔ P x) xs nss :=
    forall₂_of_mem (mapM_eq_ok_iff.mp h) hP
  clear h hP
  induction hall with
  | nil => simp
  | cons hx _ ih => simp [hx, ih]

/-- The names that are listed for a value are those of handles in it that show texts. -/
theorem mem_modelsWithin_iff {ns : List String} (h : modelsWithin depth v = .ok ns) :
    n ∈ ns ↔ v.NamesBy Value.text? n := by
  induction depth generalizing v ns with
  | zero => cases h
  | succ depth ih =>
    unfold modelsWithin at h
    split at h
    · rename_i es hes
      obtain ⟨inner, hinner, h⟩ := Except.bind_eq_ok.mp h
      obtain rfl := Except.pure_eq_ok.mp h
      rw [List.mem_append, mem_ownModel_iff, mem_flatten_iff hinner fun e _ ns hns => ih hns,
        Value.namesBy_iff_of_entries? (Value.entries?_eq_some.mpr hes)]
    · rename_i xs hxs
      obtain ⟨inner, hinner, h⟩ := Except.bind_eq_ok.mp h
      obtain rfl := Except.pure_eq_ok.mp h
      rw [mem_flatten_iff hinner fun x _ ns hns => ih hns,
        Value.namesBy_iff_of_items? (Value.items?_eq_some.mpr hxs)]
    · rename_i hmapping hsequence
      obtain rfl := Except.ok.inj h
      have hentries : v.entries? = none := by unfold Value.entries?; split <;> simp_all
      have hitems : v.items? = none := by unfold Value.items?; split <;> simp_all
      simp [Value.not_namesBy hentries hitems]

theorem mem_alphabetical {names : List String} : n ∈ Text.alphabetical names ↔ n ∈ names := by
  simp [Text.alphabetical]

/-- The names that are listed for a value are those of handles in it that show texts. -/
theorem mem_referencedModels_iff {ns : List String} (h : referencedModels v = .ok ns) :
    n ∈ ns ↔ v.NamesBy Value.text? n := by
  obtain ⟨ms, hms, h⟩ := Except.bind_eq_ok.mp h
  obtain rfl := Except.pure_eq_ok.mp h
  rw [mem_alphabetical, mem_modelsWithin_iff hms]

/-! ### Declarations -/

/-- The names that a declaration uses. -/
def Declaration.models (d : Declaration) : List String :=
  match d.body with
  | .alias t => t.models
  | .interface ps => ps.flatMap (·.type.models)

/-- The declaration of a schema has its name, and uses the names of handles in the schema. -/
theorem names_of_ofSchema {name : String} {d : Declaration}
    (h : Declaration.ofSchema name v = .ok d) :
    d.name = typeName name ∧ ∀ n ∈ d.models, v.Names n := by
  unfold Declaration.ofSchema at h
  simp only at h
  split at h
  · obtain rfl := Except.pure_eq_ok.mp h
    exact ⟨rfl, by simp [Declaration.models, TypeExpr.models]⟩
  · split at h
    · obtain ⟨required, -, h⟩ := Except.bind_eq_ok.mp h
      obtain ⟨es, hes, h⟩ := Except.bind_eq_ok.mp h
      obtain ⟨ps, hps, h⟩ := Except.bind_eq_ok.mp h
      obtain rfl := Except.pure_eq_ok.mp h
      refine ⟨rfl, fun n hn => ?_⟩
      obtain ⟨q, hq, hn⟩ := List.mem_flatMap.mp hn
      obtain ⟨e, he, heq⟩ := exists_of_forall₂ (mapM_eq_ok_iff.mp hps) hq
      obtain ⟨t, ht, heq⟩ := Except.bind_eq_ok.mp heq
      obtain rfl := Except.pure_eq_ok.mp heq
      have hnames : e.2.Names n := names_of_typeWithin ht hn
      unfold propertiesOf at hes
      simp only at hes
      split at hes
      · rename_i es' hes'
        obtain rfl := Except.ok.inj hes
        exact (hnames.of_mem_entries hes' he).of_field
      · split at hes
        · cases hes
        · obtain rfl := Except.ok.inj hes
          cases he
    · obtain ⟨t, ht, h⟩ := Except.bind_eq_ok.mp h
      obtain rfl := Except.pure_eq_ok.mp h
      exact ⟨rfl, fun n hn => names_of_typeWithin ht hn⟩

/-! ### Functions -/

/-- A body in JSON has the type of its schema, and lists the names that are listed for it. -/
theorem schema_of_bindBody {taken : List String} {body : Option BodyBinding}
    (h : bindBody taken v = .ok body) :
    body = none ∧ jsonSchema v = .null ∨
      ∃ b, body = some b ∧ schemaType (jsonSchema v) = .ok b.type ∧
        referencedModels (jsonSchema v) = .ok b.models := by
  unfold bindBody at h
  simp only at h
  split at h
  · rename_i hnull
    exact .inl ⟨(Except.pure_eq_ok.mp h).symm, hnull⟩
  · obtain ⟨handle, -, h⟩ := Except.bind_eq_ok.mp h
    obtain ⟨t, ht, h⟩ := Except.bind_eq_ok.mp h
    obtain ⟨ns, hns, h⟩ := Except.bind_eq_ok.mp h
    obtain rfl := Except.pure_eq_ok.mp h
    exact .inr ⟨_, rfl, ht, hns⟩

/-- What a function takes from its operation. -/
theorem RequestFunction.ofOperation_eq_ok {o : Operation} {f : RequestFunction}
    (h : ofOperation o = .ok f) :
    f.path = o.path ∧ f.parameters = bindParameters reservedArguments o.primitives ∧
      bindBody (reservedArguments ++ f.parameters.map (·.variableName))
        (.ofFields (o.requestBody.getD [])) = .ok f.body ∧
      resultType (.ofFields (o.responses.getD [])) = .ok f.result ∧
      ∃ answered, (o.responses.getD []).mapM (fun r => referencedModels (jsonSchema r.2)) =
          .ok answered ∧
        f.models = Text.alphabetical (f.body.elim [] (·.models) ++ answered.flatten) := by
  obtain ⟨body, hbody, h⟩ := Except.bind_eq_ok.mp h
  obtain ⟨result, hresult, h⟩ := Except.bind_eq_ok.mp h
  obtain ⟨answered, hanswered, h⟩ := Except.bind_eq_ok.mp h
  obtain rfl := Except.pure_eq_ok.mp h
  exact ⟨rfl, rfl, hbody, hresult, answered, hanswered, rfl⟩

/-- The schemas of the body and of the responses in JSON. -/
def jsonSchemasOf (o : Operation) : List Value :=
  jsonSchema (.ofFields (o.requestBody.getD [])) ::
    (o.responses.getD []).map fun r => jsonSchema r.2

/-- A function lists the names of handles that show texts in the schemas of the body and of the
responses. -/
theorem mem_models_iff_of_ofOperation {o : Operation} {f : RequestFunction}
    (h : RequestFunction.ofOperation o = .ok f) :
    n ∈ f.models ↔ ∃ s ∈ jsonSchemasOf o, s.NamesBy Value.text? n := by
  obtain ⟨-, -, hbody, -, answered, hanswered, hmodels⟩ := RequestFunction.ofOperation_eq_ok h
  have hlisted : n ∈ f.body.elim [] (·.models) ↔
      (jsonSchema (.ofFields (o.requestBody.getD []))).NamesBy Value.text? n := by
    rcases schema_of_bindBody hbody with ⟨hnone, hnull⟩ | ⟨b, hsome, -, hlist⟩
    · rw [hnone, hnull]
      exact iff_of_false List.not_mem_nil (Value.not_namesBy_scalar _)
    · rw [hsome]
      exact mem_referencedModels_iff hlist
  rw [hmodels, mem_alphabetical, List.mem_append, hlisted,
    mem_flatten_iff hanswered fun r _ ns hns => mem_referencedModels_iff hns]
  simp [jsonSchemasOf]

/-- A function lists the names of handles in the schemas of the body and of the responses. -/
theorem exists_jsonSchema_of_ofOperation {o : Operation} {f : RequestFunction}
    (h : RequestFunction.ofOperation o = .ok f) (hn : n ∈ f.models) :
    ∃ s ∈ jsonSchemasOf o, s.Names n := by
  obtain ⟨s, hs, hnames⟩ := (mem_models_iff_of_ofOperation h).mp hn
  exact ⟨s, hs, hnames.asText?.names⟩

/-- A function lists the names of handles in the fields of the body and of the responses. -/
theorem names_of_ofOperation {o : Operation} {f : RequestFunction}
    (h : RequestFunction.ofOperation o = .ok f) (hn : n ∈ f.models) :
    ∃ g ∈ o.requestBody.getD [] ++ o.responses.getD [], g.2.Names n := by
  obtain ⟨s, hs, hnames⟩ := exists_jsonSchema_of_ofOperation h hn
  rcases List.mem_cons.mp hs with rfl | hs
  · obtain ⟨g, hg, hnames⟩ := hnames.of_field.of_field.exists_mem_fields
    exact ⟨g, List.mem_append_left _ hg, hnames⟩
  · obtain ⟨r, hr, rfl⟩ := List.mem_map.mp hs
    exact ⟨r, List.mem_append_right _ hr, hnames.of_field.of_field.of_field⟩

end TypeScript

end ClientGen
