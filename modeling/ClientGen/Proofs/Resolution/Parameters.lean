import Mathlib.Data.List.Nodup
import ClientGen.Proofs.Operations
import ClientGen.Proofs.Resolution.Handles
import ClientGen.Source.Client

/-!
# Parameters through the resolved document

The walk over a document writes a parameter that can be described as a mapping, and operations read
their parameters from the document that the walk gives. If no mapping of the document itself has
the type of such a record, the parameters that are read as records are those that were described,
and they are read as they were described.

## Main definitions

* `ClientGen.PrimitiveParameter.DescribedAs` : the record that describes a parameter of a document.
* `ClientGen.Parameter.ReadAs` : what an operation has for a parameter of a document.

## Main results

* `ClientGen.PrimitiveParameter.ofNode?_node` : a record is read as it was written.
* `ClientGen.Document.readAs_of_walked` : what is read from what the walk gives for a parameter.
* `ClientGen.Document.readAs_of_clientOf` : the parameters of the operations of a client.
-/

namespace ClientGen

variable {root v w x : Value} {d d' : Document}

/-! ### Records as mappings -/

theorem Value.field?_eq_none_iff {name other : String} :
    v.field? name other = none ↔ v.get? name = none ∧ v.get? other = none := by
  unfold field?
  cases v.get? name <;> simp

namespace PrimitiveParameter

theorem textOrNull?_optionalText (s : Option String) : textOrNull? (optionalText s) = some s := by
  cases s <;> rfl

/-- A record is read as it was written. -/
theorem ofNode?_node (p : PrimitiveParameter) : ofNode? p.node = some p := by
  have htext (s : String) : (Value.text s).asText? = some s := rfl
  have hbool (b : Bool) : (Value.bool b).asBool? = some b := rfl
  simp [ofNode?, node, Value.field?, List.lookup_cons, fieldOr, htext, hbool,
    textOrNull?_optionalText, ReferenceKind.ofWord?_word, ParameterLocation.ofWord?_word]

/-- A mapping without a primitive type shows no record. -/
theorem ofNode?_eq_none (h : v.field? "primitiveType" "primitive_type" = none) :
    ofNode? v = none := by
  refine Option.eq_none_iff_forall_ne_some.mpr fun p hp => ?_
  simp [ofNode?, h] at hp

end PrimitiveParameter

namespace Parameter

theorem isMapping_of_ofValue? {q : Parameter} (h : ofValue? v = some q) : v.isMapping = true := by
  unfold ofValue? at h
  split at h
  · assumption
  · cases h

theorem ofValue?_node (p : PrimitiveParameter) : ofValue? p.node = some (.primitive p) := by
  have hmapping : p.node.isMapping = true := rfl
  rw [ofValue?, if_pos hmapping, PrimitiveParameter.ofNode?_node]

/-- A mapping without a primitive type is kept. -/
theorem ofValue?_eq_some (h : v.field? "primitiveType" "primitive_type" = none) {q : Parameter}
    (hq : ofValue? v = some q) : ∃ fs, v.asFields? = some fs ∧ q = .raw fs := by
  rw [ofValue?, if_pos (isMapping_of_ofValue? hq), PrimitiveParameter.ofNode?_eq_none h] at hq
  obtain ⟨fs, hfs, rfl⟩ := Option.map_eq_some_iff.mp hq
  exact ⟨fs, hfs, rfl⟩

end Parameter

/-! ### One parameter -/

/-- The record that describes a parameter of the document `root`: that of the parameter itself, or
that of the target if it is a reference to a parameter. -/
inductive PrimitiveParameter.DescribedAs (root x : Value) : PrimitiveParameter → Prop
  | inline {r : PrimitiveParameter} (href : x.reference? = none)
      (h : PrimitiveParameter.describe? x none = .ok (some r)) : DescribedAs root x r
  | target {ref : String} {t : Value} {r : PrimitiveParameter} (href : x.reference? = some ref)
      (hkind : Reference.kind ref = .parameter) (ht : Pointer.lookup root ref = .ok t)
      (h : PrimitiveParameter.describe? t (some (Reference.name ref)) = .ok (some r)) :
      DescribedAs root x r

/-- What an operation has for the parameter `x` of the document `root` that is resolved to the
mapping `w`: the record that describes it, or, if there is none, the fields of the mapping. They
are the mapping itself if its keys are different texts. -/
inductive Parameter.ReadAs (root x w : Value) : Parameter → Prop
  | described {r : PrimitiveParameter} (h : PrimitiveParameter.DescribedAs root x r) :
      ReadAs root x w (.primitive r)
  | kept {fs : Fields} (hnone : ∀ r, ¬ PrimitiveParameter.DescribedAs root x r)
      (hread : w.asFields? = some fs) (hrecord : w.IsRecord → Value.ofFields fs = w) :
      ReadAs root x w (.raw fs)

namespace Document

open PrimitiveParameter (DescribedAs)

/-- A parameter that is no reference is described by its own definition. -/
theorem describedAs_iff_inline {r : PrimitiveParameter} (href : x.reference? = none) :
    DescribedAs root x r ↔ PrimitiveParameter.describe? x none = .ok (some r) := by
  refine ⟨fun h => ?_, .inline href⟩
  cases h with
  | inline _ h => exact h
  | target href' => cases href.symm.trans href'

/-- A reference to a parameter is described by its target. -/
theorem describedAs_iff_target {r : PrimitiveParameter} {ref : String} {t : Value}
    (href : x.reference? = some ref) (hkind : Reference.kind ref = .parameter)
    (ht : Pointer.lookup root ref = .ok t) :
    DescribedAs root x r ↔
      PrimitiveParameter.describe? t (some (Reference.name ref)) = .ok (some r) := by
  refine ⟨fun h => ?_, .target href hkind ht⟩
  cases h with
  | inline href' => cases href.symm.trans href'
  | target href' _ ht' h =>
    obtain rfl := Option.some.inj (href.symm.trans href')
    obtain rfl := Except.ok.inj (ht.symm.trans ht')
    exact h

/-- A reference to anything else is not described. -/
theorem not_describedAs_of_kind {r : PrimitiveParameter} {ref : String}
    (href : x.reference? = some ref) (hkind : Reference.kind ref ≠ .parameter) :
    ¬ DescribedAs root x r := by
  rintro (⟨href', -⟩ | ⟨href', hkind', -, -⟩)
  · cases href.symm.trans href'
  · obtain rfl := Option.some.inj (href.symm.trans href')
    exact hkind hkind'

theorem describe?_of_isDefinition_eq_false {name : Option String}
    (h : PrimitiveParameter.isDefinition v = false) :
    PrimitiveParameter.describe? v name = .ok none := by
  simp [PrimitiveParameter.describe?, h]

/-- The walk goes on to the values under the keys of a mapping that it enters. -/
theorem rel_get?_of_walked (hplain : v.Plain) (hclass : Node.classify v = .mapping)
    (h : Walked root v w) (key : String) :
    Option.Rel (Walked root) (v.get? key) (w.get? key) := by
  obtain ⟨es, hes⟩ := Option.isSome_iff_exists.mp (Node.classify_eq_mapping_iff.mp hclass).1
  obtain rfl : v = .mapping es := (Value.opened_of_plain hplain).symm.trans
    (Value.entries?_eq_some.mp hes)
  obtain ⟨fs, rfl, hfs⟩ := walked_mapping hclass h
  exact Value.rel_lookup hfs (.text key)

theorem exists_get?_of_walked (hplain : v.Plain) (hclass : Node.classify v = .mapping)
    (h : Walked root v w) {key : String} (hx : v.get? key = some x) :
    ∃ y, w.get? key = some y ∧ Walked root x y := by
  have hrel := rel_get?_of_walked hplain hclass h key
  rw [hx] at hrel
  generalize w.get? key = found at hrel ⊢
  cases hrel with
  | some hwalked => exact ⟨_, rfl, hwalked⟩

theorem field?_eq_none_of_walked (hplain : v.Plain) (hclass : Node.classify v = .mapping)
    (h : Walked root v w) {name other : String} (hv : v.field? name other = none) :
    w.field? name other = none := by
  have hnone {key : String} (hkey : v.get? key = none) : w.get? key = none := by
    have hrel := rel_get?_of_walked hplain hclass h key
    rw [hkey] at hrel
    generalize w.get? key = found at hrel ⊢
    cases hrel
    rfl
  obtain ⟨hname, hother⟩ := Value.field?_eq_none_iff.mp hv
  exact Value.field?_eq_none_iff.mpr ⟨hnone hname, hnone hother⟩

theorem keysOf_of_classify (hplain : v.Plain) (hclass : Node.classify v = .mapping)
    (h : Walked root v w) : keysOf w = keysOf v := by
  obtain ⟨-, href, hdef⟩ := Node.classify_eq_mapping_iff.mp hclass
  have hdescribed : isDescribed v = false := by
    rw [isDescribed, describe?_of_isDefinition_eq_false hdef]
  exact keysOf_of_walked hplain href hdescribed h

/-- What replaces a parameter is the record of its definition, or has no primitive type. -/
theorem node_or_field?_of_replaceParameter {name : Option String}
    (hv : v.field? "primitiveType" "primitive_type" = none)
    (hx : ∀ r, DescribedAs root x r ↔ PrimitiveParameter.describe? v name = .ok (some r))
    (h : replaceParameter budget v name = .ok w) :
    (∃ r, DescribedAs root x r ∧ w = r.node) ∨
      (∀ r, ¬ DescribedAs root x r) ∧ w.field? "primitiveType" "primitive_type" = none := by
  rcases replaceParameter_eq_ok h with ⟨r, hr, rfl⟩ | ⟨hnone, rfl⟩
  · exact .inl ⟨r, (hx r).mpr hr, rfl⟩
  · refine .inr ⟨fun r hr => ?_, hv⟩
    cases ((hx r).mp hr).symm.trans hnone

section Read

variable (hfree : ∀ v, root.Holds v → v.field? "primitiveType" "primitive_type" = none)

include hfree

/-- What the walk gives for a parameter is the record that describes it, or has no primitive
type. -/
theorem node_or_field?_of_walked (hplain : x.Plain) (hx : root.Holds x) (h : Walked root x w)
    (hw : w.isMapping = true) :
    (∃ r, DescribedAs root x r ∧ w = r.node) ∨
      (∀ r, ¬ DescribedAs root x r) ∧ w.field? "primitiveType" "primitive_type" = none := by
  have hwalked := h
  obtain ⟨budget, -, h⟩ := h
  cases x with
  | mapping es =>
    rcases visit_mapping_eq_ok h with ⟨ref, hclass, hw'⟩ | ⟨hclass, hw'⟩ | ⟨hclass, fs, rfl, hfs⟩
    · have href := Node.classify_eq_reference_iff.mp hclass
      rcases replaceReference_eq_ok hw' with ⟨hkind, rfl⟩ | ⟨hkind, t, ht, hw'⟩
      · exact .inr ⟨fun r => not_describedAs_of_kind href hkind, rfl⟩
      · exact node_or_field?_of_replaceParameter (hfree t (Pointer.holds_of_lookup ht))
          (fun r => describedAs_iff_target href hkind ht) hw'
    · have href := (Node.classify_eq_parameter_iff.mp hclass).1
      exact node_or_field?_of_replaceParameter (hfree _ hx)
        (fun r => describedAs_iff_inline href) hw'
    · obtain ⟨-, href, hdef⟩ := Node.classify_eq_mapping_iff.mp hclass
      refine .inr ⟨fun r hr => ?_, field?_eq_none_of_walked hplain hclass hwalked (hfree _ hx)⟩
      cases ((describedAs_iff_inline href).mp hr).symm.trans
        (describe?_of_isDefinition_eq_false hdef)
  | sequence xs =>
    obtain ⟨ys, rfl, -⟩ := visit_sequence_eq_ok h
    cases hw
  | pair k v =>
    rw [visit_pair] at h
    obtain rfl := Except.ok.inj h
    cases hw
  | knot n b => exact absurd hplain Value.not_plain_knot
  | again n => exact absurd hplain Value.not_plain_again
  | _ =>
    obtain rfl := Except.ok.inj h
    cases hw

/-- What is read from what the walk gives for a parameter. -/
theorem readAs_of_walked (hplain : x.Plain) (hx : root.Holds x) (h : Walked root x w)
    {q : Parameter} (hq : Parameter.ofValue? w = some q) : Parameter.ReadAs root x w q := by
  have hw := Parameter.isMapping_of_ofValue? hq
  rcases node_or_field?_of_walked hfree hplain hx h hw with ⟨r, hr, rfl⟩ | ⟨hnone, hfield⟩
  · obtain rfl := Option.some.inj ((Parameter.ofValue?_node r).symm.trans hq)
    exact .described hr
  · obtain ⟨fs, hfs, rfl⟩ := Parameter.ofValue?_eq_some hfield hq
    exact .kept hnone hfs fun hrecord => Value.ofFields_of_asFields? hrecord hfs

end Read

/-! ### From the document to the operation -/

theorem nodup_keys_of_keysOf {fs : Fields} (h : (keysOf (.ofFields fs)).Nodup) :
    fs.keys.Nodup := by
  have hkeys : keysOf (.ofFields fs) = fs.keys.map Scalar.text := by
    simp [keysOf, Value.ofFields, Value.entries?, Value.opened, Table.keys]
  exact List.Nodup.of_map Scalar.text (hkeys ▸ h)

/-- A path item of the resolved document is what the walk gives for that of the document, if the
paths are entered. -/
theorem walked_item (hplain : d.tree.Plain) (hkeys : (keysOf (.ofFields d.paths)).Nodup)
    (hclass : Node.classify (.ofFields d.paths) = .mapping) (h : d.resolve = .ok d')
    {g : String × Value} (hg : g ∈ d'.paths) {item : Value}
    (hitem : d.paths.get? g.1 = some item) : Walked d.tree item g.2 := by
  obtain ⟨-, -, paths, -, -, -, -, -, ⟨hwalked, hread⟩, -⟩ := resolve_eq_ok h
  obtain ⟨-, href, -⟩ := Node.classify_eq_mapping_iff.mp hclass
  have hrecord : paths.IsRecord :=
    isRecord_of_walked (Value.isRecord_ofFields (nodup_keys_of_keysOf hkeys))
      (fun r t hr => by cases href.symm.trans hr) hwalked
  have hget : paths.get? g.1 = some g.2 := by
    rw [← Value.ofFields_of_asFields? hrecord hread, Value.get?_ofFields]
    exact Table.get?_of_mem (Value.nodup_keys_of_asFields? hread) hg
  have hpaths : (Value.ofFields d.paths).Plain :=
    (meets_section (by simp [sections])).holds.plain hplain
  obtain ⟨y, hy, hitemWalked⟩ := exists_get?_of_walked hpaths hclass hwalked
    ((Value.get?_ofFields d.paths g.1).trans hitem)
  obtain rfl := Option.some.inj (hget.symm.trans hy)
  exact hitemWalked

/-- An operation of a resolved path item is what the walk gives for that of the path item. -/
theorem walked_operation {item op : Value} {path : String} {e : Endpoint} (hplain : item.Plain)
    (hkeys : (keysOf item).Nodup) (hclass : Node.classify item = .mapping)
    (h : Walked root item w) (he : e ∈ Endpoint.ofPathItem path w)
    (hop : item.get? e.method.word = some op) : Walked root op e.operation := by
  obtain ⟨-, hmem⟩ := Endpoint.mem_entries_of_mem_ofPathItem he
  rw [← keysOf_of_classify hplain hclass h] at hkeys
  have hget : w.get? e.method.word = some e.operation := by
    cases hw : w.entries? with
    | none =>
      rw [hw] at hmem
      cases hmem
    | some es =>
      rw [keysOf, hw] at hkeys
      rw [hw] at hmem
      rw [Value.get?, hw]
      exact Table.get?_of_mem hkeys hmem
  obtain ⟨y, hy, hopWalked⟩ := exists_get?_of_walked hplain hclass h hop
  obtain rfl := Option.some.inj (hget.symm.trans hy)
  exact hopWalked

/-- The parameters of a resolved operation are what the walk gives for those of the operation. -/
theorem walked_parameters {op : Value} {xs : List Value} (hplain : op.Plain)
    (hclass : Node.classify op = .mapping) (h : Walked root op w)
    (hxs : op.get? "parameters" = some (.sequence xs)) :
    ∃ ws, w.get? "parameters" = some (.sequence ws) ∧ List.Forall₂ (Walked root) xs ws := by
  obtain ⟨y, hy, hwalked⟩ := exists_get?_of_walked hplain hclass h hxs
  obtain ⟨ws, rfl, hws⟩ := walked_sequence hwalked
  exact ⟨ws, hy, hws⟩

end Document

/-- The parameters of an endpoint are read from the mappings of a list that is not empty. -/
theorem Endpoint.exists_parameters_of_get? {e : Endpoint} {ws : List Value}
    (hws : e.operation.get? "parameters" = some (.sequence ws)) (hne : ws ≠ [])
    {qs : Option (List Parameter)} (h : e.parameters = .ok qs) :
    ∃ ps, qs = some ps ∧
      List.Forall₂ (fun w q => Parameter.ofValue? w = some q) (ws.filter Value.isMapping) ps := by
  have hfilled : e.filled? "parameters" = some (.sequence ws) := by
    obtain ⟨x, xs, rfl⟩ := List.exists_cons_of_ne_nil hne
    rw [filled?, Value.field, hws]
    rfl
  rw [parameters, hfilled] at h
  obtain ⟨ps, hps, rfl⟩ := Except.map_eq_ok.mp h
  exact ⟨ps, rfl, mapM_eq_some_iff.mp (need_eq_ok.mp hps)⟩

theorem Endpoint.parameters_of_toOperation {e : Endpoint} {id : String} {o : Operation}
    (h : e.toOperation id = .ok o) : e.parameters = .ok o.parameters := by
  simp only [toOperation, Except.bind_eq_ok, Except.pure_eq_ok] at h
  obtain ⟨s, -, rs, -, ps, hps, body, -, rfl⟩ := h
  exact hps

namespace Document

open PrimitiveParameter (DescribedAs)

theorem holds_of_paths {path : String} {item : Value} (h : d.paths.get? path = some item) :
    d.tree.Holds item := by
  have hpaths : d.tree.Holds (.ofFields d.paths) := (meets_section (by simp [sections])).holds
  have hget : (Value.ofFields d.paths).get? path = some item :=
    (Value.get?_ofFields d.paths path).trans h
  exact hpaths.tail (Value.mem_parts_of_get? hget)

section Client

variable {p : Projection} {c : Client} (hplain : d.tree.Plain)
  (hkeys : ∀ v, d.tree.Holds v → (keysOf v).Nodup) (h : clientOf p d = .ok c)
  {e : String × List Operation} (he : e ∈ c.controllers) {o : Operation} (ho : o ∈ e.2)
  {item op : Value} {xs : List Value} (hpaths : (Node.classify (.ofFields d.paths)).IsEntered)
  (hitem : d.paths.get? o.path = some item) (hitemEntered : (Node.classify item).IsEntered)
  (hop : item.get? o.method.word = some op)

include hplain hkeys h he ho hpaths hitem hitemEntered hop

/-- An operation of a client is read from what the walk gives for the operation of the document
under its path and method. -/
theorem exists_endpoint_of_clientOf :
    ∃ x : Endpoint, Walked d.tree op x.operation ∧ ∃ id, x.toOperation id = .ok o := by
  obtain ⟨d', hresolve, hclient⟩ := Except.bind_eq_ok.mp h
  obtain ⟨hcontrollers, -⟩ := Projection.client_eq_ok (Fault.lift_eq_ok.mp hclient)
  obtain ⟨x, hx, id, hid⟩ := Projection.exists_endpoint_of_controllers hcontrollers he ho
  obtain ⟨hmethod, hpath, -⟩ := Projection.toOperation_eq hid
  obtain ⟨g, hg, hx⟩ := List.mem_flatMap.mp hx
  have hpathsHeld : d.tree.Holds (.ofFields d.paths) := (meets_section (by simp [sections])).holds
  have hitemHeld := holds_of_paths hitem
  have hclass := Node.classify_of_isEntered (Value.isMapping_of_get? hop) hitemEntered
  rw [hmethod] at hop
  rw [hpath, (Endpoint.mem_entries_of_mem_ofPathItem hx).1] at hitem
  have hwalked := walked_item hplain (hkeys _ hpathsHeld) (Node.classify_of_isEntered rfl hpaths)
    hresolve hg hitem
  exact ⟨x, walked_operation (hitemHeld.plain hplain) (hkeys _ hitemHeld) hclass hwalked hx hop,
    id, hid⟩

end Client

/-- The parameters of an operation: a primitive one, a reference to a primitive one, one that is a
list, and a text. -/
def shelfParameters : List Value :=
  [.ofFields [("in", .text "path"), ("name", .text "shelf"), ("required", .bool true),
      ("schema", .ofFields [("type", .text "integer")])],
    .ofFields [("$ref", .text "#/components/parameters/Author")],
    .ofFields [("in", .text "query"), ("name", .text "tags"),
      ("schema", .ofFields [("type", .text "array")])],
    .text "shelf"]

/-- The operation with these parameters. -/
def shelfOperation : Value :=
  .ofFields [("operationId", .text "readShelf"), ("parameters", .sequence shelfParameters)]

/-- The document with that operation. -/
def shelfDocument : Document where
  openapi := "3.0.0"
  paths := [("/shelves/{shelf}", .ofFields [("get", shelfOperation)])]
  components := [("parameters", .ofFields [("Author", .ofFields
    [("in", .text "query"), ("name", .text "author"),
      ("schema", .ofFields [("type", .text "string"), ("format", .text "uuid")])])])]

/-- The operation as it is read. -/
def shelfReading : Operation where
  method := .get
  path := "/shelves/{shelf}"
  operationId := "readShelf"
  parameters := some
    [.primitive ⟨none, .parameter, false, "shelf", .path, true, "integer", none⟩,
      .primitive ⟨some "Author", .parameter, true, "author", .query, false, "string", some "uuid"⟩,
      .raw [("in", .text "query"), ("name", .text "tags"),
        ("schema", .ofFields [("type", .text "array")])]]

/-- A parameter with a key of bytes that write `shelf`. -/
def byteParameter : Value := .mapping [(.bytes [115, 104, 101, 108, 102], .int 1)]

/-- The operation with that parameter. -/
def byteOperation : Value :=
  .ofFields [("operationId", .text "readShelf"), ("parameters", .sequence [byteParameter])]

/-- The document with that operation. -/
def byteDocument : Document where
  openapi := "3.0.0"
  paths := [("/shelves", .ofFields [("get", byteOperation)])]

end Document

end ClientGen
