import ClientGen.Proofs.Resolution.Return
import ClientGen.Proofs.Resolution.Sections
import ClientGen.Proofs.Value.Json

/-!
# Faults of the resolver

The walk over a JSON value fails as foreseen, with a failure that is reported as a matter of
validation or of depth, except in three cases: a pointer comes to a list with digits that are no
place in a list, the schema of a parameter has a list or a mapping for its type, or a section of the
document is replaced by something that is no mapping.

## Main definitions

* `ClientGen.Failure.ConcernsDocument` : failures that are reported as a matter of validation or of
  depth.
* `ClientGen.PrimitiveParameter.HasContainerType` : a parameter with a list or a mapping for its
  type.
* `ClientGen.Document.Trips` : where the walk fails unforeseen.
* `ClientGen.Document.Misplaces`, `ClientGen.Document.Escapes` : where resolving a document does.

## Main results

* `ClientGen.Document.visit_eq_fault_iff` : the faults of the walk over a JSON value.
* `ClientGen.Document.resolve_eq_fault_iff` : the faults of resolving a JSON document.
* `ClientGen.Document.concernsDocument_of_resolve` : the failures of resolving a document.
-/

namespace ClientGen

variable {v w root : Value} {budget : Nat} {f : Fault} {p : Problem}

/-- The failure is reported as a matter of validation or of depth. -/
def Failure.ConcernsDocument (g : Failure) : Prop :=
  g.report.category = .validation ∨ g.report.category = .depth

/-! ### Parameters -/

namespace PrimitiveParameter

/-- A definition of a parameter whose schema has a mapping or a list for its type. -/
def HasContainerType (v : Value) : Prop :=
  isDefinition v = true ∧ (v.field "schema").isMapping = true ∧
    (((v.field "schema").field "type").isMapping = true ∨
      ((v.field "schema").field "type").isSequence = true)

/-- A JSON value is described as a parameter or as none, unless it has a container for its type. -/
theorem describe?_eq_error_iff (hv : v.IsJson) (name : Option String) :
    describe? v name = .error f ↔ f = .containerAsMember ∧ HasContainerType v := by
  have hfield {u : Value} (hu : u.IsJson) (key : String) : (u.field key).IsJson :=
    Document.hereditary_field Value.hereditary_isJson hu key
  have hmember := (hfield (hfield hv "schema") "type").isMember_eq_false_iff
  unfold describe? HasContainerType
  by_cases hshape : isDefinition v = true ∧ (v.field "schema").isMapping = true
  · obtain ⟨hdef, hschema⟩ := hshape
    simp only [hdef, hschema, Bool.not_true, Bool.or_self, Bool.false_eq_true, if_false, true_and]
    cases htype : ((v.field "schema").field "type").isMember with
    | false =>
      simp only [Bool.not_false, if_true, hmember.mp htype, and_true, Except.error.injEq]
      exact eq_comm
    | true =>
      have hno := hmember.not.mp (by simp [htype])
      simp only [Bool.not_true, Bool.false_eq_true, if_false, hno, and_false, iff_false,
        (hfield hv "name").shown_eq_ok]
      split
      · split <;> exact nofun
      · exact nofun
  · have hnone : (!isDefinition v || !(v.field "schema").isMapping) = true := by
      simpa [imp_iff_not_or] using hshape
    simp only [hnone, if_true, reduceCtorEq, false_iff]
    exact fun h => hshape ⟨h.2.1, h.2.2.1⟩

end PrimitiveParameter

namespace Document

open PrimitiveParameter (HasContainerType)

variable {d : Document}

theorem replaceParameter_eq_fault_iff (hv : v.IsJson) {name : Option String} :
    replaceParameter budget v name = .error (.fault f) ↔
      f = .containerAsMember ∧ HasContainerType v := by
  rw [← PrimitiveParameter.describe?_eq_error_iff hv name]
  unfold replaceParameter
  cases hdescribed : PrimitiveParameter.describe? v name with
  | error g => simp [Fault.lift, bind, Except.bind]
  | ok found =>
    cases found with
    | some q => simp [Fault.lift, bind, Except.bind, pure, Except.pure]
    | none => simp [Fault.lift, bind, Except.bind, copied_eq_error]

/-- A reference is replaced, or fails as foreseen, unless it names a parameter and its pointer or
its target is odd. -/
theorem replaceReference_eq_fault_iff (hroot : root.IsJson) {ref : String} :
    replaceReference root budget ref = .error (.fault f) ↔ Reference.kind ref = .parameter ∧
      (f = .malformedNumber ∧ Pointer.MeetsOddIndex root ref ∨
        f = .containerAsMember ∧ ∃ t, Pointer.lookup root ref = .ok t ∧ HasContainerType t) := by
  unfold replaceReference
  split
  · rename_i hkind
    simp only [hkind, true_and, Except.bind_eq_error, Pointer.lookup_eq_fault_iff]
    refine or_congr_right ⟨?_, ?_⟩
    · rintro ⟨t, ht, hf⟩
      have ht' := (Pointer.holds_of_lookup ht).isJson hroot
      obtain ⟨rfl, htype⟩ := (replaceParameter_eq_fault_iff ht').mp hf
      exact ⟨rfl, t, ht, htype⟩
    · rintro ⟨rfl, t, ht, htype⟩
      have ht' := (Pointer.holds_of_lookup ht).isJson hroot
      exact ⟨t, ht, (replaceParameter_eq_fault_iff ht').mpr ⟨rfl, htype⟩⟩
  · rename_i hkind
    exact iff_of_false nofun fun h => hkind h.1

/-! ### The walk over a plain value -/

theorem visit_of_reference (hv : v.Plain) {ref : String} (h : Node.classify v = .reference ref) :
    visit root budget [] none v = replaceReference root budget ref := by
  have hm := Value.isMapping_of_reference? (Node.classify_eq_reference_iff.mp h)
  obtain ⟨es, hes⟩ := Option.isSome_iff_exists.mp hm
  obtain rfl := (Value.opened_of_plain hv).symm.trans (Value.entries?_eq_some.mp hes)
  rw [visit_mapping, h]

theorem visit_of_parameter (hv : v.Plain) (h : Node.classify v = .parameter) :
    visit root budget [] none v = replaceParameter budget v none := by
  have hm := PrimitiveParameter.isMapping_of_isDefinition (Node.classify_eq_parameter_iff.mp h).2
  obtain ⟨es, hes⟩ := Option.isSome_iff_exists.mp hm
  obtain rfl := (Value.opened_of_plain hv).symm.trans (Value.entries?_eq_some.mp hes)
  rw [visit_mapping, h]

theorem visit_of_scalar (hv : v.Plain) (h : Node.classify v = .scalar) :
    visit root budget [] none v = .ok v := by
  cases v with
  | scalar s | members ks => rfl
  | pair k v => exact visit_pair k v
  | knot n b => exact absurd hv Value.not_plain_knot
  | again n => exact absurd hv Value.not_plain_again
  | sequence xs => cases h
  | mapping es => exact absurd h (Node.classify_ne_scalar rfl)

theorem visit_zero_of_isEntered (hv : v.Plain) (h : (Node.classify v).IsEntered) :
    visit root 0 [] none v = .error (.failure .tooDeepToResolve) := by
  cases v with
  | scalar s | members ks | pair k v => exact absurd h Node.not_isEntered_scalar
  | knot n b => exact absurd hv Value.not_plain_knot
  | again n => exact absurd hv Value.not_plain_again
  | sequence xs => rfl
  | mapping es =>
    rw [visit_mapping, Node.classify_of_isEntered rfl h]
    rfl

/-- The walk over a container that is entered fails where the walk over its parts does. -/
theorem visit_succ_eq_error_iff (hv : v.Plain) (h : (Node.classify v).IsEntered) :
    visit root (budget + 1) [] none v = .error p ↔
      visitItems root budget [] v.parts = .error p := by
  cases v with
  | scalar s | members ks | pair k v => exact absurd h Node.not_isEntered_scalar
  | knot n b => exact absurd hv Value.not_plain_knot
  | again n => exact absurd hv Value.not_plain_again
  | sequence xs =>
    rw [visit, if_neg (Nat.succ_ne_zero _), Except.map_eq_error]
    rfl
  | mapping es =>
    rw [visit_mapping, Node.classify_of_isEntered rfl h]
    simp only [if_neg (Nat.succ_ne_zero _), Except.map_eq_error]
    exact visitEntries_eq_error_iff

/-! ### Faults of the walk -/

/-- The walk over a value, with so many containers that it may still enter inside each other, fails
unforeseen. -/
inductive Trips (root : Value) : Nat → Value → Fault → Prop
  /-- The pointer to a parameter comes to a list with an odd segment. -/
  | pointer {budget : Nat} {v : Value} {ref : String} (hv : v.reference? = some ref)
      (hkind : Reference.kind ref = .parameter) (h : Pointer.MeetsOddIndex root ref) :
      Trips root budget v .malformedNumber
  /-- The pointer to a parameter names a parameter with a container for its type. -/
  | target {budget : Nat} {v t : Value} {ref : String} (hv : v.reference? = some ref)
      (hkind : Reference.kind ref = .parameter) (ht : Pointer.lookup root ref = .ok t)
      (h : HasContainerType t) : Trips root budget v .containerAsMember
  /-- The value is a parameter with a container for its type. -/
  | definition {budget : Nat} {v : Value} (hv : v.reference? = none) (h : HasContainerType v) :
      Trips root budget v .containerAsMember
  /-- The walk over a part fails unforeseen, and that over the parts before it does not fail. -/
  | part {budget : Nat} {v w : Value} {f : Fault} {before after : List Value}
      (hv : (Node.classify v).IsEntered) (hparts : v.parts = before ++ w :: after)
      (hbefore : ∀ u ∈ before, ∃ x, visit root budget [] none u = .ok x)
      (h : Trips root budget w f) : Trips root (budget + 1) v f

/-- The faults of the walk over a JSON value. -/
theorem visit_eq_fault_iff (hroot : root.IsJson) (hv : v.IsJson) :
    visit root budget [] none v = .error (.fault f) ↔ Trips root budget v f := by
  constructor
  · intro h
    have hplain := hv.plain
    induction v, hplain using Value.Plain.induction generalizing budget with
    | plain v hplain ih =>
      cases hclass : Node.classify v with
      | reference ref =>
        rw [visit_of_reference hplain hclass, replaceReference_eq_fault_iff hroot] at h
        have hr := Node.classify_eq_reference_iff.mp hclass
        obtain ⟨hkind, ⟨rfl, hodd⟩ | ⟨rfl, t, ht, htype⟩⟩ := h
        · exact .pointer hr hkind hodd
        · exact .target hr hkind ht htype
      | parameter =>
        rw [visit_of_parameter hplain hclass, replaceParameter_eq_fault_iff hv] at h
        obtain ⟨rfl, htype⟩ := h
        exact .definition (Node.classify_eq_parameter_iff.mp hclass).1 htype
      | scalar =>
        rw [visit_of_scalar hplain hclass] at h
        cases h
      | mapping | sequence =>
        have hentered : (Node.classify v).IsEntered := by simp [hclass, Node.IsEntered]
        cases budget with
        | zero =>
          rw [visit_zero_of_isEntered hplain hentered] at h
          cases h
        | succ budget =>
          rw [visit_succ_eq_error_iff hplain hentered, visitItems_eq_error_iff] at h
          obtain ⟨before, w, after, hparts, hbefore, hw⟩ := h
          have hmem : w ∈ v.parts := by simp [hparts]
          exact .part hentered hparts hbefore (ih w hmem (hv.of_mem_parts hmem) hw)
  · intro h
    induction h with
    | pointer hr hkind hodd =>
      rw [visit_of_reference hv.plain (Node.classify_eq_reference_iff.mpr hr),
        replaceReference_eq_fault_iff hroot]
      exact ⟨hkind, .inl ⟨rfl, hodd⟩⟩
    | target hr hkind ht htype =>
      rw [visit_of_reference hv.plain (Node.classify_eq_reference_iff.mpr hr),
        replaceReference_eq_fault_iff hroot]
      exact ⟨hkind, .inr ⟨rfl, _, ht, htype⟩⟩
    | definition hr htype =>
      rw [visit_of_parameter hv.plain (Node.classify_eq_parameter_iff.mpr ⟨hr, htype.1⟩),
        replaceParameter_eq_fault_iff hv]
      exact ⟨rfl, htype⟩
    | part hentered hparts hbefore _ ih =>
      rw [visit_succ_eq_error_iff hv.plain hentered, visitItems_eq_error_iff]
      exact ⟨_, _, _, hparts, hbefore, ih (hv.of_mem_parts (by simp [hparts]))⟩

/-! ### Failures of the walk -/

/-- The failures of the walk over a plain value. -/
theorem concernsDocument_of_visit (hv : v.Plain) {g : Failure}
    (h : visit root budget [] none v = .error (.failure g)) : g.ConcernsDocument := by
  induction v, hv using Value.Plain.induction generalizing budget with
  | plain v hplain ih =>
    cases hclass : Node.classify v with
    | reference ref =>
      rw [visit_of_reference hplain hclass] at h
      rcases replaceReference_eq_error h with ⟨hp, -⟩ | ⟨f, hp⟩ | ⟨s, hp⟩ | hp
      · exact Problem.failure.inj hp ▸ .inr rfl
      · cases hp
      · exact Problem.failure.inj hp ▸ .inl rfl
      · exact Problem.failure.inj hp ▸ .inl rfl
    | parameter =>
      rw [visit_of_parameter hplain hclass] at h
      rcases replaceParameter_eq_error h with ⟨f, hp⟩ | ⟨hp, -⟩
      · cases hp
      · exact Problem.failure.inj hp ▸ .inr rfl
    | scalar =>
      rw [visit_of_scalar hplain hclass] at h
      cases h
    | mapping | sequence =>
      have hentered : (Node.classify v).IsEntered := by simp [hclass, Node.IsEntered]
      cases budget with
      | zero =>
        rw [visit_zero_of_isEntered hplain hentered] at h
        exact Problem.failure.inj (Except.error.inj h) ▸ .inr rfl
      | succ budget =>
        rw [visit_succ_eq_error_iff hplain hentered, visitItems_eq_error_iff] at h
        obtain ⟨before, w, after, hparts, -, hw⟩ := h
        exact ih w (by simp [hparts]) hw

/-! ### What the walk gives -/

theorem isJson_handle (name : Option String) (kind : ReferenceKind) (isReference : Bool) :
    (SchemaHandle.named name kind isReference).node.IsJson := by
  cases name <;> simp [SchemaHandle.node, SchemaHandle.shownFields]

theorem isJson_node (q : PrimitiveParameter) : q.node.IsJson := by
  have hoptional (s : Option String) : (PrimitiveParameter.optionalText s).IsJson := by
    cases s <;> simp [PrimitiveParameter.optionalText]
  simp [PrimitiveParameter.node, hoptional]

theorem isJson_of_replaceParameter (hv : v.IsJson) {name : Option String}
    (h : replaceParameter budget v name = .ok w) : w.IsJson := by
  rcases replaceParameter_eq_ok h with ⟨q, -, rfl⟩ | ⟨-, rfl⟩
  · exact isJson_node q
  · exact hv

/-- The walk over a JSON value gives a JSON value. -/
theorem isJson_of_visit (hroot : root.IsJson) (hv : v.IsJson)
    (h : visit root budget [] none v = .ok w) : w.IsJson := by
  induction hv generalizing budget w with
  | scalar hs => exact Except.ok.inj h ▸ .scalar hs
  | sequence _ ih =>
    obtain ⟨ys, rfl, hys⟩ := visit_sequence_eq_ok h
    refine .sequence fun y hy => ?_
    obtain ⟨x, hx, hxy⟩ := exists_of_forall₂ hys hy
    exact ih x hx hxy
  | @ofFields fs hfs ih =>
    rcases visit_mapping_eq_ok h with ⟨r, -, hw⟩ | ⟨-, hw⟩ | ⟨-, es, rfl, hes⟩
    · rcases replaceReference_eq_ok hw with ⟨-, rfl⟩ | ⟨-, t, ht, hw⟩
      · exact isJson_handle _ _ _
      · exact isJson_of_replaceParameter ((Pointer.holds_of_lookup ht).isJson hroot) hw
    · exact isJson_of_replaceParameter (.ofFields hfs) hw
    · obtain ⟨gs, -, rfl⟩ := exists_fields (hes.imp fun _ _ hef => hef.1)
      refine .ofFields fun g hg => ?_
      obtain ⟨e, he, -, heg⟩ := exists_of_forall₂ hes (List.mem_map_of_mem hg)
      obtain ⟨f, hf, rfl⟩ := List.mem_map.mp he
      exact ih f hf heg

theorem isJson_of_walked (hroot : root.IsJson) (hv : v.IsJson) (h : Walked root v w) :
    w.IsJson := by
  obtain ⟨budget, -, h⟩ := h
  exact isJson_of_visit hroot hv h

/-! ### Documents -/

/-- The value refers to a parameter, and what stands there is no mapping. -/
def Misplaces (root v : Value) : Prop :=
  ∃ ref t, v.reference? = some ref ∧ Reference.kind ref = .parameter ∧
    Pointer.lookup root ref = .ok t ∧ t.isMapping = false

theorem isMapping_of_describe? {name : Option String} {q : PrimitiveParameter}
    (h : PrimitiveParameter.describe? v name = .ok (some q)) : v.isMapping = true := by
  refine PrimitiveParameter.isMapping_of_isDefinition ?_
  cases hdef : PrimitiveParameter.isDefinition v with
  | true => rfl
  | false => simp [PrimitiveParameter.describe?, hdef] at h

/-- The walk over a mapping gives a mapping, unless the mapping refers to something else. -/
theorem isMapping_of_walked (hv : v.Plain) (hm : v.isMapping = true) (h : Walked root v w) :
    w.isMapping = false ↔ Misplaces root v := by
  obtain ⟨budget, -, h⟩ := h
  obtain ⟨es, hes⟩ := Option.isSome_iff_exists.mp hm
  obtain rfl := (Value.opened_of_plain hv).symm.trans (Value.entries?_eq_some.mp hes)
  have hno (href : (Value.mapping es).reference? = none) : ¬ Misplaces root (.mapping es) := by
    rintro ⟨ref, t, href', -⟩
    cases href.symm.trans href'
  rcases visit_mapping_eq_ok h with ⟨ref, hclass, hw⟩ | ⟨hclass, hw⟩ | ⟨hclass, fs, rfl, -⟩
  · have href := Node.classify_eq_reference_iff.mp hclass
    rcases replaceReference_eq_ok hw with ⟨hkind, rfl⟩ | ⟨hkind, t, ht, hw⟩
    · refine iff_of_false nofun ?_
      rintro ⟨ref', t, href', hkind', -⟩
      obtain rfl := Option.some.inj (href.symm.trans href')
      exact hkind hkind'
    · have hmisplaces : Misplaces root (.mapping es) ↔ t.isMapping = false := by
        refine ⟨?_, fun hno => ⟨ref, t, href, hkind, ht, hno⟩⟩
        rintro ⟨ref', t', href', -, ht', hno⟩
        obtain rfl := Option.some.inj (href.symm.trans href')
        rwa [← Except.ok.inj (ht.symm.trans ht')] at hno
      rw [hmisplaces]
      rcases replaceParameter_eq_ok hw with ⟨q, hq, rfl⟩ | ⟨-, rfl⟩
      · rw [isMapping_of_describe? hq]
        exact Iff.rfl
      · exact Iff.rfl
  · obtain ⟨href, hdef⟩ := Node.classify_eq_parameter_iff.mp hclass
    refine iff_of_false ?_ (hno href)
    rcases replaceParameter_eq_ok hw with ⟨q, -, rfl⟩ | ⟨-, rfl⟩ <;> exact nofun
  · exact iff_of_false nofun (hno (Node.classify_eq_mapping_iff.mp hclass).2.1)

/-- Resolving the document fails unforeseen. -/
inductive Escapes (d : Document) : Fault → Prop
  /-- The walk over the document fails unforeseen. -/
  | walk {f : Fault} (h : Trips d.tree walkLimit d.tree f) : Escapes d f
  /-- The walk gives something else than a mapping for a section. -/
  | misplaced {s w : Value} (hwalk : visit d.tree walkLimit [] none d.tree = .ok w)
      (hs : s ∈ d.sections) (h : Misplaces d.tree s) : Escapes d .shapeMismatch

/-- What the walk over a JSON document gives is no document exactly if a section refers to
something else than a mapping. -/
theorem ofTree?_of_visit (hd : d.tree.IsJson)
    (h : visit d.tree walkLimit [] none d.tree = .ok w) :
    ofTree? w = none ↔ ∃ s ∈ d.sections, Misplaces d.tree s := by
  obtain ⟨info, servers, paths, components, tags, rfl, hinfo, hservers, hpaths, hcomponents, -⟩ :=
    visit_tree_eq_ok h
  have hwalked : List.Forall₂ (Walked d.tree) d.sections (info :: paths :: components :: servers) :=
    .cons hinfo (.cons hpaths (.cons hcomponents hservers))
  have hsection {s : Value} (hs : s ∈ d.sections) : s.IsJson ∧ s.isMapping = true := by
    refine ⟨(meets_section hs).holds.isJson hd, ?_⟩
    simp only [sections, List.mem_cons, List.mem_map] at hs
    rcases hs with rfl | rfl | rfl | ⟨fs, -, rfl⟩ <;> rfl
  have hread {s u : Value} (hs : s ∈ d.sections) (hsu : Walked d.tree s u) :
      (¬ ∃ fs, u.asFields? = some fs) ↔ Misplaces d.tree s := by
    obtain ⟨hjson, hm⟩ := hsection hs
    rw [← isMapping_of_walked hjson.plain hm hsu, ← Bool.not_eq_true]
    refine not_congr ⟨?_, (isJson_of_walked hd hjson hsu).exists_asFields?⟩
    rintro ⟨fs, hfs⟩
    exact Value.isMapping_of_asFields? hfs
  rw [Option.eq_none_iff_forall_not_mem, ← not_exists]
  simp only [Option.mem_def, exists_ofTree?_eq_some_iff, not_forall]
  constructor
  · rintro ⟨u, hu, hno⟩
    obtain ⟨s, hs, hsu⟩ := exists_of_forall₂ hwalked hu
    exact ⟨s, hs, (hread hs hsu).mp hno⟩
  · rintro ⟨s, hs, hmisplaced⟩
    obtain ⟨u, hu, hsu⟩ := exists_of_forall₂ hwalked.flip hs
    exact ⟨u, hu, (hread hs hsu).mpr hmisplaced⟩

/-- The faults of resolving a JSON document. -/
theorem resolve_eq_fault_iff (hd : d.tree.IsJson) :
    d.resolve = .error (.fault f) ↔ Escapes d f := by
  simp only [resolve, Except.bind_eq_error, visit_eq_fault_iff hd hd, Fault.lift_eq_error,
    need_eq_error, Problem.fault.injEq]
  constructor
  · rintro (htrips | ⟨w, hw, g, ⟨hnone, rfl⟩, rfl⟩)
    · exact .walk htrips
    · obtain ⟨s, hs, hmisplaced⟩ := (ofTree?_of_visit hd hw).mp hnone
      exact .misplaced hw hs hmisplaced
  · rintro (htrips | ⟨hw, hs, hmisplaced⟩)
    · exact .inl htrips
    · exact .inr ⟨_, hw, _, ⟨(ofTree?_of_visit hd hw).mpr ⟨_, hs, hmisplaced⟩, rfl⟩, rfl⟩

/-- The failures of resolving a document. -/
theorem concernsDocument_of_resolve (hd : d.tree.Plain) {g : Failure}
    (h : d.resolve = .error (.failure g)) : g.ConcernsDocument := by
  rcases Except.bind_eq_error.mp h with h | ⟨w, -, h⟩
  · exact concernsDocument_of_visit hd h
  · obtain ⟨f, -, hf⟩ := Fault.lift_eq_error.mp h
    cases hf

/-- A resolved JSON document is a JSON document. -/
theorem isJson_tree_of_resolve {d' : Document} (hd : d.tree.IsJson) (h : d.resolve = .ok d') :
    d'.tree.IsJson :=
  hereditary_tree_of_resolve Value.hereditary_isJson hd (fun _ _ => isJson_of_walked hd) h

end Document

end ClientGen
