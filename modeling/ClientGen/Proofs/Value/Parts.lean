import Mathlib.Data.List.Induction
import Mathlib.Logic.Relation
import ClientGen.Proofs.Outcome
import ClientGen.Value.Fields

/-!
# Parts of values

The parts of a value are what its outermost container holds, each standing on its own. A value
holds its parts, their parts, and so on.

## Main definitions

* `ClientGen.Value.parts`, `ClientGen.Value.Holds` : what a value holds.
* `ClientGen.Value.HoldsOutside` : what a value holds outside of some containers.
* `ClientGen.Value.Hereditary` : properties that a value shares with its parts.
* `ClientGen.Value.within` : what a value holds, as a list.
* `ClientGen.Value.IsRecord` : mappings from different texts.

## Main results

* `ClientGen.Value.induction`, `ClientGen.Value.Plain.induction` : induction over the containers of
  a value, and of a plain value.
* `ClientGen.Value.asFields?_ofFields`, `ClientGen.Value.ofFields_of_asFields?` : a record is read
  as what it was written from.
-/

namespace ClientGen

open Relation

namespace Value

/-! ### Induction -/

/-- A property of all values, from the parts of a container to the container. -/
@[elab_as_elim, induction_eliminator]
theorem induction {motive : Value → Prop} (scalar : ∀ s, motive (.scalar s))
    (sequence : ∀ xs, (∀ x ∈ xs, motive x) → motive (.sequence xs))
    (mapping : ∀ es, (∀ e ∈ es, motive e.2) → motive (.mapping es))
    (members : ∀ ks, motive (.members ks))
    (pair : ∀ k v, motive k → motive v → motive (.pair k v))
    (knot : ∀ n b, motive b → motive (.knot n b)) (again : ∀ n, motive (.again n)) (v : Value) :
    motive v := by
  have recurse (w : Value) (_ : sizeOf w < sizeOf v) : motive w :=
    induction scalar sequence mapping members pair knot again w
  cases v with
  | scalar s => exact scalar s
  | members ks => exact members ks
  | again n => exact again n
  | knot n b => exact knot n b (recurse b (by simp only [Value.knot.sizeOf_spec]; omega))
  | pair k v =>
    have hk : sizeOf k < sizeOf (Value.pair k v) := by simp only [Value.pair.sizeOf_spec]; omega
    have hv : sizeOf v < sizeOf (Value.pair k v) := by simp only [Value.pair.sizeOf_spec]; omega
    exact pair k v (recurse k hk) (recurse v hv)
  | sequence xs =>
    refine sequence xs fun x hx => recurse x ?_
    have := List.sizeOf_lt_of_mem hx
    simp only [Value.sequence.sizeOf_spec]
    omega
  | mapping es =>
    refine mapping es fun e he => recurse e.2 ?_
    have := List.sizeOf_lt_of_mem he
    have : sizeOf e = 1 + sizeOf e.1 + sizeOf e.2 := rfl
    simp only [Value.mapping.sizeOf_spec]
    omega
termination_by sizeOf v

theorem plainItems_iff : (xs : List Value) → plainItems xs = true ↔ ∀ x ∈ xs, x.Plain
  | [] => by simp [plainItems]
  | x :: xs => by
    rw [plainItems, Bool.and_eq_true, plainItems_iff xs, List.forall_mem_cons, Plain]

theorem plainEntries_iff :
    (es : Table Scalar Value) → plainEntries es = true ↔ ∀ e ∈ es, e.2.Plain
  | [] => by simp [plainEntries]
  | (k, v) :: es => by
    rw [plainEntries, Bool.and_eq_true, plainEntries_iff es, List.forall_mem_cons, Plain]

@[simp]
theorem plain_sequence {xs : List Value} : (sequence xs).Plain ↔ ∀ x ∈ xs, x.Plain := by
  rw [Plain, plain, plainItems_iff]

@[simp]
theorem plain_mapping {es : Table Scalar Value} : (mapping es).Plain ↔ ∀ e ∈ es, e.2.Plain := by
  rw [Plain, plain, plainEntries_iff]

@[simp]
theorem plain_pair {k v : Value} : (pair k v).Plain ↔ k.Plain ∧ v.Plain := by
  rw [Plain, plain, Bool.and_eq_true, Plain, Plain]

@[simp]
theorem plain_scalar (s : Scalar) : (scalar s).Plain := rfl

@[simp]
theorem not_plain_knot {n : Nat} {b : Value} : ¬ (knot n b).Plain := by simp [Plain, plain]

@[simp]
theorem not_plain_again {n : Nat} : ¬ (again n).Plain := by simp [Plain, plain]

theorem foldItems_eq_map (names : List Nat) :
    (xs : List Value) → foldItems names xs = xs.map (fold names)
  | [] => rfl
  | x :: xs => by rw [foldItems, foldItems_eq_map names xs, List.map_cons]

theorem foldEntries_eq_map (names : List Nat) :
    (es : Table Scalar Value) → foldEntries names es = es.map fun e => (e.1, e.2.fold names)
  | [] => rfl
  | (k, v) :: es => by rw [foldEntries, foldEntries_eq_map names es, List.map_cons]

theorem closeItems_eq_map (outer : List (Nat × Value)) (bound : List Nat) :
    (xs : List Value) → closeItems outer bound xs = xs.map (close outer bound)
  | [] => rfl
  | x :: xs => by rw [closeItems, closeItems_eq_map outer bound xs, List.map_cons]

theorem closeEntries_eq_map (outer : List (Nat × Value)) (bound : List Nat) :
    (es : Table Scalar Value) →
      closeEntries outer bound es = es.map fun e => (e.1, e.2.close outer bound)
  | [] => rfl
  | (k, v) :: es => by rw [closeEntries, closeEntries_eq_map outer bound es, List.map_cons]

/-- Where no container is known, nothing is written out. -/
theorem close_nil (v : Value) : ∀ bound, v.close [] bound = v := by
  induction v with
  | scalar s | members ks => intro bound; rfl
  | sequence xs ih =>
    intro bound
    rw [close, closeItems_eq_map, List.map_congr_left fun x hx => ih x hx bound, List.map_id']
  | mapping es ih =>
    intro bound
    have hes : ∀ e ∈ es, (e.1, e.2.close [] bound) = e := fun e he => by rw [ih e he bound]
    rw [close, closeEntries_eq_map, List.map_congr_left hes, List.map_id']
  | pair k v hk hv => intro bound; rw [close, hk bound, hv bound]
  | knot n b hb => intro bound; rw [close, hb (n :: bound)]
  | again n => intro bound; rw [close, List.lookup_nil]; split <;> rfl

theorem nesting_le_nestingItems {x : Value} : {xs : List Value} → x ∈ xs →
    x.nesting ≤ nestingItems xs
  | y :: ys, h => by
    rw [nestingItems]
    rcases List.mem_cons.mp h with rfl | h
    · exact Nat.le_max_left _ _
    · exact Nat.le_trans (nesting_le_nestingItems h) (Nat.le_max_right _ _)

theorem nestingEntries_eq : (es : Table Scalar Value) →
    nestingEntries es = nestingItems (es.map (·.2))
  | [] => rfl
  | (k, v) :: es => by
    rw [nestingEntries, List.map_cons, nestingItems, nestingEntries_eq es]

/-! ### Parts -/

/-- What the outermost container of the value holds. -/
def parts (v : Value) : List Value :=
  match v.opened with
  | sequence xs => xs
  | mapping es => es.map (·.2)
  | pair k w => [k, w]
  | _ => []

/-- The value is one of the parts of another, or of the parts of its parts, and so on. -/
def Holds : Value → Value → Prop := ReflTransGen fun v w => w ∈ v.parts

/-- The value holds another one, and none of the containers around that one has the property. -/
def HoldsOutside (P : Value → Prop) : Value → Value → Prop :=
  ReflTransGen fun v w => ¬ P v ∧ w ∈ v.parts

/-- The value is a key and a value, as an entry of an ordered list. -/
def IsPair (v : Value) : Prop := ∃ k w, v.opened = pair k w

@[simp]
theorem parts_sequence (xs : List Value) : (sequence xs).parts = xs := rfl

@[simp]
theorem parts_mapping (es : Table Scalar Value) : (mapping es).parts = es.map (·.2) := rfl

theorem entries?_eq_some {v : Value} {es : Table Scalar Value} :
    v.entries? = some es ↔ v.opened = mapping es := by
  unfold entries?
  split <;> simp_all

theorem items?_eq_some {v : Value} {xs : List Value} :
    v.items? = some xs ↔ v.opened = sequence xs := by
  unfold items?
  split <;> simp_all

theorem parts_of_entries? {v : Value} {es : Table Scalar Value} (h : v.entries? = some es) :
    v.parts = es.map (·.2) := by
  unfold parts
  rw [entries?_eq_some.mp h]

theorem parts_of_items? {v : Value} {xs : List Value} (h : v.items? = some xs) : v.parts = xs := by
  unfold parts
  rw [items?_eq_some.mp h]

theorem eq_text_of_text? {v : Value} {s : String} (h : v.text? = some s) : v = .text s := by
  unfold text? at h
  split at h
  · rw [Option.some.inj h]
  · cases h

theorem get?_eq_some {v w : Value} {key : String} (h : v.get? key = some w) :
    ∃ es, v.entries? = some es ∧ es.lookup (.text key) = some w :=
  Option.bind_eq_some_iff.mp h

theorem isMapping_of_get? {v w : Value} {key : String} (h : v.get? key = some w) :
    v.isMapping = true := by
  obtain ⟨es, hes, -⟩ := get?_eq_some h
  rw [isMapping, hes]
  rfl

theorem get?_of_isMapping_eq_false {v : Value} (h : v.isMapping = false) (key : String) :
    v.get? key = none := by
  have hnone : v.entries? = none := Option.not_isSome_iff_eq_none.mp (by simpa [isMapping] using h)
  rw [get?, hnone]
  rfl

theorem field_of_isMapping_eq_false {v : Value} (h : v.isMapping = false) (key : String) :
    v.field key = null := by
  rw [field, get?_of_isMapping_eq_false h]
  rfl

theorem mem_of_lookup {α β : Type} [BEq α] [LawfulBEq α] {t : List (α × β)} {k : α} {x : β}
    (h : t.lookup k = some x) : (k, x) ∈ t := by
  obtain ⟨l, r, rfl, -⟩ := List.lookup_eq_some_iff.mp h
  simp

theorem mem_parts_of_get? {v w : Value} {key : String} (h : v.get? key = some w) :
    w ∈ v.parts := by
  obtain ⟨es, hes, hw⟩ := get?_eq_some h
  rw [parts_of_entries? hes]
  exact List.mem_map.mpr ⟨_, mem_of_lookup hw, rfl⟩

theorem plain_of_mem_parts {v w : Value} (h : v.Plain) (hw : w ∈ v.parts) : w.Plain := by
  cases v with
  | scalar s => cases hw
  | members ks => cases hw
  | sequence xs => exact plain_sequence.mp h w hw
  | mapping es =>
    obtain ⟨e, he, rfl⟩ := List.mem_map.mp hw
    exact plain_mapping.mp h e he
  | pair k v =>
    obtain ⟨hk, hv⟩ := plain_pair.mp h
    rcases List.mem_cons.mp hw with rfl | hw
    · exact hk
    · exact List.mem_singleton.mp hw ▸ hv
  | knot n b => exact absurd h not_plain_knot
  | again n => cases hw

theorem opened_of_plain {v : Value} (h : v.Plain) : v.opened = v := by
  cases v with
  | knot n b => exact absurd h not_plain_knot
  | _ => rfl

/-- A property that the parts of a value share with it, and that a value with text keys, a list, a
text and null have if their parts do. -/
structure Hereditary (P : Value → Prop) : Prop where
  /-- The parts have it. -/
  of_mem_parts : ∀ {v w : Value}, P v → w ∈ v.parts → P w
  /-- No value has it. -/
  null : P null
  /-- A text has it. -/
  text : ∀ s : String, P (text s)
  /-- A list of values that have it has it. -/
  sequence : ∀ {xs : List Value}, (∀ x ∈ xs, P x) → P (sequence xs)
  /-- A mapping from texts to values that have it has it. -/
  ofFields : ∀ {fs : Fields}, (∀ f ∈ fs, P f.2) → P (ofFields fs)

theorem plain_ofFields {fs : Fields} (h : ∀ f ∈ fs, f.2.Plain) : (ofFields fs).Plain := by
  refine plain_mapping.mpr fun e he => ?_
  obtain ⟨f, hf, rfl⟩ := List.mem_map.mp he
  exact h f hf

theorem hereditary_plain : Hereditary Plain where
  of_mem_parts := plain_of_mem_parts
  null := plain_scalar _
  text _ := plain_scalar _
  sequence := plain_sequence.mpr
  ofFields := plain_ofFields

theorem Hereditary.of_holds {P : Value → Prop} (hP : Hereditary P) {v w : Value} (hv : P v)
    (h : v.Holds w) : P w := by
  induction h with
  | refl => exact hv
  | tail _ hstep ih => exact hP.of_mem_parts ih hstep

theorem Holds.plain {v w : Value} (h : v.Holds w) (hv : v.Plain) : w.Plain :=
  hereditary_plain.of_holds hv h

/-- A property of all plain values, from the parts of a value to the value. -/
@[elab_as_elim]
theorem Plain.induction {motive : (v : Value) → v.Plain → Prop}
    (plain : ∀ v hv, (∀ w hw, motive w (plain_of_mem_parts hv hw)) → motive v hv) (v : Value)
    (hv : v.Plain) : motive v hv := by
  refine plain v hv ?_
  induction v with
  | scalar s | members ks | again n => exact fun w hw => by cases hw
  | knot n b => exact absurd hv not_plain_knot
  | sequence xs ih => exact fun x hx => plain x _ (ih x hx (plain_sequence.mp hv x hx))
  | mapping es ih =>
    intro w hw
    obtain ⟨e, he, rfl⟩ := List.mem_map.mp hw
    exact plain e.2 _ (ih e he (plain_mapping.mp hv e he))
  | pair k v hk hv' =>
    obtain ⟨hkplain, hvplain⟩ := plain_pair.mp hv
    intro w hw
    rcases List.mem_cons.mp hw with rfl | hw
    · exact plain w hkplain (hk hkplain)
    · obtain rfl := List.mem_singleton.mp hw
      exact plain w hvplain (hv' hvplain)

mutual

/-- What a plain value holds through containers that are entered, and the value itself. -/
def within (enters : Value → Bool) : Value → List Value
  | sequence xs => sequence xs :: if enters (sequence xs) then withinItems enters xs else []
  | mapping es => mapping es :: if enters (mapping es) then withinEntries enters es else []
  | pair k v => pair k v :: if enters (pair k v) then within enters k ++ within enters v else []
  | v => [v]

/-- `within` for every item. -/
def withinItems (enters : Value → Bool) : List Value → List Value
  | [] => []
  | x :: xs => within enters x ++ withinItems enters xs

/-- `within` for the value of every entry. -/
def withinEntries (enters : Value → Bool) : Table Scalar Value → List Value
  | [] => []
  | (_, v) :: es => within enters v ++ withinEntries enters es

end

theorem mem_withinItems {enters : Value → Bool} {w x : Value} (hw : w ∈ within enters x) :
    {xs : List Value} → x ∈ xs → w ∈ withinItems enters xs
  | _ :: xs, hx => by
    rw [withinItems, List.mem_append]
    rcases List.mem_cons.mp hx with rfl | hx
    · exact .inl hw
    · exact .inr (mem_withinItems hw hx)

theorem withinEntries_eq (enters : Value → Bool) : (es : Table Scalar Value) →
    withinEntries enters es = withinItems enters (es.map (·.2))
  | [] => rfl
  | (k, v) :: es => by
    rw [withinEntries, List.map_cons, withinItems, withinEntries_eq enters es]

theorem mem_within {enters : Value → Bool} {v w : Value} (hplain : v.Plain)
    (h : ReflTransGen (fun v w => enters v = true ∧ w ∈ v.parts) v w) : w ∈ within enters v := by
  induction v with
  | knot n b => exact absurd hplain not_plain_knot
  | again n => exact absurd hplain not_plain_again
  | scalar s =>
    rcases h.cases_head with rfl | ⟨u, ⟨-, hu⟩, -⟩
    · exact List.mem_singleton_self _
    · cases hu
  | members ks =>
    rcases h.cases_head with rfl | ⟨u, ⟨-, hu⟩, -⟩
    · exact List.mem_singleton_self _
    · cases hu
  | pair k v hk hv =>
    rw [within]
    rcases h.cases_head with rfl | ⟨u, ⟨henters, hu⟩, huw⟩
    · exact List.mem_cons_self
    · obtain ⟨hkplain, hvplain⟩ := plain_pair.mp hplain
      rw [if_pos henters, List.mem_cons, List.mem_append]
      rcases List.mem_cons.mp hu with rfl | hu
      · exact .inr (.inl (hk hkplain huw))
      · obtain rfl := List.mem_singleton.mp hu
        exact .inr (.inr (hv hvplain huw))
  | sequence xs ih =>
    rw [within]
    rcases h.cases_head with rfl | ⟨u, ⟨henters, hu⟩, huw⟩
    · exact List.mem_cons_self
    · have hmem := ih u hu (plain_sequence.mp hplain u hu) huw
      rw [if_pos henters]
      exact List.mem_cons_of_mem _ (mem_withinItems hmem hu)
  | mapping es ih =>
    rw [within]
    rcases h.cases_head with rfl | ⟨u, ⟨henters, hu⟩, huw⟩
    · exact List.mem_cons_self
    · obtain ⟨e, he, rfl⟩ := List.mem_map.mp hu
      have hmem := ih e he (plain_mapping.mp hplain e he) huw
      rw [if_pos henters, withinEntries_eq]
      exact List.mem_cons_of_mem _ (mem_withinItems hmem hu)

theorem mem_within_of_holds {v w : Value} (hplain : v.Plain) (h : v.Holds w) :
    w ∈ v.within fun _ => true := by
  refine mem_within hplain ?_
  induction h with
  | refl => exact .refl
  | tail _ hstep ih => exact ih.tail ⟨rfl, hstep⟩

end Value

/-! ### Records -/

namespace Table

variable {κ α : Type} [BEq κ] [LawfulBEq κ]

theorem insert_of_not_mem {k : κ} {x : α} :
    {t : Table κ α} → k ∉ t.keys → t.insert k x = t ++ [(k, x)]
  | [], _ => rfl
  | e :: t, h => by
    obtain ⟨hne, ht⟩ := List.ne_and_not_mem_of_not_mem_cons h
    have hkey : (e.1 == k) = false := beq_eq_false_iff_ne.mpr (Ne.symm hne)
    rw [insert, insertWith, hkey, if_neg Bool.false_ne_true, ← insert, insert_of_not_mem ht,
      List.cons_append]

theorem foldl_insert {es t : Table κ α} (h : (t ++ es).keys.Nodup) :
    es.foldl (fun t e => insertWith (· == ·) e.1 e.2 t) t = t ++ es := by
  induction es generalizing t with
  | nil => rw [List.foldl_nil, List.append_nil]
  | cons e es ih =>
    have hnot : e.1 ∉ t.keys := by
      intro hmem
      rw [keys, List.map_append, List.nodup_append] at h
      exact h.2.2 e.1 hmem e.1 (by simp) rfl
    have hstep : insertWith (· == ·) e.1 e.2 t = t ++ [e] := insert_of_not_mem hnot
    rw [List.foldl_cons, hstep, ih (by simpa using h), List.append_assoc, List.singleton_append]

/-- Writing entries with different keys gives these entries. -/
theorem ofEntries_of_nodup {es : Table κ α} (h : es.keys.Nodup) : ofEntries es = es :=
  foldl_insert (t := []) h

theorem keys_insert_subset {k : κ} {x : α} :
    {t : Table κ α} → (t.insert k x).keys ⊆ k :: t.keys
  | [] => by simp [insert, insertWith, keys]
  | e :: t => by
    intro j hj
    by_cases hk : e.1 = k
    · have hkey : (e.1 == k) = true := beq_iff_eq.mpr hk
      rw [insert, insertWith, hkey, if_pos rfl] at hj
      exact List.mem_cons_of_mem _ hj
    · have hkey : (e.1 == k) = false := beq_eq_false_iff_ne.mpr hk
      rw [insert, insertWith, hkey, if_neg Bool.false_ne_true, ← insert] at hj
      rcases List.mem_cons.mp hj with rfl | hj
      · exact List.mem_cons_of_mem _ List.mem_cons_self
      · rcases List.mem_cons.mp (keys_insert_subset hj) with rfl | hj
        · exact List.mem_cons_self
        · exact List.mem_cons_of_mem _ (List.mem_cons_of_mem _ hj)

theorem nodup_keys_insert {k : κ} {x : α} {t : Table κ α} (h : t.keys.Nodup) :
    (t.insert k x).keys.Nodup := by
  induction t with
  | nil => simp [insert, insertWith, keys]
  | cons e t ih =>
    obtain ⟨hnot, ht⟩ := List.nodup_cons.mp h
    by_cases hk : e.1 = k
    · have hkey : (e.1 == k) = true := beq_iff_eq.mpr hk
      rw [insert, insertWith, hkey, if_pos rfl]
      exact h
    · have hkey : (e.1 == k) = false := beq_eq_false_iff_ne.mpr hk
      rw [insert, insertWith, hkey, if_neg Bool.false_ne_true, ← insert]
      refine List.nodup_cons.mpr ⟨fun hmem => ?_, ih ht⟩
      rcases List.mem_cons.mp (keys_insert_subset hmem) with hek | hmem
      · exact hk hek
      · exact hnot hmem

omit [LawfulBEq κ] in
theorem ofEntries_concat (es : List (κ × α)) (e : κ × α) :
    ofEntries (es ++ [e]) = (ofEntries es).insert e.1 e.2 :=
  List.foldl_append

/-- The keys of written entries are different. -/
theorem nodup_keys_ofEntries (es : List (κ × α)) : (ofEntries es).keys.Nodup := by
  induction es using List.reverseRecOn with
  | nil => exact List.nodup_nil
  | append_singleton es e ih =>
    rw [ofEntries_concat]
    exact nodup_keys_insert ih

theorem mem_insert {k : κ} {x : α} {e : κ × α} :
    {t : Table κ α} → e ∈ Table.insert k x t → e = (k, x) ∨ e ∈ t
  | [], h => .inl (List.mem_singleton.mp h)
  | y :: t, h => by
    by_cases hk : y.1 = k
    · have hkey : (y.1 == k) = true := beq_iff_eq.mpr hk
      rw [insert, insertWith, hkey, if_pos rfl, hk] at h
      exact (List.mem_cons.mp h).imp_right (List.mem_cons_of_mem _)
    · have hkey : (y.1 == k) = false := beq_eq_false_iff_ne.mpr hk
      rw [insert, insertWith, hkey, if_neg Bool.false_ne_true, ← insert] at h
      rcases List.mem_cons.mp h with rfl | h
      · exact .inr List.mem_cons_self
      · exact (mem_insert h).imp_right (List.mem_cons_of_mem _)

/-- Written entries are from among those that are written. -/
theorem mem_ofEntries {es : List (κ × α)} {e : κ × α} (h : e ∈ ofEntries es) : e ∈ es := by
  induction es using List.reverseRecOn with
  | nil => cases h
  | append_singleton es y ih =>
    rw [ofEntries_concat] at h
    rcases mem_insert h with rfl | h
    · exact List.mem_append_right _ List.mem_cons_self
    · exact List.mem_append_left _ (ih h)

/-- In a table with different keys an entry is what its key leads to. -/
theorem get?_of_mem {t : Table κ α} (hkeys : t.keys.Nodup) {k : κ} {x : α} (h : (k, x) ∈ t) :
    t.get? k = some x := by
  induction t with
  | nil => cases h
  | cons e t ih =>
    obtain ⟨hnot, hkeys⟩ := List.nodup_cons.mp hkeys
    rw [get?, List.lookup_cons]
    rcases List.mem_cons.mp h with rfl | h
    · rw [beq_self_eq_true]
    · have hne : k ≠ e.1 := fun hk => hnot (List.mem_map.mpr ⟨(k, x), h, hk⟩)
      rw [beq_eq_false_iff_ne.mpr hne]
      exact ih hkeys h

/-- A key has the value that is written last. -/
theorem get?_ofEntries (es : List (κ × α)) (k : κ) :
    (ofEntries es).get? k = es.reverse.lookup k := by
  induction es using List.reverseRecOn with
  | nil => rfl
  | append_singleton es e ih =>
    rw [ofEntries_concat, List.reverse_append, List.reverse_singleton, List.singleton_append,
      List.lookup_cons]
    by_cases hk : k = e.1
    · rw [hk, get?_insert_self, beq_self_eq_true]
    · have hkey : (k == e.1) = false := beq_eq_false_iff_ne.mpr hk
      rw [get?_insert_of_ne hk, ih, hkey]

end Table

namespace Value

/-- The value is a mapping whose keys are different texts. -/
def IsRecord (v : Value) : Prop := ∃ fs : Fields, fs.keys.Nodup ∧ v = ofFields fs

/-- Entries whose keys are texts are fields. -/
theorem exists_fields_of_texts {es : Table Scalar Value} (h : ∀ e ∈ es, ∃ s, e.1 = .text s) :
    ∃ fs : Fields, es = fs.map fun f => (.text f.1, f.2) := by
  induction es with
  | nil => exact ⟨[], rfl⟩
  | cons e es ih =>
    obtain ⟨⟨s, hs⟩, hes⟩ := List.forall_mem_cons.mp h
    obtain ⟨fs, rfl⟩ := ih hes
    exact ⟨(s, e.2) :: fs, by rw [List.map_cons, ← hs]⟩

theorem lookup_text (fs : Fields) (key : String) :
    List.lookup (Scalar.text key) (fs.map fun f => (Scalar.text f.1, f.2)) = fs.lookup key := by
  induction fs with
  | nil => rfl
  | cons f fs ih =>
    have hkey : (Scalar.text key == Scalar.text f.1) = (key == f.1) := by
      by_cases h : key = f.1
      · rw [h, beq_self_eq_true, beq_self_eq_true]
      · rw [beq_eq_false_iff_ne.mpr h, beq_eq_false_iff_ne]
        exact fun h' => h (Scalar.text.inj h')
    rw [List.map_cons, List.lookup_cons, List.lookup_cons, hkey, ih]

@[simp]
theorem get?_ofFields (fs : Fields) (key : String) : (ofFields fs).get? key = fs.lookup key :=
  lookup_text fs key

theorem parts_ofFields (fs : Fields) : (ofFields fs).parts = fs.map (·.2) := by
  rw [ofFields, parts_mapping, List.map_map]
  rfl

/-- Fields are read from entries whose keys write texts. -/
theorem asFields?_eq_some {v : Value} {fs : Fields} :
    v.asFields? = some fs ↔ ∃ es gs, v.entries? = some es ∧
      List.Forall₂ (fun e g => e.1.asText? = some g.1 ∧ e.2 = g.2) es gs ∧
        fs = Table.ofEntries gs := by
  have hentry (e : Scalar × Value) (g : String × Value) :
      e.1.asText?.map (·, e.2) = some g ↔ e.1.asText? = some g.1 ∧ e.2 = g.2 := by
    obtain ⟨t, x⟩ := g
    simp [Option.map_eq_some_iff]
  simp only [asFields?, Option.bind_eq_bind, Option.bind_eq_some_iff, Option.pure_def,
    Option.some.injEq, mapM_eq_some_iff, hentry]
  constructor
  · rintro ⟨es, hes, gs, hgs, rfl⟩
    exact ⟨es, gs, hes, hgs, rfl⟩
  · rintro ⟨es, gs, hes, hgs, rfl⟩
    exact ⟨es, hes, gs, hgs, rfl⟩

/-- The fields that are read from a value are parts of it. -/
theorem mem_parts_of_asFields? {v : Value} {fs : Fields} (h : v.asFields? = some fs)
    {f : String × Value} (hf : f ∈ fs) : f.2 ∈ v.parts := by
  obtain ⟨es, gs, hes, hgs, rfl⟩ := asFields?_eq_some.mp h
  obtain ⟨e, he, -, hef⟩ := exists_of_forall₂ hgs (Table.mem_ofEntries hf)
  rw [parts_of_entries? hes, ← hef]
  exact List.mem_map_of_mem he

/-- A field has the value of the only entry whose key writes its name. -/
theorem lookup_of_asFields? {v x : Value} {fs : Fields} {es : List (Scalar × Value)} {key : String}
    (h : v.asFields? = some fs) (hes : v.entries? = some es) (hx : (.text key, x) ∈ es)
    (hunique : ∀ e ∈ es, e.1.asText? = some key → e.2 = x) : fs.lookup key = some x := by
  obtain ⟨es', gs, hes', hgs, rfl⟩ := asFields?_eq_some.mp h
  obtain rfl := Option.some.inj (hes.symm.trans hes')
  rw [← Table.get?, Table.get?_ofEntries]
  cases hlast : gs.reverse.lookup key with
  | none =>
    obtain ⟨g, hg, htext, -⟩ := exists_of_forall₂ (List.Forall₂.flip hgs) hx
    have hkey : key = g.1 := Option.some.inj htext
    have hno := List.lookup_eq_none_iff.mp hlast g (List.mem_reverse.mpr hg)
    simp [hkey] at hno
  | some y =>
    have hy : (key, y) ∈ gs := List.mem_reverse.mp (mem_of_lookup hlast)
    obtain ⟨e, he, htext, hey⟩ := exists_of_forall₂ hgs hy
    rw [← hunique e he htext, hey]

theorem asFields?_ofFields (fs : Fields) : (ofFields fs).asFields? = some (Table.ofEntries fs) := by
  have hkeys : (fs.map fun f => (Scalar.text f.1, f.2)).mapM
      (fun e => e.1.asText?.map (·, e.2)) = some fs := by
    induction fs with
    | nil => rfl
    | cons f fs ih =>
      rw [List.map_cons, List.mapM_cons, ih]
      rfl
  simp [asFields?, ofFields, entries?, opened, hkeys]

theorem nodup_keys_of_asFields? {v : Value} {fs : Fields} (h : v.asFields? = some fs) :
    fs.keys.Nodup := by
  obtain ⟨-, gs, -, -, rfl⟩ := asFields?_eq_some.mp h
  exact Table.nodup_keys_ofEntries gs

theorem ofFields_injective {fs gs : Fields} (h : ofFields fs = ofFields gs) : fs = gs := by
  refine List.map_injective_iff.mpr (fun f g hfg => ?_) (Value.mapping.inj h)
  obtain ⟨hkey, hvalue⟩ := Prod.mk.inj hfg
  exact Prod.ext (Scalar.text.inj hkey) hvalue

theorem isRecord_ofFields {fs : Fields} (h : fs.keys.Nodup) : (ofFields fs).IsRecord := ⟨fs, h, rfl⟩

/-- A record is read as what it was written from. -/
theorem ofFields_of_asFields? {v : Value} {fs : Fields} (hv : v.IsRecord)
    (h : v.asFields? = some fs) : ofFields fs = v := by
  obtain ⟨gs, hnodup, rfl⟩ := hv
  rw [asFields?_ofFields, Table.ofEntries_of_nodup hnodup] at h
  rw [Option.some.inj h]

end Value

end ClientGen
