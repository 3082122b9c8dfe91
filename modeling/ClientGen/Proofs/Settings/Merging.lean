import Mathlib.Data.List.Nodup
import ClientGen.Proofs.Settings.Overlay

/-!
# Merging of objects

An object is merged into another one key by key, all the way down. What a path of keys leads to in
the merged object is said by the upper object if that has a value there which is no object, or such
a value on the way; and by the lower object if the upper one has only objects on the way until a key
is missing. Merging the upper object once more changes nothing, as it is in the merged object
already.

## Main definitions

* `ClientGen.Value.IsObject` : mappings with a last level, in which all keys are different texts.
* `ClientGen.Value.IsMergeOf` : what is to be found in a merged object.

## Main results

* `ClientGen.Value.Overlaid.exists_get?`, `ClientGen.Value.Overlaid.exists_at?` : one key, and a
  path of keys, under which the upper object has a value.
* `ClientGen.Value.keys_overlayWithin` : the keys of an object laid over another one.
* `ClientGen.Value.Overlaid.eq_of_again` : what is laid over once more.
* `ClientGen.Value.isMergeOf_of_isObject` : objects can be merged, and what is found then.
-/

namespace ClientGen.Value

variable {depth : Nat} {lower upper es : Table Scalar Value} {a b c : Option Value}
  {u v w : Value} {key : String} {path : List String}

/-! ### Objects -/

theorem keys_texts (fs : Fields) :
    Table.keys (fs.map fun f => (Scalar.text f.1, f.2)) = fs.keys.map .text := by
  simp [Table.keys]

theorem isRecord_mapping_iff : (mapping es).IsRecord ↔
    (∀ e ∈ es, ∃ s, e.1 = .text s) ∧ es.keys.Nodup := by
  constructor
  · rintro ⟨fs, hkeys, hes⟩
    obtain rfl := Value.mapping.inj hes
    refine ⟨List.forall_mem_map.mpr fun f _ => ⟨f.1, rfl⟩, ?_⟩
    rw [keys_texts]
    exact hkeys.map fun _ _ h => Scalar.text.inj h
  · rintro ⟨htexts, hkeys⟩
    obtain ⟨fs, rfl⟩ := exists_fields_of_texts htexts
    rw [keys_texts] at hkeys
    exact ⟨fs, hkeys.of_map _, rfl⟩

/-- An entry of a record is found under its key. -/
theorem IsRecord.exists_get?_of_mem (h : (mapping es).IsRecord) {e : Scalar × Value} (he : e ∈ es) :
    ∃ key, e.1 = .text key ∧ (mapping es).get? key = some e.2 := by
  obtain ⟨htexts, hkeys⟩ := isRecord_mapping_iff.mp h
  obtain ⟨key, hkey⟩ := htexts e he
  refine ⟨key, hkey, ?_⟩
  rw [get?_mapping, ← hkey]
  exact Table.get?_of_mem hkeys he

/-- The value has a last level, and the keys of every mapping in it are different texts. Values that
are read from JSON are of this kind. -/
structure IsTree (v : Value) : Prop where
  /-- There is a last level. -/
  plain : v.Plain
  /-- Keys are different texts. -/
  isRecord : ∀ w, v.Holds w → w.isMapping = true → w.IsRecord

/-- A tree that is a mapping. -/
structure IsObject (v : Value) : Prop extends IsTree v where
  /-- It is a mapping. -/
  isMapping : v.isMapping = true

theorem IsTree.of_mem_parts (h : v.IsTree) (hw : w ∈ v.parts) : w.IsTree where
  plain := plain_of_mem_parts h.plain hw
  isRecord x hx := h.isRecord x (.head hw hx)

theorem IsTree.of_entries? (h : v.IsTree) (hes : v.entries? = some es) :
    v = mapping es ∧ (mapping es).IsRecord ∧ ∀ e ∈ es, e.2.IsTree := by
  obtain rfl : v = mapping es :=
    (opened_of_plain h.plain).symm.trans (entries?_eq_some.mp hes)
  refine ⟨rfl, h.isRecord _ .refl rfl, fun e he => h.of_mem_parts ?_⟩
  exact List.mem_map_of_mem he

theorem isTree_mapping (hrecord : (mapping es).IsRecord) (h : ∀ e ∈ es, e.2.IsTree) :
    (mapping es).IsTree where
  plain := plain_mapping.mpr fun e he => (h e he).plain
  isRecord w hw hm := by
    rcases hw.cases_head with rfl | ⟨u, hu, huw⟩
    · exact hrecord
    · obtain ⟨e, he, rfl⟩ := List.mem_map.mp hu
      exact (h e he).isRecord w huw hm

theorem isTree_ofFields {fs : Fields} (hkeys : fs.keys.Nodup) (h : ∀ f ∈ fs, f.2.IsTree) :
    (ofFields fs).IsTree :=
  isTree_mapping (isRecord_ofFields hkeys) (List.forall_mem_map.mpr h)

@[simp]
theorem isTree_scalar (s : Scalar) : (scalar s).IsTree where
  plain := plain_scalar s
  isRecord w hw hm := by
    rcases hw.cases_head with rfl | ⟨u, hu, -⟩
    · cases hm
    · cases hu

/-! ### One key -/

/-- **One key.** What stands under a key of two mappings that are laid over each other is laid over
each other as well. If the lower value is no mapping, it has nothing there. -/
theorem Overlaid.exists_get? (h : Overlaid depth a (some u) c) (hu : u.isMapping = true)
    (key : String) : ∃ depth', Overlaid depth' (a.bind (·.get? key)) (u.get? key)
      (c.bind (·.get? key)) := by
  cases h with
  | upper hnot =>
    -- The upper value is a mapping, so that the lower one cannot be one.
    have ha : a.bind (·.get? key) = none := by
      refine Option.bind_eq_none_iff.mpr fun x hx => get?_of_isMapping_eq_false ?_ key
      rcases hnot x hx with hx | hu'
      · exact hx
      · rw [hu] at hu'
        cases hu'
    rw [ha, Option.bind_some]
    refine ⟨depth, ?_⟩
    cases u.get? key with
    | none => exact .lower none
    | some v => exact .upper nofun
  | both hv hu h =>
    obtain _ | depth := depth
    · cases h
    rw [Option.bind_some, Option.bind_some, get?_of_entries? hv, get?_of_entries? hu]
    exact ⟨depth, overlaid_of_overlayWithin h key⟩

theorem Overlaid.eq_of_none (h : Overlaid depth a none c) : c = a := by
  cases h with
  | lower => rfl

theorem Overlaid.ne_none (h : Overlaid depth a (some u) c) : c ≠ none := by
  cases h with
  | upper | both => nofun

/-- The upper value is left, unless it and what is left are mappings. -/
theorem Overlaid.eq_upper (h : Overlaid depth a (some u) c)
    (hnot : ∀ x ∈ c, x.isMapping = false ∨ u.isMapping = false) : c = some u := by
  cases h with
  | upper => rfl
  | both hv hus h =>
    rcases hnot _ rfl with hv | hu
    · cases hv
    · rw [isMapping, hus] at hu
      cases hu

/-- Two mappings are laid over each other. -/
theorem Overlaid.exists_of_entries? {ls us : Table Scalar Value}
    (h : Overlaid depth (some v) (some u) c) (hls : v.entries? = some ls)
    (hus : u.entries? = some us) :
    ∃ depth' es, c = some (mapping es) ∧ overlayWithin depth' ls us = .ok es := by
  cases h with
  | upper hnot =>
    rcases hnot v rfl with hv | hu
    · rw [isMapping, hls] at hv
      cases hv
    · rw [isMapping, hus] at hu
      cases hu
  | both hls' hus' h =>
    obtain rfl := Option.some.inj (hls.symm.trans hls')
    obtain rfl := Option.some.inj (hus.symm.trans hus')
    exact ⟨_, _, rfl, h⟩

/-! ### Paths of keys -/

theorem at?_append (v : Value) (front rest : List String) :
    v.at? (front ++ rest) = (v.at? front).bind (·.at? rest) := by
  induction front generalizing v with
  | nil => rfl
  | cons key front ih =>
    rw [List.cons_append, at?, at?, Option.bind_assoc]
    exact Option.bind_congr fun w _ => ih w

theorem IsTree.of_at? (h : v.IsTree) (hpath : v.at? path = some w) : w.IsTree := by
  induction path generalizing v with
  | nil => exact Option.some.inj hpath ▸ h
  | cons key path ih =>
    obtain ⟨x, hx, hpath⟩ := Option.bind_eq_some_iff.mp hpath
    exact ih (h.of_mem_parts (mem_parts_of_get? hx)) hpath

/-- **A path.** Where the upper value has something at the end of a path, it is laid over what the
lower value has there. -/
theorem Overlaid.exists_at? (h : Overlaid depth a (some u) c) (hpath : u.at? path = some v) :
    ∃ depth', Overlaid depth' (a.bind (·.at? path)) (some v) (c.bind (·.at? path)) := by
  induction path generalizing depth a u c with
  | nil =>
    obtain rfl := Option.some.inj hpath
    exact ⟨depth, by simpa [at?] using h⟩
  | cons key path ih =>
    obtain ⟨x, hx, hpath⟩ := Option.bind_eq_some_iff.mp hpath
    obtain ⟨depth', hkey⟩ := h.exists_get? (isMapping_of_get? hx) key
    rw [hx] at hkey
    have hrest := ih hkey hpath
    rwa [Option.bind_assoc, Option.bind_assoc] at hrest

/-! ### Keys -/

theorem lookup_eq_none_iff {k : Scalar} : es.lookup k = none ↔ k ∉ es.keys := by
  simp only [List.lookup_eq_none_iff, bne_iff_ne, Table.keys, List.mem_map, not_exists, not_and]
  exact forall₂_congr fun _ _ => ne_comm

/-- The keys of a record that is laid over another mapping stand behind the keys of this one. -/
theorem keys_overlayWithin (hupper : (mapping upper).IsRecord)
    (h : overlayWithin depth lower upper = .ok es) :
    es.keys = lower.keys ++ upper.keys.filter (· ∉ lower.keys) := by
  obtain _ | depth := depth
  · cases h
  obtain ⟨kept, rfl, hkept⟩ := forall₂_of_overlayWithin h
  have hlower : kept.keys = lower.keys := by
    clear h
    induction hkept with
    | nil => rfl
    | cons he _ ih => exact congrArg₂ List.cons he.1 ih
  have hnew : (newEntries lower upper).keys = upper.keys.filter (· ∉ lower.keys) := by
    rw [newEntries, Table.keys, Table.keys.eq_1 upper, List.filter_map]
    refine congrArg _ (List.filter_congr fun e he => ?_)
    obtain ⟨key, hkey⟩ := (isRecord_mapping_iff.mp hupper).1 e he
    rw [Function.comp_apply, hkey, under?_text, Bool.eq_iff_iff, Option.isNone_iff_eq_none,
      lookup_eq_none_iff, decide_eq_true_iff, Table.keys]
  rw [Table.keys, List.map_append, ← Table.keys, ← Table.keys, hlower, hnew]

/-- A record that is laid over another one gives a record. -/
theorem isRecord_overlayWithin (hlower : (mapping lower).IsRecord)
    (hupper : (mapping upper).IsRecord) (h : overlayWithin depth lower upper = .ok es) :
    (mapping es).IsRecord := by
  have hkeys := keys_overlayWithin hupper h
  obtain ⟨hlowerTexts, hlowerKeys⟩ := isRecord_mapping_iff.mp hlower
  obtain ⟨hupperTexts, hupperKeys⟩ := isRecord_mapping_iff.mp hupper
  refine isRecord_mapping_iff.mpr ⟨fun e he => ?_, ?_⟩
  · have hmem : e.1 ∈ es.keys := List.mem_map_of_mem he
    rw [hkeys, List.mem_append] at hmem
    rcases hmem with hmem | hmem
    · obtain ⟨f, hf, hfe⟩ := List.mem_map.mp hmem
      exact hfe ▸ hlowerTexts f hf
    · obtain ⟨f, hf, hfe⟩ := List.mem_map.mp (List.mem_of_mem_filter hmem)
      exact hfe ▸ hupperTexts f hf
  · rw [hkeys]
    refine hlowerKeys.append (hupperKeys.filter _) fun k hk hk' => ?_
    exact absurd hk (by simpa using List.of_mem_filter hk')

/-- What trees give that are laid over each other is a tree. -/
theorem Overlaid.isTree (h : Overlaid depth a b c) (ha : ∀ x ∈ a, x.IsTree)
    (hb : ∀ x ∈ b, x.IsTree) : ∀ x ∈ c, x.IsTree := by
  induction depth generalizing a b c with
  | zero =>
    cases h with
    | lower => exact ha
    | upper => exact hb
    | both hv hu h => cases h
  | succ depth ih =>
    cases h with
    | lower => exact ha
    | upper => exact hb
    | @both v u ls us es hv hu h =>
      obtain ⟨rfl, hls, hlower⟩ := (ha v rfl).of_entries? hv
      obtain ⟨rfl, hus, hupper⟩ := (hb u rfl).of_entries? hu
      have hrecord := isRecord_overlayWithin hls hus h
      rintro _ ⟨⟩
      refine isTree_mapping hrecord fun e he => ?_
      obtain ⟨key, -, hkey⟩ := hrecord.exists_get?_of_mem he
      have hlaid := overlaid_of_overlayWithin h key
      refine ih hlaid (fun x hx => ?_) (fun x hx => ?_) e.2 hkey
      · exact hlower _ (mem_of_lookup hx)
      · exact hupper _ (mem_of_lookup hx)

/-! ### Merging again -/

/-- Where a record has been laid over something, it has no new keys. -/
theorem Overlaid.newEntries_eq_nil (h : Overlaid depth a (some (mapping upper)) (some (mapping es)))
    (hupper : (mapping upper).IsRecord) : newEntries es upper = [] := by
  refine List.filter_eq_nil_iff.mpr fun e he => ?_
  obtain ⟨key, hkey, hget⟩ := hupper.exists_get?_of_mem he
  obtain ⟨_, hlaid⟩ := h.exists_get? rfl key
  rw [hget, Option.bind_some] at hlaid
  rw [hkey, under?_text, Option.isNone_iff_eq_none]
  exact hlaid.ne_none

/-- What is laid over already changes nothing when it is laid over again. -/
theorem Overlaid.eq_of_again {depth' : Nat} (h : Overlaid depth a (some u) (some v)) (hu : u.IsTree)
    (hv : v.IsTree) (hagain : Overlaid depth' (some v) (some u) (some w)) : w = v := by
  induction depth' generalizing depth a u v w with
  | zero =>
    cases hagain with
    | upper hnot => exact (Option.some.inj (h.eq_upper hnot)).symm
    | both _ _ hagain => cases hagain
  | succ depth' ih =>
    cases hagain with
    | upper hnot => exact (Option.some.inj (h.eq_upper hnot)).symm
    | @both _ _ vs us ws hvs hus hagain =>
      obtain ⟨rfl, hrecord, hvalues⟩ := hv.of_entries? hvs
      obtain ⟨rfl, hupper, huppers⟩ := hu.of_entries? hus
      obtain ⟨kept, rfl, hkept⟩ := forall₂_of_overlayWithin hagain
      have hsame : List.Forall₂ Eq vs kept := by
        refine forall₂_of_mem hkept fun e he f hf => ?_
        obtain ⟨hkeys, hvalue⟩ := hf
        obtain ⟨key, hkey, hget⟩ := hrecord.exists_get?_of_mem he
        rw [hkey, under?_text] at hvalue
        have heq : f.2 = e.2 := by
          cases hlookup : us.lookup (.text key) with
          | none =>
            rw [hlookup] at hvalue
            exact Option.some.inj hvalue.eq_of_none
          | some x =>
            -- The first time, this value of the upper mapping was laid over what was there.
            obtain ⟨_, hlaid⟩ := h.exists_get? rfl key
            rw [get?_mapping us, hlookup, Option.bind_some, hget] at hlaid
            rw [hlookup] at hvalue
            exact ih hlaid (huppers _ (mem_of_lookup hlookup)) (hvalues e he) hvalue
        exact Prod.ext hkeys.symm heq.symm
      rw [List.forall₂_eq_eq_eq] at hsame
      rw [← hsame, h.newEntries_eq_nil hupper, List.append_nil]

/-! ### Merged objects -/

variable {base merged : Value}

theorem overlaid_self_of_merge (hbase : base.isMapping = true) (h : base.merge w = .ok v) :
    ∃ depth, Overlaid depth (some base) (some w) (some v) := by
  obtain ⟨ls, us, es, depth, hls, hus, rfl, hes⟩ := exists_overlayWithin_of_merge hbase h
  exact ⟨depth, .both hls hus hes⟩

/-- What is to be found in an object into which another one is merged. -/
structure IsMergeOf (base upper merged : Value) : Prop where
  /-- Where the upper object has a value that is no object, the merged one has this value. -/
  value : ∀ path v, upper.at? path = some v → v.isMapping = false → merged.at? path = some v
  /-- Below such a value the merged object has nothing. -/
  below : ∀ front rest v, rest ≠ [] → upper.at? front = some v → v.isMapping = false →
    merged.at? (front ++ rest) = none
  /-- Where the upper object has only objects until a key is missing, the merged one has at every
  path through this key what the lower one has there. -/
  missing : ∀ front key rest v, upper.at? front = some v → v.isMapping = true →
    v.get? key = none → merged.at? (front ++ key :: rest) = base.at? (front ++ key :: rest)
  /-- Where both have objects, the merged object has one with the keys of the lower one and, behind
  them, the keys of the upper one that are new. -/
  keys : ∀ path v u (ls us : Table Scalar Value), base.at? path = some v →
    upper.at? path = some u → v.entries? = some ls → u.entries? = some us →
    ∃ es : Table Scalar Value, merged.at? path = some (mapping es) ∧
      es.keys = ls.keys ++ us.keys.filter (· ∉ ls.keys)

/-- What an object is merged from says what is found in it. -/
theorem Overlaid.isMergeOf {upper : Value} (hupper : upper.IsTree)
    (h : Overlaid depth (some base) (some upper) (some merged)) :
    IsMergeOf base upper merged where
  value path v hv hm := by
    obtain ⟨_, hlaid⟩ := h.exists_at? hv
    exact hlaid.eq_upper fun _ _ => .inr hm
  below front rest v hrest hv hm := by
    obtain ⟨_, hlaid⟩ := h.exists_at? hv
    have hfront : merged.at? front = some v := hlaid.eq_upper fun _ _ => .inr hm
    obtain ⟨key, rest, rfl⟩ := List.exists_cons_of_ne_nil hrest
    rw [at?_append, hfront, Option.bind_some, at?, get?_of_isMapping_eq_false hm]
    rfl
  missing front key rest v hv hm hkey := by
    obtain ⟨_, hlaid⟩ := h.exists_at? hv
    obtain ⟨_, hlaid⟩ := hlaid.exists_get? hm key
    rw [hkey] at hlaid
    have hsame : (merged.at? front).bind (·.get? key) = (base.at? front).bind (·.get? key) :=
      hlaid.eq_of_none
    have hpath (x : Value) : x.at? (front ++ key :: rest) =
        ((x.at? front).bind (·.get? key)).bind (·.at? rest) := by
      rw [at?_append, Option.bind_assoc]
      rfl
    rw [hpath, hpath, hsame]
  keys path v u ls us hv hu hls hus := by
    obtain ⟨_, hlaid⟩ := h.exists_at? hu
    rw [Option.bind_some, hv] at hlaid
    obtain ⟨_, es, hes, hlaid⟩ := hlaid.exists_of_entries? hls hus
    obtain ⟨-, hrecord, -⟩ := (hupper.of_at? hu).of_entries? hus
    exact ⟨es, hes, keys_overlayWithin hrecord hlaid⟩

/-- **Merging of objects.** An object can be merged into another one, and gives an object. Where the
upper object has a value that is no object, the merged one has this value and nothing below it;
where the upper one has only objects until a key is missing, the merged one has what the lower one
has there. The keys of the lower object come first wherever both have one. Merging the upper object
into the merged one changes nothing. -/
theorem isMergeOf_of_isObject {upper : Value} (hbase : base.IsObject) (hupper : upper.IsObject) :
    ∃ merged, base.merge upper = .ok merged ∧ merged.IsObject ∧ IsMergeOf base upper merged ∧
      merged.merge upper = .ok merged := by
  obtain ⟨merged, hmerged⟩ :=
    exists_merge_of_plain hbase.plain hbase.isMapping hupper.isMapping
  obtain ⟨_, hlaid⟩ := overlaid_self_of_merge hbase.isMapping hmerged
  have hmapping := isMapping_of_merge hbase.isMapping hmerged
  have htree : merged.IsTree := hlaid.isTree (fun _ hx => Option.some.inj hx ▸ hbase.toIsTree)
    (fun _ hx => Option.some.inj hx ▸ hupper.toIsTree) merged rfl
  obtain ⟨again, hagain⟩ := exists_merge_of_plain htree.plain hmapping hupper.isMapping
  obtain ⟨_, hlaidAgain⟩ := overlaid_self_of_merge hmapping hagain
  rw [hlaid.eq_of_again hupper.toIsTree htree hlaidAgain] at hagain
  exact ⟨merged, hmerged, ⟨htree, hmapping⟩, hlaid.isMergeOf hupper.toIsTree, hagain⟩

/-- Settings with a group and a name. -/
def groupedSettings : Value :=
  .ofFields [("fetch", .ofFields [("timeout", .int 30), ("accept", .text "text/yaml")]),
    ("name", .text "pets")]

/-- Settings that change the group, have a group in the place of the name, and have a new key. -/
def changedSettings : Value :=
  .ofFields [("origin", .null), ("fetch", .ofFields [("timeout", .int 2)]),
    ("name", .ofFields [("short", .text "p")])]

theorem isMergeOf_of_isObject_groupedSettings :
    groupedSettings.IsObject ∧ changedSettings.IsObject ∧
      ∃ merged, groupedSettings.merge changedSettings = .ok merged ∧ merged.IsObject ∧
        IsMergeOf groupedSettings changedSettings merged ∧
        merged.merge changedSettings = .ok merged := by
  have hbase : groupedSettings.IsObject := by
    have hfetch : (ofFields [("timeout", .int 30), ("accept", .text "text/yaml")]).IsTree :=
      isTree_ofFields (by decide) (by simp)
    exact ⟨isTree_ofFields (by decide) (by simp [hfetch]), rfl⟩
  have hupper : changedSettings.IsObject := by
    have hfetch : (ofFields [("timeout", .int 2)]).IsTree :=
      isTree_ofFields (by decide) (by simp)
    have hname : (ofFields [("short", .text "p")]).IsTree :=
      isTree_ofFields (by decide) (by simp)
    exact ⟨isTree_ofFields (by decide) (by simp [hfetch, hname]), rfl⟩
  exact ⟨hbase, hupper, isMergeOf_of_isObject hbase hupper⟩

example : groupedSettings.merge changedSettings =
    .ok (.ofFields [("fetch", .ofFields [("timeout", .int 2), ("accept", .text "text/yaml")]),
      ("name", .ofFields [("short", .text "p")]), ("origin", .null)]) := by decide

end ClientGen.Value
