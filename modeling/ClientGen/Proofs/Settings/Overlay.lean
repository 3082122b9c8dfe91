import ClientGen.Proofs.Value.Parts
import ClientGen.Settings.Merge

/-!
# Look-up in mappings laid over each other

A path of keys leads into mappings inside each other. Where two mappings are laid over each other,
the upper one decides what a path leads to, if it has anything there; otherwise the lower one does.
This holds as long as neither has anything but mappings on the way and they do not both have a
mapping at its end. No depth is exceeded if one of the two has a last level.

## Main definitions

* `ClientGen.Value.at?` : the value at a path of keys.
* `ClientGen.Value.Groups` : nothing but mappings stands on the way of a path.
* `ClientGen.Value.Overlaid` : what two mappings laid over each other have under a key.

## Main results

* `ClientGen.Value.overlaid_of_overlayWithin` : look-up of a key.
* `ClientGen.Value.at?_overlayWithin` : look-up of a path.
* `ClientGen.Value.exists_overlayWithin_eq_ok` : mappings of bounded depth can be laid over others.
* `ClientGen.Value.exists_merge_eq_ok`, `ClientGen.Value.at?_merge`,
  `ClientGen.Value.groups_merge` : the same for mappings that are merged.
-/

namespace ClientGen.Value

variable {depth : Nat} {lower upper es : Table Scalar Value} {v w : Value}

/-! ### Look-up of a key -/

theorem namesAcross_text_iff {s : String} {k : Scalar} : namesAcross (.text s) k ↔ k = .text s := by
  cases k with
  | nan source => cases source <;> simp [namesAcross, Scalar.sameKey]
  | text t => simp [namesAcross, Scalar.sameKey]
  | _ => simp [namesAcross, Scalar.sameKey]

theorem namesAcross_text (s : String) (k : Scalar) :
    namesAcross (.text s) k = (Scalar.text s == k) := by
  rw [Bool.eq_iff_iff, namesAcross_text_iff, beq_iff_eq, eq_comm]

theorem under?_text (es : Table Scalar Value) (s : String) :
    under? es (.text s) = es.lookup (.text s) := by
  induction es with
  | nil => rfl
  | cons e es ih =>
    obtain ⟨k, v⟩ := e
    rw [List.lookup_cons, under?, List.find?_cons, namesAcross_text]
    cases Scalar.text s == k with
    | true => rfl
    | false => exact ih

theorem lookup_newEntries (lower upper : Table Scalar Value) (s : String) :
    (newEntries lower upper).lookup (.text s) =
      if (lower.lookup (.text s)).isNone then upper.lookup (.text s) else none := by
  rw [← under?_text lower]
  induction upper with
  | nil => simp [newEntries]
  | cons e upper ih =>
    obtain ⟨k, v⟩ := e
    rw [newEntries, List.filter_cons]
    by_cases hk : Scalar.text s = k
    · subst hk
      split
      · simp
      · rename_i hold
        rw [← newEntries, ih]
        simp [hold]
    · have hkey : (Scalar.text s == k) = false := by simpa using hk
      rw [List.lookup_cons, hkey, ← newEntries, ← ih]
      split
      · rw [List.lookup_cons, hkey]
      · rfl

/-- What is left under a key of two mappings, laid over each other down to a depth. -/
inductive Overlaid (depth : Nat) : Option Value → Option Value → Option Value → Prop
  /-- The upper mapping has nothing there. -/
  | lower (v : Option Value) : Overlaid depth v none v
  /-- The upper mapping has a value there, and they do not both have a mapping. -/
  | upper {v : Option Value} {u : Value} (h : ∀ x ∈ v, x.isMapping = false ∨ u.isMapping = false) :
      Overlaid depth v (some u) (some u)
  /-- Both have a mapping there. -/
  | both {v u : Value} {ls us es : Table Scalar Value} (hv : v.entries? = some ls)
      (hu : u.entries? = some us) (h : overlayWithin depth ls us = .ok es) :
      Overlaid depth (some v) (some u) (some (mapping es))

/-- The entries of the lower mapping stay in their places. -/
theorem forall₂_of_overlayWithin (h : overlayWithin (depth + 1) lower upper = .ok es) :
    ∃ kept, es = kept ++ newEntries lower upper ∧ List.Forall₂ (fun e f =>
      f.1 = e.1 ∧ Overlaid depth (some e.2) (under? upper e.1) (some f.2)) lower kept := by
  obtain ⟨kept, hkept, h⟩ := Except.bind_eq_ok.mp h
  obtain rfl := Except.pure_eq_ok.mp h
  refine ⟨kept, rfl, (mapM_eq_ok_iff.mp hkept).imp fun e f hf => ?_⟩
  cases hupper : under? upper e.1 with
  | none =>
    simp only [hupper] at hf
    obtain rfl := Except.ok.inj hf
    exact ⟨rfl, .lower _⟩
  | some u =>
    simp only [hupper] at hf
    split at hf
    · rename_i ls us hls hus
      obtain ⟨ms, hms, rfl⟩ := Except.map_eq_ok.mp hf
      exact ⟨rfl, .both hls hus hms⟩
    · rename_i hnot
      obtain rfl := Except.ok.inj hf
      refine ⟨rfl, .upper ?_⟩
      rintro _ ⟨⟩
      cases hls : e.2.entries? with
      | none => exact .inl (by rw [isMapping, hls]; rfl)
      | some ls =>
        cases hus : u.entries? with
        | none => exact .inr (by rw [isMapping, hus]; rfl)
        | some us => exact absurd hus (hnot ls us hls)

/-- **Look-up of a key** in two mappings laid over each other. -/
theorem overlaid_of_overlayWithin (h : overlayWithin (depth + 1) lower upper = .ok es)
    (s : String) :
    Overlaid depth (lower.lookup (.text s)) (upper.lookup (.text s)) (es.lookup (.text s)) := by
  obtain ⟨kept, rfl, hkept⟩ := forall₂_of_overlayWithin h
  have hrel : Option.Rel (fun v w => Overlaid depth (some v) (upper.lookup (.text s)) (some w))
      (lower.lookup (.text s)) (kept.lookup (.text s)) := by
    clear h
    induction hkept with
    | nil => exact .none
    | @cons e f lower kept hef _ ih =>
      rw [List.lookup_cons, List.lookup_cons, hef.1]
      cases hk : Scalar.text s == e.1 with
      | true =>
        have hkept := hef.2
        rw [← eq_of_beq hk, under?_text] at hkept
        exact .some hkept
      | false => exact ih
  rw [List.lookup_append, lookup_newEntries]
  generalize lower.lookup (.text s) = v, kept.lookup (.text s) = w at hrel
  cases hrel with
  | none =>
    cases upper.lookup (.text s) with
    | none => exact .lower none
    | some u => exact .upper (by simp)
  | some hvw => exact hvw

/-! ### Look-up of a path -/

/-- The value at a path of keys. -/
def at? (v : Value) : List String → Option Value
  | [] => some v
  | key :: path => (v.get? key).bind fun w => w.at? path

/-- Nothing but mappings stands in front of the last key of a path. -/
def Groups (v : Value) : List String → Prop
  | [] | [_] => True
  | key :: path => ∀ w ∈ v.get? key, w.isMapping = true ∧ w.Groups path

@[simp]
theorem at?_singleton (v : Value) (key : String) : v.at? [key] = v.get? key := by
  rw [at?]
  cases v.get? key <;> rfl

theorem get?_mapping (es : Table Scalar Value) (key : String) :
    (mapping es).get? key = es.lookup (.text key) := rfl

theorem get?_of_entries? (hv : v.entries? = some es) (key : String) :
    v.get? key = (mapping es).get? key := by
  rw [get?, hv]
  rfl

theorem at?_of_entries? (hv : v.entries? = some es) {path : List String} (hpath : path ≠ []) :
    v.at? path = (mapping es).at? path := by
  obtain ⟨key, path, rfl⟩ := List.exists_cons_of_ne_nil hpath
  rw [at?, get?_of_entries? hv]
  rfl

theorem groups_of_entries? (hv : v.entries? = some es) {path : List String} :
    v.Groups path ↔ (mapping es).Groups path := by
  match path with
  | [] | [_] => exact Iff.rfl
  | key :: next :: path => simp only [Groups, get?_of_entries? hv]

/-- Where both mappings have only mappings on the way, so has one laid over the other. -/
theorem groups_overlayWithin (h : overlayWithin depth lower upper = .ok es) {path : List String}
    (hlower : (mapping lower).Groups path) (hupper : (mapping upper).Groups path) :
    (mapping es).Groups path := by
  induction path generalizing depth lower upper es with
  | nil => trivial
  | cons key path ih =>
    obtain _ | depth := depth
    · cases h
    cases path with
    | nil => trivial
    | cons next path =>
      have hkey := overlaid_of_overlayWithin h key
      simp only [← get?_mapping] at hkey
      simp only [Groups] at hlower hupper ⊢
      generalize (mapping lower).get? key = v, (mapping upper).get? key = u,
        (mapping es).get? key = w at hkey hlower hupper
      cases hkey with
      | lower v => exact hlower
      | upper _ => exact hupper
      | @both v u ls us es hv hu h =>
        rintro _ ⟨⟩
        exact ⟨rfl, ih h ((groups_of_entries? hv).mp (hlower v rfl).2)
          ((groups_of_entries? hu).mp (hupper u rfl).2)⟩

/-- **Look-up of a path.** The upper mapping decides, if it has anything at the path. -/
theorem at?_overlayWithin (h : overlayWithin depth lower upper = .ok es) {path : List String}
    (hpath : path ≠ []) (hlower : (mapping lower).Groups path)
    (hupper : (mapping upper).Groups path)
    (hend : ∀ v ∈ (mapping lower).at? path, ∀ u ∈ (mapping upper).at? path,
      v.isMapping = false ∨ u.isMapping = false) :
    (mapping es).at? path = ((mapping upper).at? path).or ((mapping lower).at? path) := by
  induction path generalizing depth lower upper es with
  | nil => exact absurd rfl hpath
  | cons key path ih =>
    obtain _ | depth := depth
    · cases h
    have hkey := overlaid_of_overlayWithin h key
    simp only [← get?_mapping] at hkey
    cases path with
    | nil =>
      simp only [at?_singleton] at hend ⊢
      generalize (mapping lower).get? key = v, (mapping upper).get? key = u,
        (mapping es).get? key = w at hkey hend
      cases hkey with
      | lower v => rfl
      | upper h => rfl
      | both hv hu h =>
        rcases hend _ rfl _ rfl with hmapping | hmapping
        · rw [isMapping, hv] at hmapping
          cases hmapping
        · rw [isMapping, hu] at hmapping
          cases hmapping
    | cons next path =>
      simp only [Groups, at?] at hlower hupper hend ⊢
      generalize (mapping lower).get? key = v, (mapping upper).get? key = u,
        (mapping es).get? key = w at hkey hlower hupper hend
      cases hkey with
      | lower v => rfl
      | @upper v u h =>
        cases v with
        | none => simp
        | some v =>
          rcases h v rfl with hmapping | hmapping
          · rw [(hlower v rfl).1] at hmapping
            cases hmapping
          · rw [(hupper u rfl).1] at hmapping
            cases hmapping
      | @both v u ls us es hv hu h =>
        have hinner (x : Value) {xs : Table Scalar Value} (hx : x.entries? = some xs) :
            ((some x).bind fun w => (w.get? next).bind fun w => w.at? path) =
              (mapping xs).at? (next :: path) := at?_of_entries? hx (List.cons_ne_nil _ _)
        rw [hinner v hv, hinner u hu] at hend ⊢
        exact ih h (List.cons_ne_nil _ _) ((groups_of_entries? hv).mp (hlower v rfl).2)
          ((groups_of_entries? hu).mp (hupper u rfl).2) hend

/-! ### Depth -/

/-- The value has a last level, and at most so many levels. -/
def IsShallow (depth : Nat) (v : Value) : Prop := v.Plain ∧ v.nesting ≤ depth

theorem IsShallow.mono {depth' : Nat} (h : IsShallow depth v) (hle : depth ≤ depth') :
    IsShallow depth' v := ⟨h.1, Nat.le_trans h.2 hle⟩

theorem IsShallow.of_entries? (h : IsShallow depth v) (hv : v.entries? = some es) :
    IsShallow depth (mapping es) := by
  have hopened := entries?_eq_some.mp hv
  rw [opened_of_plain h.1] at hopened
  rwa [← hopened]

theorem IsShallow.of_mem {e : Scalar × Value} {ls : Table Scalar Value}
    (h : IsShallow (depth + 1) (mapping es)) (he : e ∈ es) (hls : e.2.entries? = some ls) :
    IsShallow depth (mapping ls) := by
  obtain ⟨hplain, hdepth⟩ := h
  refine IsShallow.of_entries? ⟨plain_mapping.mp hplain e he, ?_⟩ hls
  have hle := nesting_le_nestingItems (List.mem_map_of_mem (f := fun e => e.2) he)
  rw [nesting, nestingEntries_eq] at hdepth
  omega

/-- Mappings of bounded depth can be laid over others, and others over them. -/
theorem exists_overlayWithin_eq_ok
    (h : IsShallow depth (mapping lower) ∨ IsShallow depth (mapping upper)) :
    ∃ es, overlayWithin depth lower upper = .ok es := by
  induction depth generalizing lower upper with
  | zero => rcases h with ⟨-, h⟩ | ⟨-, h⟩ <;> simp [nesting] at h
  | succ depth ih =>
    simp only [overlayWithin, Except.bind_eq_ok, Except.pure_eq_ok]
    refine exists_comm.mp ((exists_mapM_eq_ok fun e he => ?_).imp fun kept hkept => ⟨_, hkept, rfl⟩)
    cases hupper : under? upper e.1 with
    | none => exact ⟨_, rfl⟩
    | some u =>
      obtain ⟨x, hx, rfl⟩ := Option.map_eq_some_iff.mp hupper
      dsimp only
      split
      · rename_i ls us hls hus
        obtain ⟨es, hes⟩ :=
          ih (h.imp (·.of_mem he hls) (·.of_mem (List.mem_of_find?_eq_some hx) hus))
        exact ⟨_, Except.map_eq_ok.mpr ⟨es, hes, rfl⟩⟩
      · exact ⟨_, rfl⟩

/-! ### Merging -/

section Merging

variable {base : Value}

theorem exists_merge_of_entries? {ls us : Table Scalar Value} (hls : base.entries? = some ls)
    (hus : w.entries? = some us)
    (h : IsShallow (max (mapping ls).nesting commonDepth) (mapping ls) ∨
      IsShallow (max (mapping ls).nesting commonDepth) (mapping us)) :
    ∃ v, base.merge w = .ok v := by
  obtain ⟨es, hes⟩ := exists_overlayWithin_eq_ok h
  refine ⟨mapping es, ?_⟩
  simp only [merge, asEntries, hls, hus, Except.ok_bind, overlay, hes]
  rfl

/-- Mappings can be merged if one of them has few levels. -/
theorem exists_merge_eq_ok (hbase : base.isMapping = true) (hupper : w.isMapping = true)
    (h : IsShallow commonDepth base ∨ IsShallow commonDepth w) : ∃ v, base.merge w = .ok v := by
  obtain ⟨ls, hls⟩ := Option.isSome_iff_exists.mp hbase
  obtain ⟨us, hus⟩ := Option.isSome_iff_exists.mp hupper
  refine exists_merge_of_entries? hls hus ?_
  exact h.imp (fun h => (h.of_entries? hls).mono (Nat.le_max_right _ _))
    fun h => (h.of_entries? hus).mono (Nat.le_max_right _ _)

/-- Every mapping can be merged into one that has a last level. -/
theorem exists_merge_of_plain (hplain : base.Plain) (hbase : base.isMapping = true)
    (hupper : w.isMapping = true) : ∃ v, base.merge w = .ok v := by
  obtain ⟨ls, hls⟩ := Option.isSome_iff_exists.mp hbase
  obtain ⟨us, hus⟩ := Option.isSome_iff_exists.mp hupper
  have hshallow : IsShallow base.nesting base := ⟨hplain, Nat.le_refl _⟩
  obtain rfl : base = mapping ls := (opened_of_plain hplain).symm.trans (entries?_eq_some.mp hls)
  exact exists_merge_of_entries? hls hus (.inl (hshallow.mono (Nat.le_max_left _ _)))

/-- What is merged is laid over the other mapping. -/
theorem exists_overlayWithin_of_merge (hbase : base.isMapping = true) (h : base.merge w = .ok v) :
    ∃ ls us es depth, base.entries? = some ls ∧ w.entries? = some us ∧ v = mapping es ∧
      overlayWithin depth ls us = .ok es := by
  obtain ⟨ls, hls⟩ := Option.isSome_iff_exists.mp hbase
  simp only [merge, asEntries, hls, Except.ok_bind] at h
  split at h
  · rename_i us hus
    obtain ⟨es, hes, h⟩ := Except.bind_eq_ok.mp h
    exact ⟨ls, us, es, _, hls, hus, (Except.pure_eq_ok.mp h).symm, hes⟩
  · cases h

theorem isMapping_of_merge (hbase : base.isMapping = true) (h : base.merge w = .ok v) :
    v.isMapping = true := by
  obtain ⟨_, _, es, _, -, -, rfl, -⟩ := exists_overlayWithin_of_merge hbase h
  rfl

/-- Where both mappings have only mappings on the way, so has one merged into the other. -/
theorem groups_merge (hbase : base.isMapping = true) (h : base.merge w = .ok v) {path : List String}
    (hlower : base.Groups path) (hupper : w.Groups path) : v.Groups path := by
  obtain ⟨ls, us, es, _, hls, hus, rfl, hes⟩ := exists_overlayWithin_of_merge hbase h
  exact groups_overlayWithin hes ((groups_of_entries? hls).mp hlower)
    ((groups_of_entries? hus).mp hupper)

/-- **Look-up of a path** in a mapping into which another one is merged. -/
theorem at?_merge (hbase : base.isMapping = true) (h : base.merge w = .ok v) {path : List String}
    (hpath : path ≠ []) (hlower : base.Groups path) (hupper : w.Groups path)
    (hend : ∀ x ∈ base.at? path, ∀ u ∈ w.at? path, x.isMapping = false ∨ u.isMapping = false) :
    v.at? path = (w.at? path).or (base.at? path) := by
  obtain ⟨ls, us, es, _, hls, hus, rfl, hes⟩ := exists_overlayWithin_of_merge hbase h
  rw [at?_of_entries? hls hpath, at?_of_entries? hus hpath] at hend ⊢
  exact at?_overlayWithin hes hpath ((groups_of_entries? hls).mp hlower)
    ((groups_of_entries? hus).mp hupper) hend

theorem overlaid_of_merge (hbase : base.isMapping = true) (h : base.merge w = .ok v)
    (key : String) : ∃ depth, Overlaid depth (base.get? key) (w.get? key) (v.get? key) := by
  obtain ⟨ls, us, es, depth, hls, hus, rfl, hes⟩ := exists_overlayWithin_of_merge hbase h
  obtain _ | depth := depth
  · cases hes
  rw [get?_of_entries? hls, get?_of_entries? hus]
  exact ⟨depth, overlaid_of_overlayWithin hes key⟩

/-- What is missing in the upper mapping stays as it is. -/
theorem get?_merge_of_eq_none (hbase : base.isMapping = true) (h : base.merge w = .ok v)
    {key : String} (hw : w.get? key = none) : v.get? key = base.get? key := by
  obtain ⟨depth, hkey⟩ := overlaid_of_merge hbase h key
  rw [hw] at hkey
  generalize base.get? key = x, v.get? key = y at hkey
  cases hkey with
  | lower => rfl

/-- A group stays a group, unless the upper mapping has something else in its place. -/
theorem exists_get?_merge (hbase : base.isMapping = true) (h : base.merge w = .ok v) {key : String}
    {x : Value} (hx : base.get? key = some x) (hgroup : x.isMapping = true) :
    ∃ y, v.get? key = some y ∧ (y.isMapping = true ↔ ∀ u ∈ w.get? key, u.isMapping = true) := by
  obtain ⟨depth, hkey⟩ := overlaid_of_merge hbase h key
  rw [hx] at hkey
  generalize w.get? key = u, v.get? key = y at hkey
  cases hkey with
  | lower => exact ⟨x, rfl, by simp [hgroup]⟩
  | upper h => exact ⟨_, rfl, by simp⟩
  | both hv hu h =>
    refine ⟨_, rfl, iff_of_true rfl ?_⟩
    rintro _ ⟨⟩
    rw [isMapping, hu]
    rfl

end Merging

end ClientGen.Value
