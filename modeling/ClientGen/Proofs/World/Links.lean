import Mathlib.Data.List.Infix
import ClientGen.World.Files

/-!
# Links

A link leads to where its path leads. Names lead from a place to at most one other place, and only
what is a link decides to which. A walk that succeeds and a path that is resolved both end there.
The difference is that a walk needs a directory at every step, and a path is resolved over what is
missing. A place with no link on the way to it leads to itself.

## Main definitions

* `ClientGen.FileSystem.Reaches` : names lead from a place to another one.
* `ClientGen.FileSystem.IsSettled` : no link stands on the way to a place.
* `ClientGen.FileSystem.Ends` : how a walk ends.
* `ClientGen.IsProper` : places that a path can name.

## Main results

* `ClientGen.FileSystem.Reaches.unique` : names lead to one place.
* `ClientGen.FileSystem.ends_of_locate` : where a walk ends.
* `ClientGen.FileSystem.reaches_of_resolve`, `ClientGen.FileSystem.isSettled_of_resolve` : what a
  path resolves to.
* `ClientGen.FileSystem.resolve_congr` : what resolving depends on.
-/

namespace ClientGen

/-! ### Places -/

/-- The place is one that a path can name: no name in it has the zero character, and none leads
up. -/
def IsProper (place : Place) : Prop := ∀ n ∈ place, n ≠ ".." ∧ Char.ofNat 0 ∉ n.toList

instance (place : Place) : Decidable (IsProper place) :=
  inferInstanceAs (Decidable (∀ n ∈ place, n ≠ ".." ∧ Char.ofNat 0 ∉ n.toList))

theorem IsProper.of_subset {place other : Place} (h : IsProper place) (hsub : other ⊆ place) :
    IsProper other := fun n hn => h n (hsub hn)

theorem IsProper.append {place other : Place} (h : IsProper place) (h' : IsProper other) :
    IsProper (place ++ other) := fun n hn => (List.mem_append.mp hn).elim (h n) (h' n)

theorem Path.isProper_start {here : Place} {p : Path} (h : IsProper here) :
    IsProper (p.start here) := by
  unfold Path.start
  split
  · exact h
  · exact nofun

theorem Path.hasZero_eq_false_iff {p : Path} :
    p.hasZero = false ↔ ∀ n ∈ p.names, Char.ofNat 0 ∉ n.toList := by
  simp [hasZero]

theorem Path.hasZero_ofPlace {place : Place} (h : IsProper place) :
    (ofPlace place).hasZero = false :=
  hasZero_eq_false_iff.mpr fun n hn => (h n hn).2

namespace FileSystem

variable {s t : FileSystem} {place found : Place} {ns : List String}

theorem link?_eq_none_of_find? (h : ∀ p, s.find? place ≠ some (.link p)) :
    s.link? place = none := by
  unfold link?
  split
  · rename_i p hp
    exact absurd hp (h p)
  · rfl

theorem link?_eq_some {p : Path} : s.link? place = some p ↔ s.find? place = some (.link p) := by
  unfold link?
  split
  · rename_i q hq
    rw [hq, Option.some_inj, Option.some_inj, Entry.link.injEq]
  · rename_i hother
    exact ⟨nofun, fun h => absurd h (hother p)⟩

theorem link?_congr (h : t.find? place = s.find? place) : t.link? place = s.link? place := by
  unfold link?
  rw [h]

/-! ### Where names lead -/

/-- Names lead from a place to another one: two dots lead up, a link leads to where its path does,
and every other name leads down. -/
inductive Reaches (s : FileSystem) : Place → List String → Place → Prop
  | refl (place : Place) : Reaches s place [] place
  | up {place found : Place} {ns : List String} (h : Reaches s place.dropLast ns found) :
      Reaches s place (".." :: ns) found
  | down {place found : Place} {n : String} {ns : List String} (hn : n ≠ "..")
      (hlink : s.link? (place ++ [n]) = none) (h : Reaches s (place ++ [n]) ns found) :
      Reaches s place (n :: ns) found
  | link {place between found : Place} {n : String} {ns : List String} {target : Path}
      (hn : n ≠ "..") (hlink : s.link? (place ++ [n]) = some target)
      (htarget : Reaches s (target.start place) target.names between)
      (h : Reaches s between ns found) : Reaches s place (n :: ns) found

/-- Only what is a link decides where names lead. -/
theorem Reaches.congr (hlinks : ∀ place, t.link? place = s.link? place)
    (h : s.Reaches place ns found) : t.Reaches place ns found := by
  induction h with
  | refl place => exact .refl place
  | up _ ih => exact .up ih
  | down hn hlink _ ih => exact .down hn ((hlinks _).trans hlink) ih
  | link hn hlink _ _ ihtarget ih => exact .link hn ((hlinks _).trans hlink) ihtarget ih

/-- Names lead to one place. -/
theorem Reaches.unique {other : Place} (h : s.Reaches place ns found)
    (h' : s.Reaches place ns other) : found = other := by
  induction h generalizing other with
  | refl => cases h'; rfl
  | up _ ih =>
    cases h' with
    | up h' => exact ih h'
    | down hn => exact absurd rfl hn
    | link hn => exact absurd rfl hn
  | down hn hlink _ ih =>
    cases h' with
    | up => exact absurd rfl hn
    | down _ _ h' => exact ih h'
    | link _ hlink' => cases hlink.symm.trans hlink'
  | link hn hlink _ _ ihtarget ih =>
    cases h' with
    | up => exact absurd rfl hn
    | down _ hlink' => cases hlink.symm.trans hlink'
    | link _ hlink' htarget' h' =>
      obtain rfl := Option.some.inj (hlink.symm.trans hlink')
      obtain rfl := ihtarget htarget'
      exact ih h'

/-- The first names lead to a place from which the others lead on. -/
theorem Reaches.exists_of_append {ms : List String} (h : s.Reaches place (ms ++ ns) found) :
    ∃ between, s.Reaches place ms between ∧ s.Reaches between ns found := by
  induction ms generalizing place with
  | nil => exact ⟨place, .refl place, h⟩
  | cons m ms ih =>
    cases h with
    | up h =>
      obtain ⟨between, hms, hns⟩ := ih h
      exact ⟨between, .up hms, hns⟩
    | down hn hlink h =>
      obtain ⟨between, hms, hns⟩ := ih h
      exact ⟨between, .down hn hlink hms, hns⟩
    | link hn hlink htarget h =>
      obtain ⟨between, hms, hns⟩ := ih h
      exact ⟨between, .link hn hlink htarget hms, hns⟩

/-! ### Places without links on the way -/

/-- No link stands at the place, nor on the way to it. -/
def IsSettled (s : FileSystem) (place : Place) : Prop := ∀ q, q <+: place → s.link? q = none

instance (s : FileSystem) (place : Place) : Decidable (s.IsSettled place) :=
  decidable_of_iff (∀ q ∈ place.inits, s.link? q = none) (by simp [IsSettled])

theorem isSettled_nil (s : FileSystem) : s.IsSettled [] := by
  intro q hq
  rw [List.prefix_nil.mp hq]
  rfl

theorem IsSettled.of_prefix {other : Place} (h : s.IsSettled place) (hway : other <+: place) :
    s.IsSettled other := fun q hq => h q (hq.trans hway)

theorem IsSettled.congr (hlinks : ∀ place, t.link? place = s.link? place) (h : s.IsSettled place) :
    t.IsSettled place := fun q hq => (hlinks q).trans (h q hq)

theorem IsSettled.concat {n : String} (h : s.IsSettled place)
    (hlink : s.link? (place ++ [n]) = none) : s.IsSettled (place ++ [n]) := by
  intro q hq
  rcases List.prefix_concat_iff.mp hq with rfl | hq
  · exact hlink
  · exact h q hq

theorem IsSettled.start {p : Path} (h : s.IsSettled place) : s.IsSettled (p.start place) := by
  unfold Path.start
  split
  · exact h
  · exact isSettled_nil s

/-- Names lead from a place without links on the way to another such place. -/
theorem Reaches.isSettled (h : s.Reaches place ns found) (hplace : s.IsSettled place) :
    s.IsSettled found := by
  induction h with
  | refl => exact hplace
  | up _ ih => exact ih (hplace.of_prefix (List.dropLast_prefix _))
  | down _ hlink _ ih => exact ih (hplace.concat hlink)
  | link _ _ _ _ ihtarget ih => exact ih (ihtarget hplace.start)

/-- Names lead down along a way without links. -/
theorem IsSettled.reaches (h : s.IsSettled (place ++ ns)) (hup : ".." ∉ ns) :
    s.Reaches place ns (place ++ ns) := by
  induction ns generalizing place with
  | nil => simpa using Reaches.refl place
  | cons n ns ih =>
    obtain ⟨hn, hns⟩ := not_or.mp (mt List.mem_cons.mpr hup)
    rw [List.append_cons] at h ⊢
    exact .down (Ne.symm hn) (h _ (List.prefix_append _ _)) (ih h hns)

/-- A place without links on the way is where the path to it leads. -/
theorem IsSettled.eq_of_reaches (h : s.IsSettled place) (hproper : IsProper place)
    (hreaches : s.Reaches [] place found) : found = place :=
  hreaches.unique (h.reaches fun hmem => (hproper _ hmem).1 rfl)

/-! ### Walks -/

/-- How a walk ends: at a directory, at what stands at the place that names lead to, or, unless it
leads `through`, at a link. -/
inductive Ends (s : FileSystem) (place : Place) (ns : List String) :
    Bool → Place → Option Entry → Prop
  | directory {through : Bool} {found : Place} (h : s.Reaches place ns found) :
      Ends s place ns through found (some .directory)
  | entry {through : Bool} {found : Place} (h : s.Reaches place ns found)
      (hlink : s.link? found = none) : Ends s place ns through found (s.find? found)
  | link {found : Place} {target : Path} (h : s.find? found = some (.link target)) :
      Ends s place ns false found (some (.link target))

variable {through : Bool} {e : Option Entry}
  {follow follow' : Place → List String → Except FileFault (Place × Option Entry)}

theorem Ends.mono {place' : Place} {ns' : List String} (h : s.Ends place ns through found e)
    (hmono : ∀ found, s.Reaches place ns found → s.Reaches place' ns' found) :
    s.Ends place' ns' through found e := by
  cases h with
  | directory h => exact .directory (hmono _ h)
  | entry h hlink => exact .entry (hmono _ h) hlink
  | link h => exact .link h

/-- A walk through a link at its end never stops at a link. -/
theorem Ends.reaches (h : s.Ends place ns true found e) : s.Reaches place ns found := by
  cases h with
  | directory h => exact h
  | entry h => exact h

theorem Ends.of_eq_none (h : s.Ends place ns through found e) (he : e = none) :
    s.Reaches place ns found ∧ s.find? found = none := by
  cases h with
  | directory => cases he
  | entry h => exact ⟨h, he⟩
  | link => cases he

theorem walkWith_ends (hfollow : ∀ place ns, follow place ns = .ok (found, e) →
    s.Ends place ns through found e) (h : s.walkWith through follow place ns = .ok (found, e)) :
    s.Ends place ns through found e := by
  induction ns generalizing place with
  | nil =>
    obtain ⟨rfl, rfl⟩ := Prod.mk.inj (Except.ok.inj h)
    exact .directory (.refl place)
  | cons n ns ih =>
    rw [walkWith] at h
    by_cases hup : n = ".."
    · rw [if_pos hup] at h
      exact hup ▸ (ih h).mono fun _ => .up
    · rw [if_neg hup] at h
      split at h
      · cases h
      · dsimp only at h
        split at h
        · rename_i hdirectory
          have hlink : s.link? (place ++ [n]) = none :=
            link?_eq_none_of_find? (by simp [hdirectory])
          exact (ih h).mono fun _ => .down hup hlink
        · rename_i target htarget
          split at h
          · rename_i hstop
            obtain ⟨rfl, rfl⟩ := Prod.mk.inj (Except.ok.inj h)
            obtain rfl : through = false := by simpa using (Bool.and_eq_true_iff.mp hstop).2
            exact .link htarget
          · refine (hfollow _ _ h).mono fun _ hreaches => ?_
            obtain ⟨between, hnames, hns⟩ := hreaches.exists_of_append
            exact .link hup (link?_eq_some.mpr htarget) hnames hns
        · rename_i hdirectory hother
          split at h
          · rename_i hempty
            obtain ⟨rfl, rfl⟩ := Prod.mk.inj (Except.ok.inj h)
            obtain rfl := List.isEmpty_iff.mp hempty
            have hlink : s.link? (place ++ [n]) = none := link?_eq_none_of_find? hother
            exact .entry (.down hup hlink (.refl _)) hlink
          · cases h

theorem walk_ends {links : Nat} (h : s.walk through links place ns = .ok (found, e)) :
    s.Ends place ns through found e := by
  induction links generalizing place ns with
  | zero =>
    refine walkWith_ends (fun _ _ hfollow => ?_) h
    cases hfollow
  | succ links ih => exact walkWith_ends (fun _ _ => ih) h

/-- Where a walk along a path ends. -/
theorem ends_of_locate {here : Place} {p : Path} (h : s.locate here p through = .ok (found, e)) :
    s.Ends (p.start here) p.names through found e := by
  unfold locate at h
  split at h
  · cases h
  · split at h
    · cases h
    · split at h
      · rename_i found' hwalk
        obtain rfl := Except.ok.inj h
        exact walk_ends hwalk
      · cases h

theorem walkWith_put (hnone : s.find? found = none)
    (hfollow : ∀ place ns, follow place ns = .ok (found, none) →
      follow' place ns = .ok (found, some .directory))
    (h : s.walkWith through follow place ns = .ok (found, none)) :
    (s.put found .directory).walkWith true follow' place ns = .ok (found, some .directory) := by
  have hput {q : Place} {e : Entry} (hq : s.find? q = some e) :
      (s.put found .directory).find? q = some e := by
    have hne : q ≠ found := by
      rintro rfl
      cases hnone.symm.trans hq
    rw [find?_put_of_ne hne, hq]
  induction ns generalizing place with
  | nil => cases h
  | cons n ns ih =>
    rw [walkWith] at h ⊢
    by_cases hup : n = ".."
    · rw [if_pos hup] at h ⊢
      exact ih h
    · rw [if_neg hup] at h ⊢
      split at h
      · cases h
      · rename_i hlength
        rw [if_neg hlength]
        dsimp only at h ⊢
        split at h
        · rename_i hdirectory
          simp only [hput hdirectory]
          exact ih h
        · rename_i target htarget
          split at h
          · cases h
          · simp only [hput htarget, Bool.not_true, Bool.and_false, Bool.false_eq_true, if_false]
            exact hfollow _ _ h
        · split at h
          · rename_i hempty
            obtain ⟨rfl, -⟩ := Prod.mk.inj (Except.ok.inj h)
            obtain rfl := List.isEmpty_iff.mp hempty
            simp only [find?_put_self (show place ++ [n] ≠ [] by simp)]
            rfl
          · cases h

/-- A walk to a place where nothing stands leads to a directory once one is made there. -/
theorem walk_put {links : Nat} (h : s.walk through links place ns = .ok (found, none)) :
    (s.put found .directory).walk true links place ns = .ok (found, some .directory) := by
  have hnone := ((walk_ends h).of_eq_none rfl).2
  induction links generalizing place ns with
  | zero =>
    refine walkWith_put hnone (fun _ _ hfollow => ?_) h
    cases hfollow
  | succ links ih => exact walkWith_put hnone (fun _ _ => ih) h

theorem walkWith_of_directory
    (hfollow : ∀ place ns, follow place ns = .ok (found, some .directory) →
      ∃ found' e', follow' place ns = .ok (found', some e'))
    (h : s.walkWith true follow place ns = .ok (found, some .directory)) :
    ∃ found' e', s.walkWith false follow' place ns = .ok (found', some e') := by
  induction ns generalizing place with
  | nil => exact ⟨_, _, rfl⟩
  | cons n ns ih =>
    rw [walkWith] at h ⊢
    by_cases hup : n = ".."
    · rw [if_pos hup] at h ⊢
      exact ih h
    · rw [if_neg hup] at h ⊢
      split at h
      · cases h
      · rename_i hlength
        rw [if_neg hlength]
        dsimp only at h ⊢
        split at h
        · rename_i hdirectory
          exact ih h
        · rename_i target htarget
          rw [Bool.not_true, Bool.and_false, if_neg Bool.false_ne_true] at h
          split
          · exact ⟨_, _, rfl⟩
          · exact hfollow _ _ h
        · split at h
          · rename_i hother _ _
            exact absurd (congrArg Prod.snd (Except.ok.inj h)) hother
          · cases h

/-- Something stands where a walk leads to a directory, if a link there is not followed. -/
theorem walk_of_directory {links : Nat}
    (h : s.walk true links place ns = .ok (found, some .directory)) :
    ∃ found' e', s.walk false links place ns = .ok (found', some e') := by
  induction links generalizing place ns with
  | zero =>
    refine walkWith_of_directory (fun _ _ hfollow => ?_) h
    cases hfollow
  | succ links ih => exact walkWith_of_directory (fun _ _ => ih) h

/-! ### Resolving paths -/

variable {enter enter' : Place → Place → Path → Except Fault Place}

theorem resolveWith_eq_ok
    (henter : ∀ {place link target found}, enter place link target = .ok found →
      s.Reaches (target.start place) target.names found ∧ (IsProper place → IsProper found))
    (h : s.resolveWith enter place ns = .ok found) :
    s.Reaches place ns found ∧ (IsProper place → IsProper found) := by
  induction ns generalizing place with
  | nil =>
    obtain rfl := Except.ok.inj h
    exact ⟨.refl _, id⟩
  | cons n ns ih =>
    rw [resolveWith] at h
    by_cases hup : n = ".."
    · rw [if_pos hup] at h
      obtain ⟨hreaches, hproper⟩ := ih h
      exact ⟨hup ▸ .up hreaches, fun hplace =>
        hproper (hplace.of_subset (List.dropLast_subset _))⟩
    · rw [if_neg hup] at h
      split at h
      · cases h
      · rename_i hzero
        split at h
        · rename_i hlink
          obtain ⟨hreaches, hproper⟩ := ih h
          refine ⟨.down hup hlink hreaches, fun hplace => hproper (hplace.append ?_)⟩
          exact List.forall_mem_singleton.mpr ⟨hup, by simpa using hzero⟩
        · rename_i target hlink
          split at h
          · rename_i next hnext
            obtain ⟨htarget, hproperNext⟩ := henter hnext
            obtain ⟨hreaches, hproper⟩ := ih h
            exact ⟨.link hup hlink htarget hreaches, fun hplace => hproper (hproperNext hplace)⟩
          · cases h

theorem resolveWithin_eq_ok {depth : Nat} {inside : List Place}
    (h : s.resolveWithin depth inside place ns = .ok found) :
    s.Reaches place ns found ∧ (IsProper place → IsProper found) := by
  induction depth generalizing inside place ns found with
  | zero => cases h
  | succ depth ih =>
    refine resolveWith_eq_ok (fun {place link target found} henter => ?_) h
    split at henter
    · cases henter
    · obtain ⟨hreaches, hproper⟩ := ih henter
      exact ⟨hreaches, fun hplace => hproper (Path.isProper_start hplace)⟩

variable {here : Place} {p : Path}

/-- A path resolves to where its names lead. -/
theorem reaches_of_resolve (h : s.resolve here p = .ok found) :
    s.Reaches (p.start here) p.names found := (resolveWithin_eq_ok h).1

/-- A path resolves to a place that a path can name. -/
theorem isProper_of_resolve (h : s.resolve here p = .ok found) (hhere : IsProper here) :
    IsProper found := (resolveWithin_eq_ok h).2 (Path.isProper_start hhere)

/-- A path resolves to a place with no link on the way. -/
theorem isSettled_of_resolve (h : s.resolve here p = .ok found) (hhere : s.IsSettled here) :
    s.IsSettled found := (reaches_of_resolve h).isSettled hhere.start

theorem resolveWith_congr (hlinks : ∀ place, t.link? place = s.link? place) (place : Place)
    (ns : List String) : t.resolveWith enter place ns = s.resolveWith enter place ns := by
  induction ns generalizing place with
  | nil => rfl
  | cons n ns ih => simp only [resolveWith, hlinks, ih]

/-- Only what is a link decides what a path resolves to. -/
theorem resolve_congr (hlinks : ∀ place, t.link? place = s.link? place) (here : Place) (p : Path) :
    t.resolve here p = s.resolve here p := by
  have hwithin (depth : Nat) : t.resolveWithin depth = s.resolveWithin depth := by
    induction depth with
    | zero => rfl
    | succ depth ih =>
      funext inside place ns
      rw [resolveWithin, resolveWithin, resolveWith_congr hlinks, ih]
  rw [resolve, resolve, hwithin]

theorem resolveWith_append {ms : List String} (hsettled : s.IsSettled (place ++ ms))
    (hproper : IsProper ms) (ns : List String) :
    s.resolveWith enter place (ms ++ ns) = s.resolveWith enter (place ++ ms) ns := by
  induction ms generalizing place with
  | nil => rw [List.append_nil, List.nil_append]
  | cons m ms ih =>
    obtain ⟨hm, hms⟩ := List.forall_mem_cons.mp hproper
    rw [List.append_cons] at hsettled ⊢
    have hlink : s.link? (place ++ [m]) = none := hsettled _ (List.prefix_append _ _)
    have hzero : m.toList.contains (Char.ofNat 0) = false := by simpa using hm.2
    rw [List.cons_append, resolveWith, if_neg hm.1, if_neg (by simp [hm.2]), hlink]
    exact ih hsettled hms

/-- Names that lead down along a way without links resolve to the place at its end. -/
theorem resolve_of_isSettled (hsettled : s.IsSettled (p.start here ++ p.names))
    (hproper : IsProper p.names) : s.resolve here p = .ok (p.start here ++ p.names) := by
  calc s.resolve here p = s.resolveWith _ (p.start here) (p.names ++ []) := by
        rw [List.append_nil]
        rfl
    _ = s.resolveWith _ (p.start here ++ p.names) [] := resolveWith_append hsettled hproper []

/-- A path that leads on from a place without links on the way is resolved from there. -/
theorem resolve_join (hsettled : s.IsSettled place) (hproper : IsProper place) (p : Path) :
    s.resolve [] ((Path.ofPlace place).join p) = s.resolve place p := by
  unfold Path.join
  split
  · rename_i hhere
    have hstart : p.start place = place := if_pos hhere
    rw [resolve, resolve, hstart]
    exact resolveWith_append hsettled hproper p.names
  · rename_i hroot
    rw [resolve, resolve, Path.start, Path.start, if_neg hroot, if_neg hroot]

end FileSystem

end ClientGen
