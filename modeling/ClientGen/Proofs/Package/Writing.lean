import ClientGen.Package.Writing
import ClientGen.Proofs.Steps
import ClientGen.Proofs.World.Files

/-!
# Writing files below a directory

Files are written in turn, and the first one that cannot be written ends it. What is written by then
stays: every place has the last text for it. Nothing else changes, but that directories are made on
the way. No temporary file remains, and nothing changes beside the directory. All this is said of
the places that the paths of the files resolve to: no link is ever made or replaced, so they are the
same before the first file is written and after the last one.

## Main definitions

* `ClientGen.Package.placed` : the places of files below a directory.
* `ClientGen.Package.Unlinked` : no links stand at the places that the paths name.
* `ClientGen.Package.IsFresh` : the places of temporary files are free.
* `ClientGen.Package.Leaves` : what writing files leaves.
* `ClientGen.Package.StopsAt` : how writing files stops at one of them.

## Main results

* `ClientGen.Package.writeBelow_leadsTo` : writing one file.
* `ClientGen.Package.writeAll_leadsTo` : writing files in turn.
* `ClientGen.Package.writeFiles_leadsTo` : writing files below a directory.
-/

namespace ClientGen.Package

open FileSystem

variable {token : String} {root place : Place} {s s' t : FileSystem}

/-! ### Places of files -/

/-- Only what is a link decides where a file goes. -/
theorem targetOf_congr (hlinks : ∀ place, t.link? place = s.link? place) (root : Place)
    (relative : String) : targetOf t root relative = targetOf s root relative :=
  resolve_congr hlinks _ _

theorem isProper_of_targetOf {relative : String} (h : targetOf s root relative = .ok place) :
    IsProper place := isProper_of_resolve h nofun

theorem isSettled_of_targetOf {relative : String} (h : targetOf s root relative = .ok place) :
    s.IsSettled place := isSettled_of_resolve h (isSettled_nil s)

-- A path of plain names leads out of the directory if a link does.
example : targetOf
    { entries := [(["out"], .directory), (["out", "src"], .link (Path.parse "/home"))] } ["out"]
    "src/a.ts" = .ok ["home", "a.ts"] := by decide +kernel

/-- The place that the path of a file names below a directory, if no link stands on the way. -/
def placeOf (root : Place) (relative : String) : Place := (Path.parse relative).placeFrom root

/-- No link stands at the places that the paths of files name below a directory, nor on the way. -/
def Unlinked (s : FileSystem) (root : Place) (files : List (String × String)) : Prop :=
  ∀ f ∈ files, s.IsSettled (placeOf root f.1)

instance (s : FileSystem) (root : Place) (files : List (String × String)) :
    Decidable (Unlinked s root files) :=
  inferInstanceAs (Decidable (∀ f ∈ files, s.IsSettled (placeOf root f.1)))

/-- The places of files below a directory, with their texts. A file whose path cannot be resolved
has none. -/
def placed (s : FileSystem) (root : Place) (files : List (String × String)) :
    List (Place × String) :=
  files.filterMap fun f => (targetOf s root f.1).toOption.map fun place => (place, f.2)

theorem placed_congr (hlinks : ∀ place, t.link? place = s.link? place) (root : Place)
    (files : List (String × String)) : placed t root files = placed s root files := by
  simp only [placed, targetOf_congr hlinks]

theorem placed_cons_of_ok {f : String × String} (h : targetOf s root f.1 = .ok place)
    (files : List (String × String)) :
    placed s root (f :: files) = (place, f.2) :: placed s root files :=
  List.filterMap_cons_some (by rw [h]; rfl)

/-- Files that go to the places that their paths name. -/
theorem placed_eq_map {files : List (String × String)}
    (h : ∀ f ∈ files, targetOf s root f.1 = .ok (placeOf root f.1)) :
    placed s root files = files.map fun f => (placeOf root f.1, f.2) := by
  induction files with
  | nil => rfl
  | cons f files ih =>
    obtain ⟨hf, hfiles⟩ := List.forall_mem_cons.mp h
    rw [placed_cons_of_ok hf, ih hfiles, List.map_cons]

/-! ### What writing leaves -/

/-- The places of temporary files are free: nothing stands there, and nothing is written there or
below. -/
def IsFresh (token : String) (targets : List Place) (s : FileSystem) : Prop :=
  ∀ target ∈ targets, s.find? (FileAction.temporaryFor token target) = none ∧
    ∀ other ∈ targets, ¬ FileAction.temporaryFor token target <+: other

instance (token : String) (targets : List Place) (s : FileSystem) :
    Decidable (IsFresh token targets s) :=
  inferInstanceAs (Decidable (∀ target ∈ targets, _ ∧ ∀ other ∈ targets, _))

/-- What writing files leaves from one file system to another: `done` are the places that are
written to, and `tried` those that directories are made for. -/
structure Leaves (done : List (Place × String)) (tried : List Place) (s t : FileSystem) :
    Prop where
  /-- Every place that is written to has the last text for it. -/
  written : ∀ place text, done.reverse.lookup place = some text →
    t.find? place = some (.file text.toUTF8)
  /-- Nothing changes at other places, but that directories are made where nothing stood. -/
  others : ∀ place, done.reverse.lookup place = none → t.find? place = s.find? place ∨
    (∃ target ∈ tried, place <+: target.dropLast) ∧ s.find? place = none ∧
      t.find? place = some .directory

/-- Files are written below a directory and nowhere else. -/
structure Confined (token : String) (root : Place) (targets : List Place) (s t : FileSystem) :
    Prop where
  /-- Beside the directory, nothing changes but that the directories above it are made where nothing
  stood. -/
  outside : ∀ place, ¬ root <+: place → t.find? place = s.find? place ∨
    place <+: root ∧ s.find? place = none ∧ t.find? place = some .directory
  /-- No temporary file remains. -/
  cleared : ∀ target ∈ targets, t.find? (FileAction.temporaryFor token target) = none

namespace Leaves

variable {done done' : List (Place × String)} {tried tried' : List Place} {u : FileSystem}

theorem refl (s : FileSystem) : Leaves [] [] s s where
  written _ _ h := by cases h
  others _ _ := .inl rfl

/-- Writing some files and then others: what stands at a place is not made again. -/
theorem append (h : Leaves done tried s t) (h' : Leaves done' tried' t u) :
    Leaves (done ++ done') (tried ++ tried') s u where
  written place text hlast := by
    rw [List.reverse_append, List.lookup_append] at hlast
    cases hnew : done'.reverse.lookup place with
    | some text' =>
      rw [hnew] at hlast
      obtain rfl := Option.some.inj hlast
      exact h'.written place text' hnew
    | none =>
      rw [hnew, Option.none_or] at hlast
      have ht := h.written place text hlast
      rcases h'.others place hnew with hsame | ⟨-, hnone, -⟩
      · rw [hsame, ht]
      · rw [ht] at hnone
        cases hnone
  others place hlast := by
    rw [List.reverse_append, List.lookup_append, Option.or_eq_none_iff] at hlast
    rcases h.others place hlast.2, h'.others place hlast.1 with
      ⟨hst | ⟨⟨target, hmem, hway⟩, hs, ht⟩, htu | ⟨⟨target', hmem', hway'⟩, ht', hu⟩⟩
    · exact .inl (htu.trans hst)
    · exact .inr ⟨⟨target', List.mem_append_right _ hmem', hway'⟩, hst ▸ ht', hu⟩
    · exact .inr ⟨⟨target, List.mem_append_left _ hmem, hway⟩, hs, htu.trans ht⟩
    · rw [ht] at ht'
      cases ht'

theorem of_written {target : Place} {text : String}
    (h : t.find? target = some (.file text.toUTF8))
    (hothers : ∀ place, place ≠ target → t.find? place = s.find? place ∨
      place <+: target.dropLast ∧ s.find? place = none ∧ t.find? place = some .directory) :
    Leaves [(target, text)] [target] s t where
  written place text' hlast := by
    by_cases hplace : place = target
    · subst hplace
      obtain rfl : text = text' := by simpa using hlast
      exact h
    · have hne : (place == target) = false := beq_false_of_ne hplace
      simp [List.lookup_cons, hne] at hlast
  others place hlast := by
    have hplace : place ≠ target := by
      rintro rfl
      simp at hlast
    simpa using hothers place hplace

theorem of_onlyMakes {target : Place} (h : OnlyMakes (· <+: target.dropLast) s t) :
    Leaves [] [target] s t where
  written _ _ hlast := by cases hlast
  others place _ := by simpa using h place

/-- Writing makes no links and replaces none. -/
theorem link?_eq (h : Leaves done tried s t) (hdone : ∀ d ∈ done, s.link? d.1 = none)
    (place : Place) : t.link? place = s.link? place := by
  cases hlast : done.reverse.lookup place with
  | some text =>
    obtain ⟨front, back, heq, -⟩ := List.lookup_eq_some_iff.mp hlast
    have hmem : (place, text) ∈ done := List.mem_reverse.mp (heq ▸ by simp)
    rw [hdone _ hmem, link?, h.written _ _ hlast]
  | none =>
    rcases h.others place hlast with hsame | ⟨-, hs, ht⟩
    · exact link?_congr hsame
    · rw [link?, link?, hs, ht]

/-- Where temporary files would stand, nothing does. -/
theorem cleared {targets : List Place} (h : Leaves done tried s t)
    (hdone : ∀ w ∈ done, w.1 ∈ tried) (hfresh : IsFresh token targets s) (htried : tried ⊆ targets)
    {target : Place} (htarget : target ∈ targets) :
    t.find? (FileAction.temporaryFor token target) = none := by
  obtain ⟨hnone, hfree⟩ := hfresh target htarget
  have hlast : done.reverse.lookup (FileAction.temporaryFor token target) = none := by
    refine List.lookup_eq_none_iff.mpr fun w hw => bne_iff_ne.mpr fun heq => ?_
    exact hfree w.1 (htried (hdone w (List.mem_reverse.mp hw))) (heq ▸ List.prefix_rfl)
  rcases h.others _ hlast with hsame | ⟨⟨other, hother, hway⟩, -⟩
  · rw [hsame, hnone]
  · exact absurd (hway.trans (List.dropLast_prefix other)) (hfree other (htried hother))

/-- What is written below a directory changes nothing beside it. -/
theorem confined {targets : List Place} (h : Leaves done tried s t)
    (hdone : ∀ w ∈ done, w.1 ∈ tried) (hfresh : IsFresh token targets s) (htried : tried ⊆ targets)
    (hbelow : ∀ target ∈ tried, root <+: target) : Confined token root targets s t where
  outside place hplace := by
    have hlast : done.reverse.lookup place = none := by
      refine List.lookup_eq_none_iff.mpr fun w hw => bne_iff_ne.mpr ?_
      rintro rfl
      exact hplace (hbelow w.1 (hdone w (List.mem_reverse.mp hw)))
    refine (h.others place hlast).imp_right fun ⟨⟨target, htarget, hway⟩, hmade⟩ => ⟨?_, hmade⟩
    have hway := hway.trans (List.dropLast_prefix target)
    exact (List.prefix_or_prefix_of_prefix hway (hbelow target htarget)).resolve_right hplace
  cleared _ := h.cleared hdone hfresh htried

end Leaves

/-! ### Writing one file -/

/-- Writing a file below a directory changes it and no other, but that directories are made on the
way. A file that would land elsewhere, or whose path cannot be resolved, changes nothing. -/
theorem writeBelow_leadsTo {relative text : String} (htoken : Char.ofNat 0 ∉ token.toList)
    (hfresh : ∀ place, targetOf s root relative = .ok place →
      s.find? (FileAction.temporaryFor token place) = none) :
    LeadsTo (writeBelow token root relative text) s
      (fun place s' => targetOf s root relative = .ok place ∧ root <+: place ∧
        Leaves [(place, text)] [place] s s')
      (fun p s' =>
        (∃ f, targetOf s root relative = .error f ∧ p = .fault f ∧ s = s') ∨
        ∃ place, targetOf s root relative = .ok place ∧
          (¬ root <+: place ∧ p = .failure (.escapingPath relative) ∧ s = s' ∨
            root <+: place ∧ (∃ f, p = .failure (.writeRefused (Path.ofPlace place).display f)) ∧
              Leaves [] [place] s s')) := by
  rw [leadsTo_iff, writeBelow]
  cases htarget : targetOf s root relative with
  | error f => exact .inl ⟨f, rfl, rfl, rfl⟩
  | ok place =>
    have hwrite : LeadsTo (FileAction.writeFile token place text) s _ _ :=
      FileAction.writeFile_leadsTo (isProper_of_targetOf htarget) (isSettled_of_targetOf htarget)
        htoken (hfresh place htarget)
    by_cases hbelow : root <+: place
    · have hisBelow : isBelow root place = true := List.isPrefixOf_iff_prefix.mpr hbelow
      simp only [hisBelow, if_true]
      cases hrun : FileAction.writeFile token place text s with
      | ok _ s' =>
        obtain ⟨hplace, hothers⟩ := hwrite.of_ok hrun
        exact ⟨rfl, hbelow, .of_written hplace hothers⟩
      | error f s' =>
        obtain ⟨hmade, hf⟩ := hwrite.of_error hrun
        simp only [if_neg hf]
        exact .inr ⟨place, rfl, .inr ⟨hbelow, ⟨f, rfl⟩, .of_onlyMakes hmade⟩⟩
    · have hisBelow : isBelow root place = false :=
        Bool.eq_false_iff.mpr fun h => hbelow (List.isPrefixOf_iff_prefix.mp h)
      simp only [hisBelow]
      exact .inr ⟨place, rfl, .inl ⟨hbelow, rfl, rfl⟩⟩

/-! ### Writing files in turn -/

/-- How writing files stops at one of them, behind those in `before`. -/
inductive StopsAt (token : String) (root : Place) (before : List (String × String))
    (relative : String) (s : FileSystem) : Problem → FileSystem → Prop
  /-- The path of the file cannot be resolved. Nothing happens behind the files before it. -/
  | unresolved {s' : FileSystem} {f : Fault} (hplace : targetOf s root relative = .error f)
      (hbefore : writeAll token root before s = .ok ((placed s root before).map Prod.fst) s')
      (leaves : Leaves (placed s root before) ((placed s root before).map Prod.fst) s s') :
      StopsAt token root before relative s (.fault f) s'
  /-- The file would land beside the directory. Nothing happens behind the files before it. -/
  | escaping {s' : FileSystem} {place : Place} (hplace : targetOf s root relative = .ok place)
      (houtside : ¬ root <+: place)
      (hbefore : writeAll token root before s = .ok ((placed s root before).map Prod.fst) s')
      (leaves : Leaves (placed s root before) ((placed s root before).map Prod.fst) s s') :
      StopsAt token root before relative s (.failure (.escapingPath relative)) s'
  /-- The file cannot be written. Behind the files before it, directories may be made. -/
  | refused {s' : FileSystem} {place : Place} {f : Fault}
      (hplace : targetOf s root relative = .ok place) (hinside : root <+: place)
      (leaves : Leaves (placed s root before) ((placed s root before).map Prod.fst ++ [place]) s
        s') :
      StopsAt token root before relative s
        (.failure (.writeRefused (Path.ofPlace place).display f)) s'

/-- One more file in front. -/
theorem StopsAt.cons {f : String × String} {before : List (String × String)} {relative : String}
    {p : Problem} (hplace : targetOf s root f.1 = .ok place)
    (hlinks : ∀ place, t.link? place = s.link? place)
    (h : StopsAt token root before relative t p s')
    (hf : writeBelow token root f.1 f.2 s = .ok place t)
    (hleaves : Leaves [(place, f.2)] [place] s t) :
    StopsAt token root (f :: before) relative s p s' := by
  have hplaced := placed_cons_of_ok hplace before
  have hrun {places : List Place} (hbefore : writeAll token root before t = .ok places s') :
      writeAll token root (f :: before) s = .ok (place :: places) s' := by
    simp only [writeAll, bind, EStateM.bind, hf, hbefore]
    rfl
  cases h with
  | unresolved hrelative hbefore leaves =>
    rw [placed_congr hlinks] at hbefore leaves
    refine .unresolved (targetOf_congr hlinks root relative ▸ hrelative) ?_ ?_
    · rw [hplaced]
      exact hrun hbefore
    · rw [hplaced]
      exact hleaves.append leaves
  | escaping hrelative houtside hbefore leaves =>
    rw [placed_congr hlinks] at hbefore leaves
    refine .escaping (targetOf_congr hlinks root relative ▸ hrelative) houtside ?_ ?_
    · rw [hplaced]
      exact hrun hbefore
    · rw [hplaced]
      exact hleaves.append leaves
  | refused hrelative hinside leaves =>
    rw [placed_congr hlinks] at leaves
    refine .refused (targetOf_congr hlinks root relative ▸ hrelative) hinside ?_
    rw [hplaced]
    exact hleaves.append leaves

theorem mem_map_of_mem_placed {files : List (String × String)} :
    ∀ d ∈ placed s root files, d.1 ∈ (placed s root files).map Prod.fst :=
  fun _ hd => List.mem_map_of_mem hd

theorem StopsAt.confined {f : String × String} {before after : List (String × String)}
    {p : Problem} (h : StopsAt token root before f.1 s p s')
    (hfresh : IsFresh token ((placed s root (before ++ f :: after)).map Prod.fst) s)
    (hbefore : ∀ place ∈ (placed s root before).map Prod.fst, root <+: place) :
    Confined token root ((placed s root (before ++ f :: after)).map Prod.fst) s s' := by
  have hsub : (placed s root before).map Prod.fst ⊆
      (placed s root (before ++ f :: after)).map Prod.fst := by
    rw [placed, placed, List.filterMap_append, List.map_append]
    exact List.subset_append_left _ _
  cases h with
  | unresolved _ _ leaves => exact leaves.confined mem_map_of_mem_placed hfresh hsub hbefore
  | escaping _ _ _ leaves => exact leaves.confined mem_map_of_mem_placed hfresh hsub hbefore
  | refused hplace hinside leaves =>
    refine leaves.confined (fun d hd => List.mem_append_left _ (mem_map_of_mem_placed d hd)) hfresh
      (List.append_subset.mpr ⟨hsub, ?_⟩) ?_
    · intro q hq
      rw [List.mem_singleton.mp hq, placed, List.filterMap_append, ← placed, ← placed,
        placed_cons_of_ok hplace]
      simp
    · exact List.forall_mem_append.mpr ⟨hbefore, List.forall_mem_singleton.mpr hinside⟩

theorem IsFresh.of_leaves {target : Place} {text : String} {targets : List Place}
    (h : IsFresh token (target :: targets) s) (hleaves : Leaves [(target, text)] [target] s t) :
    IsFresh token targets t := fun other hother =>
  ⟨hleaves.cleared (by simp) h (by simp) (List.mem_cons_of_mem _ hother),
    fun place hplace => (h other (List.mem_cons_of_mem _ hother)).2 place
      (List.mem_cons_of_mem _ hplace)⟩

/-- The paths of the files resolve to places below a directory. -/
def AllBelow (s : FileSystem) (root : Place) (files : List (String × String)) : Prop :=
  ∀ f ∈ files, ∃ place, targetOf s root f.1 = .ok place ∧ root <+: place

theorem AllBelow.prefix {files : List (String × String)} (h : AllBelow s root files) :
    ∀ place ∈ (placed s root files).map Prod.fst, root <+: place := by
  intro place hplace
  obtain ⟨d, hd, rfl⟩ := List.mem_map.mp hplace
  obtain ⟨f, hf, hd⟩ := List.mem_filterMap.mp hd
  obtain ⟨place, htarget, hbelow⟩ := h f hf
  rw [htarget] at hd
  obtain rfl := Option.some.inj hd
  exact hbelow

/-- Writing files in turn leaves all of them, or stops at one of them. -/
theorem writeAll_leadsTo {files : List (String × String)} (htoken : Char.ofNat 0 ∉ token.toList)
    (hfresh : IsFresh token ((placed s root files).map Prod.fst) s) :
    LeadsTo (writeAll token root files) s
      (fun places s' => places = (placed s root files).map Prod.fst ∧ AllBelow s root files ∧
        Leaves (placed s root files) places s s')
      (fun p s' => ∃ before f after, files = before ++ f :: after ∧ AllBelow s root before ∧
        StopsAt token root before f.1 s p s') := by
  induction files generalizing s with
  | nil => exact .pure ⟨rfl, List.forall_mem_nil _, .refl s⟩
  | cons f rest ih =>
    have hfirst : LeadsTo (writeBelow token root f.1 f.2) s _ _ :=
      writeBelow_leadsTo htoken fun place hplace =>
        (hfresh place (by rw [placed_cons_of_ok hplace]; exact List.mem_cons_self)).1
    rw [leadsTo_iff]
    simp only [writeAll, bind, EStateM.bind]
    cases hrun : writeBelow token root f.1 f.2 s with
    | error p s' =>
      refine ⟨[], f, rest, rfl, List.forall_mem_nil _, ?_⟩
      rcases hfirst.of_error hrun with ⟨g, hplace, rfl, rfl⟩ | ⟨place, hplace, hcase⟩
      · exact .unresolved hplace rfl (.refl s)
      · rcases hcase with ⟨houtside, rfl, rfl⟩ | ⟨hinside, ⟨g, rfl⟩, hleaves⟩
        · exact .escaping hplace houtside rfl (.refl s)
        · exact .refused hplace hinside hleaves
    | ok place t =>
      obtain ⟨hplace, hinside, hleaves⟩ := hfirst.of_ok hrun
      have hlinks : ∀ place, t.link? place = s.link? place := hleaves.link?_eq <|
        List.forall_mem_singleton.mpr (isSettled_of_targetOf hplace place List.prefix_rfl)
      have hbelow {files : List (String × String)} (h : AllBelow t root files) :
          AllBelow s root (f :: files) := by
        refine List.forall_mem_cons.mpr ⟨⟨place, hplace, hinside⟩, fun g hg => ?_⟩
        rw [← targetOf_congr hlinks]
        exact h g hg
      rw [placed_cons_of_ok hplace, ← placed_congr hlinks] at hfresh
      have hothers := ih (hfresh.of_leaves hleaves)
      dsimp only
      cases hrun' : writeAll token root rest t with
      | ok places s' =>
        obtain ⟨rfl, hplaces, hleaves'⟩ := hothers.of_ok hrun'
        rw [placed_cons_of_ok hplace, ← placed_congr hlinks]
        exact ⟨rfl, hbelow hplaces, hleaves.append hleaves'⟩
      | error p s' =>
        obtain ⟨before, f', after, rfl, hbefore, hstops⟩ := hothers.of_error hrun'
        exact ⟨f :: before, f', after, rfl, hbelow hbefore,
          hstops.cons hplace hlinks hrun hleaves⟩

/-! ### Writing files below a directory -/

theorem writeFiles_eq_ok {dir : Path} {files : List (String × String)} {places : List Place}
    {w w' : World} : writeFiles dir files w = .ok places w' ↔
      ∃ root t, w.files.resolve w.here dir = .ok root ∧
        writeAll w.token root files w.files = .ok places t ∧ w' = { w with files := t } := by
  unfold writeFiles
  cases w.files.resolve w.here dir with
  | error f => simp
  | ok root =>
    dsimp only
    cases hrun : writeAll w.token root files w.files <;> simp [hrun, eq_comm]

/-- A world with a package that is written already, and that is also reached by a link. Links in it
lead back to it and out of it, and there is hardly any room for one of its files. -/
def packedWorld : World where
  files := {
    entries := [(["home"], .directory), (["work"], .directory),
      (["work", "site"], .link (Path.parse "shop")), (["work", "shop"], .directory),
      (["work", "shop", "a.ts"], .file "old".toUTF8),
      (["work", "shop", "lib"], .link (Path.parse "../site")),
      (["work", "shop", "out"], .link (Path.parse "/home"))]
    room := fun place =>
      if place = ["work", "shop", "src", ".b.ts.k3.tmp"] then some 2 else none }
  here := ["work"]
  token := "k3"
  now := "20240101-000000"

/-- Files of which two have one place, and one has no room. -/
def packedFiles : List (String × String) :=
  [("a.ts", "first"), ("lib/a.ts", "second"), ("src/b.ts", "third"), ("out/c.ts", "fourth")]

end ClientGen.Package
