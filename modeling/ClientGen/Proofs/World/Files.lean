import ClientGen.Proofs.World.Links

/-!
# Operations on files

An operation on files that fails leaves no file changed, unless it writes one in place. Making
directories makes them on the way along a path, where nothing stood, and does nothing the second
time. Writing a file by way of a temporary one changes the file and no other, and if it fails, none.
No operation makes a link or puts something else in the place of one that is on the way.

## Main definitions

* `ClientGen.LeadsTo` : what a step leads to, whether it gives a result or an error.
* `ClientGen.FileSystem.OnlyMakes` : nothing changes but that directories are made.
* `ClientGen.FileSystem.Passes` : places on the way along a path.

## Main results

* `ClientGen.FileAction.makeDirectories_leadsTo` : making directories.
* `ClientGen.FileAction.makeDirectories_of_status` : making directories again.
* `ClientGen.FileAction.overwrite_leadsTo` : writing a file in place.
* `ClientGen.FileAction.replaceFile_leadsTo`, `ClientGen.FileAction.writeFile_leadsTo` : writing a
  file by way of a temporary one.
-/

namespace ClientGen

/-! ### What a step leads to -/

section Leads

variable {ε σ α β : Type} {x : EStateM ε σ α} {s s' : σ} {Q Q' : α → σ → Prop} {E E' : ε → σ → Prop}

/-- The step leads to a result and a state with the one property, or to an error and a state with
the other one. -/
structure LeadsTo (x : EStateM ε σ α) (s : σ) (Q : α → σ → Prop) (E : ε → σ → Prop) : Prop where
  /-- What holds if the step gives a result. -/
  of_ok : ∀ {a s'}, x s = .ok a s' → Q a s'
  /-- What holds if the step fails. -/
  of_error : ∀ {e s'}, x s = .error e s' → E e s'

theorem leadsTo_iff : LeadsTo x s Q E ↔ match x s with
    | .ok a s' => Q a s'
    | .error e s' => E e s' := by
  refine ⟨fun h => ?_, fun h => ⟨fun {a s'} hx => ?_, fun {e s'} hx => ?_⟩⟩
  · split
    · exact h.of_ok ‹_›
    · exact h.of_error ‹_›
  · rwa [hx] at h
  · rwa [hx] at h

theorem tryCatch_eq {f : ε → EStateM ε σ α} : tryCatch x f s = match x s with
    | .ok a s' => .ok a s'
    | .error e s' => f e s' := by
  change EStateM.tryCatch x f s = _
  delta EStateM.tryCatch
  cases x s <;> rfl

namespace LeadsTo

theorem mono (h : LeadsTo x s Q E) (hQ : ∀ a s', Q a s' → Q' a s')
    (hE : ∀ e s', E e s' → E' e s') : LeadsTo x s Q' E' :=
  ⟨fun hx => hQ _ _ (h.of_ok hx), fun hx => hE _ _ (h.of_error hx)⟩

theorem bind {f : α → EStateM ε σ β} {Q' : β → σ → Prop} (h : LeadsTo x s Q E)
    (hf : ∀ a s', Q a s' → LeadsTo (f a) s' Q' E) : LeadsTo (x >>= f) s Q' E := by
  have hbind : (x >>= f) s = match x s with
      | .ok a s' => f a s'
      | .error e s' => .error e s' := rfl
  rw [leadsTo_iff, hbind]
  cases hx : x s with
  | ok a s' => exact leadsTo_iff.mp (hf a s' (h.of_ok hx))
  | error e s' => exact h.of_error hx

theorem tryCatch {f : ε → EStateM ε σ α} (h : LeadsTo x s Q E)
    (hf : ∀ e s', E e s' → LeadsTo (f e) s' Q E') : LeadsTo (tryCatch x f) s Q E' := by
  rw [leadsTo_iff, tryCatch_eq]
  cases hx : x s with
  | ok a s' => exact h.of_ok hx
  | error e s' => exact leadsTo_iff.mp (hf e s' (h.of_error hx))

theorem pure {a : α} (h : Q a s) : LeadsTo (Pure.pure a : EStateM ε σ α) s Q E :=
  leadsTo_iff.mpr h

theorem throw {e : ε} (h : E e s) : LeadsTo (MonadExcept.throw e : EStateM ε σ α) s Q E :=
  leadsTo_iff.mpr h

end LeadsTo

end Leads

/-! ### First names of a path -/

namespace Path

/-- The first names of a path. -/
def first (p : Path) (n : Nat) : Path := { p with names := p.names.take n }

theorem first_length (p : Path) : p.first p.names.length = p := by
  rw [first, List.take_length]

theorem hasZero_first {p : Path} (h : p.hasZero = false) (n : Nat) :
    (p.first n).hasZero = false :=
  hasZero_eq_false_iff.mpr fun m hm => hasZero_eq_false_iff.mp h m (List.mem_of_mem_take hm)

end Path

/-! ### File systems -/

namespace FileSystem

variable {s t u : FileSystem} {place here : Place}

/-- Nothing changes from one file system to another, but that directories are made at places of a
kind where nothing stood. -/
def OnlyMakes (P : Place → Prop) (s t : FileSystem) : Prop :=
  ∀ place, t.find? place = s.find? place ∨
    P place ∧ s.find? place = none ∧ t.find? place = some .directory

namespace OnlyMakes

variable {P P' : Place → Prop}

theorem refl (s : FileSystem) : OnlyMakes P s s := fun _ => .inl rfl

theorem trans (h : OnlyMakes P s t) (h' : OnlyMakes P t u) : OnlyMakes P s u := by
  intro place
  rcases h place, h' place with ⟨hst | ⟨hP, hs, ht⟩, htu | ⟨hP', ht', hu⟩⟩
  · exact .inl (htu.trans hst)
  · exact .inr ⟨hP', hst ▸ ht', hu⟩
  · exact .inr ⟨hP, hs, htu.trans ht⟩
  · exact .inr ⟨hP, hs, hu⟩

theorem mono (h : OnlyMakes P s t) (hP : ∀ place, P place → P' place) : OnlyMakes P' s t :=
  fun place => (h place).imp_right fun ⟨hplace, hs⟩ => ⟨hP place hplace, hs⟩

theorem congr (h : OnlyMakes P s t) (hu : ∀ place, u.find? place = t.find? place) :
    OnlyMakes P s u := fun place => by
  rw [hu place]
  exact h place

/-- Making directories makes no links. -/
theorem link?_eq (h : OnlyMakes P s t) (place : Place) : t.link? place = s.link? place := by
  rcases h place with hsame | ⟨-, hs, ht⟩
  · exact link?_congr hsame
  · rw [link?, link?, hs, ht]

theorem put (hP : P place) (hs : s.find? place = none) :
    OnlyMakes P s (s.put place .directory) := by
  intro other
  by_cases h : other = place
  · subst h
    have hroot : other ≠ [] := by
      rintro rfl
      cases hs
    exact .inr ⟨hP, hs, find?_put_self hroot s _⟩
  · exact .inl (find?_put_of_ne h s _)

end OnlyMakes

/-! ### Paths -/

variable {p : Path} {e : Option Entry} {through : Bool}

/-- Where nothing stands on a path, nothing stands where its names lead. -/
theorem find?_of_locate {found : Place} (h : s.locate here p through = .ok (found, none)) :
    s.Reaches (p.start here) p.names found ∧ s.find? found = none :=
  (ends_of_locate h).of_eq_none rfl

theorem locate_put {found : Place} (h : s.locate here p through = .ok (found, none)) :
    (s.put found .directory).locate here p = .ok (found, some .directory) := by
  unfold locate at h ⊢
  split at h
  · cases h
  · rename_i hzero
    split at h
    · cases h
    · rename_i hlong
      split at h
      · rename_i found' hwalk
        obtain rfl := Except.ok.inj h
        rw [if_neg hzero, if_neg hlong, walk_put hwalk]
      · cases h

/-- Something stands where a path leads to a directory, if a link there is not followed. -/
theorem locate_of_directory {found : Place} (h : s.locate here p = .ok (found, some .directory)) :
    ∃ found' e', s.locate here p false = .ok (found', some e') := by
  unfold locate at h ⊢
  split at h
  · cases h
  · rename_i hzero
    split at h
    · cases h
    · rename_i hlong
      split at h
      · rename_i found' hwalk
        obtain rfl := Except.ok.inj h
        obtain ⟨found', e', hstop⟩ := walk_of_directory hwalk
        exact ⟨found', e', by rw [if_neg hzero, if_neg hlong, hstop]⟩
      · cases h

theorem locate_ne_zeroInName (h : p.hasZero = false) :
    s.locate here p through ≠ .error .zeroInName := by
  unfold locate
  rw [if_neg (by simp [h])]
  split
  · exact nofun
  · split <;> exact nofun

theorem status_of_locate {found : Place} (h : s.locate here p = .ok (found, e)) :
    s.status here p = .ok e := by
  rw [status, h]

theorem exists_locate_of_status (h : s.status here p = .ok (some .directory)) :
    ∃ found, s.locate here p = .ok (found, some .directory) := by
  unfold status at h
  split at h
  · rename_i found hfound
    obtain ⟨found, e⟩ := found
    obtain rfl := Except.ok.inj h
    exact ⟨found, hfound⟩
  · cases h
  · cases h

/-! ### Places on the way along a path -/

/-- The first names of a path lead to the place. -/
def Passes (s : FileSystem) (here : Place) (p : Path) (place : Place) : Prop :=
  ∃ n, s.Reaches (p.start here) (p.first n).names place

theorem passes_congr (hlinks : ∀ place, t.link? place = s.link? place) :
    t.Passes here p = s.Passes here p := by
  funext place
  refine propext (exists_congr fun n => ⟨.congr fun q => (hlinks q).symm, .congr hlinks⟩)

/-- What only makes the place that the first names of a path lead to, makes what the path passes. -/
theorem OnlyMakes.passes {n : Nat} (hlinks : ∀ place, s.link? place = t.link? place)
    (h : OnlyMakes (s.Reaches ((p.first n).start here) (p.first n).names) s s') :
    OnlyMakes (t.Passes here p) s s' :=
  h.mono fun _ hplace => ⟨n, hplace.congr fun q => (hlinks q).symm⟩

/-- A way without links passes what stands on it. -/
theorem prefix_of_passes {target : Place} (ht : IsProper target) (hsettled : s.IsSettled target)
    (h : s.Passes here (Path.ofPlace target) place) : place <+: target := by
  obtain ⟨n, hn⟩ := h
  have hway : target.take n <+: target := List.take_prefix n target
  obtain rfl := (hsettled.of_prefix hway).eq_of_reaches (ht.of_subset hway.subset) hn
  exact hway

end FileSystem

/-! ### Making directories -/

namespace FileAction

open FileSystem

variable {s : FileSystem} {here : Place} {p : Path}

/-- Making a directory makes it where nothing stood. If it fails, nothing changes. -/
theorem makeDirectory_leadsTo : LeadsTo (makeDirectory here p) s
    (fun _ s' => OnlyMakes (s.Reaches (p.start here) p.names) s s' ∧
      s'.status here p = .ok (some .directory))
    (fun f s' => s = s' ∧ (p.hasZero = false → f ≠ .zeroInName)) := by
  rw [leadsTo_iff, makeDirectory]
  cases hlocate : s.locate here p false with
  | error f =>
    exact ⟨rfl, fun hp hf => locate_ne_zeroInName hp (hf ▸ hlocate)⟩
  | ok found =>
    obtain ⟨place, e⟩ := found
    cases e with
    | some e => exact ⟨rfl, fun _ => nofun⟩
    | none =>
      obtain ⟨hplace, hnone⟩ := find?_of_locate hlocate
      exact ⟨.put hplace hnone, status_of_locate (locate_put hlocate)⟩

theorem look_leadsTo {α : Type} (g : FileSystem → Except Fault α) : LeadsTo (look g) s
    (fun a s' => s = s' ∧ g s = .ok a) (fun f s' => s = s' ∧ g s = .error f) := by
  rw [leadsTo_iff, look]
  cases g s <;> exact ⟨rfl, rfl⟩

/-- A fault passes where a directory stands all the same. Nothing changes. -/
theorem unlessDirectory_leadsTo (f : Fault) : LeadsTo (unlessDirectory here p f) s
    (fun _ s' => s = s' ∧ s.status here p = .ok (some .directory))
    (fun g s' => s = s' ∧ (f ≠ .zeroInName → g ≠ .zeroInName)) := by
  have hlook : LeadsTo (look fun fs => fs.status here p) s
      (fun e s' => s = s' ∧ s.status here p = .ok e)
      (fun g s' => s = s' ∧ (f ≠ .zeroInName → g ≠ .zeroInName)) := by
    refine (look_leadsTo _).mono (fun _ _ h => h) ?_
    rintro g _ ⟨rfl, hstatus⟩
    refine ⟨rfl, fun _ hg => ?_⟩
    subst hg
    unfold status at hstatus
    split at hstatus <;> cases hstatus
  refine hlook.bind ?_
  rintro e _ ⟨rfl, he⟩
  match e with
  | some .directory => exact .pure ⟨rfl, he⟩
  | none | some (.file _) | some (.link _) => exact .throw ⟨rfl, id⟩

theorem ensureDirectory_leadsTo : LeadsTo (ensureDirectory here p) s
    (fun _ s' => OnlyMakes (s.Reaches (p.start here) p.names) s s' ∧
      s'.status here p = .ok (some .directory))
    (fun f s' => s = s' ∧ (p.hasZero = false → f ≠ .zeroInName)) := by
  refine makeDirectory_leadsTo.tryCatch ?_
  rintro f _ ⟨rfl, hf⟩
  split
  · refine (unlessDirectory_leadsTo f).mono ?_ ?_
    · rintro _ _ ⟨rfl, hstatus⟩
      exact ⟨.refl _, hstatus⟩
    · rintro g _ ⟨rfl, hg⟩
      exact ⟨rfl, fun hp => hg (hf hp)⟩
  · exact .throw ⟨rfl, hf⟩

/-- Making the directory of the first names of a path makes it where the path passes. -/
theorem ensureFirst_leadsTo {t : FileSystem} (hlinks : ∀ place, s.link? place = t.link? place)
    (n : Nat) : LeadsTo (ensureDirectory here (p.first n)) s
    (fun _ s' => OnlyMakes (t.Passes here p) s s' ∧
      s'.status here (p.first n) = .ok (some .directory))
    (fun f s' => OnlyMakes (t.Passes here p) s s' ∧ (p.hasZero = false → f ≠ .zeroInName)) := by
  refine ensureDirectory_leadsTo.mono (fun _ _ h => ⟨h.1.passes hlinks, h.2⟩) ?_
  rintro f _ ⟨rfl, hf⟩
  exact ⟨.refl _, fun hp => hf (Path.hasZero_first hp n)⟩

/-- Making the first directories of a path makes them where nothing stood. The last one is there
then, if nothing fails. The directories that are made on the way make no difference to where the
path leads. -/
theorem makeFirst_leadsTo {t : FileSystem} (hlinks : ∀ place, s.link? place = t.link? place)
    (n : Nat) : LeadsTo (makeFirst here p n) s
    (fun _ s' => OnlyMakes (t.Passes here p) s s' ∧
      s'.status here (p.first n) = .ok (some .directory))
    (fun f s' => OnlyMakes (t.Passes here p) s s' ∧ (p.hasZero = false → f ≠ .zeroInName)) := by
  induction n generalizing s with
  | zero => exact ensureFirst_leadsTo hlinks 0
  | succ n ih =>
    have hmake : LeadsTo (makeDirectory here (p.first (n + 1))) s
        (fun _ s' => OnlyMakes (t.Passes here p) s s' ∧
          s'.status here (p.first (n + 1)) = .ok (some .directory))
        (fun f s' => s = s' ∧ (p.hasZero = false → f ≠ .zeroInName)) := by
      refine makeDirectory_leadsTo.mono (fun _ _ h => ⟨h.1.passes hlinks, h.2⟩) ?_
      rintro f _ ⟨rfl, hf⟩
      exact ⟨rfl, fun hp => hf (Path.hasZero_first hp (n + 1))⟩
    refine hmake.tryCatch ?_
    rintro f _ ⟨rfl, hf⟩
    split
    · refine ((ih hlinks).mono (fun _ s' h => h.1) fun _ _ h => h).bind fun _ s₁ hs₁ => ?_
      have hlinks₁ : ∀ place, s₁.link? place = t.link? place := fun q =>
        (hs₁.link?_eq q).trans (hlinks q)
      exact (ensureFirst_leadsTo hlinks₁ (n + 1)).mono (fun _ _ h => ⟨hs₁.trans h.1, h.2⟩)
        fun _ _ h => ⟨hs₁.trans h.1, h.2⟩
    · split
      · refine (unlessDirectory_leadsTo f).mono ?_ ?_
        · rintro _ _ ⟨rfl, hstatus⟩
          exact ⟨.refl _, hstatus⟩
        · rintro g _ ⟨rfl, hg⟩
          exact ⟨.refl _, fun hp => hg (hf hp)⟩
      · exact .throw ⟨.refl _, hf⟩

/-- Making directories makes them on the way along the path, where nothing stood. The last one is
there then, if nothing fails. -/
theorem makeDirectories_leadsTo : LeadsTo (makeDirectories here p) s
    (fun _ s' => OnlyMakes (s.Passes here p) s s' ∧ s'.status here p = .ok (some .directory))
    (fun f s' => OnlyMakes (s.Passes here p) s s' ∧ (p.hasZero = false → f ≠ .zeroInName)) := by
  have h : LeadsTo (makeFirst here p p.names.length) s
      (fun _ s' => OnlyMakes (s.Passes here p) s s' ∧
        s'.status here (p.first p.names.length) = .ok (some .directory))
      (fun f s' => OnlyMakes (s.Passes here p) s s' ∧ (p.hasZero = false → f ≠ .zeroInName)) :=
    makeFirst_leadsTo (fun _ => rfl) _
  rwa [Path.first_length] at h

theorem unlessDirectory_of_status (h : s.status here p = .ok (some .directory)) (f : Fault) :
    unlessDirectory here p f s = .ok () s := by
  simp only [unlessDirectory, bind, EStateM.bind, look, h]
  rfl

theorem makeDirectory_of_status (h : s.status here p = .ok (some .directory)) :
    makeDirectory here p s = .error (.file .occupied p.display) s := by
  obtain ⟨found, hfound⟩ := exists_locate_of_status h
  obtain ⟨found', e', hstop⟩ := locate_of_directory hfound
  rw [makeDirectory, hstop]

/-- Making the first directories of a path does nothing if the last one is there. -/
theorem makeFirst_of_status {n : Nat} (h : s.status here (p.first n) = .ok (some .directory)) :
    makeFirst here p n s = .ok () s := by
  have hunless := unlessDirectory_of_status h (.file .occupied (p.first n).display)
  have hmake := makeDirectory_of_status h
  cases n with
  | zero =>
    change tryCatch (makeDirectory here (p.first 0)) _ s = _
    rw [tryCatch_eq, hmake]
    exact hunless
  | succ n =>
    change tryCatch (makeDirectory here (p.first (n + 1))) _ s = _
    rw [tryCatch_eq, hmake]
    exact hunless

/-- Making directories does nothing if the last one is there. -/
theorem makeDirectories_of_status (h : s.status here p = .ok (some .directory)) :
    makeDirectories here p s = .ok () s := by
  rw [← p.first_length] at h
  exact makeFirst_of_status h

/-! ### Writing files -/

variable {token text : String} {target : Place}

theorem temporaryFor_ne_nil (token : String) (target : Place) : temporaryFor token target ≠ [] :=
  List.append_ne_nil_of_right_ne_nil _ (List.cons_ne_nil _ _)

/-- The place of a temporary file is proper if the target is, and what makes it differ has no zero
character. -/
theorem isProper_temporaryFor (ht : IsProper target) (htoken : Char.ofNat 0 ∉ token.toList) :
    IsProper (temporaryFor token target) := by
  have hlast : Char.ofNat 0 ∉ (target.getLastD "").toList := by
    cases hlast : target.getLast? with
    | none => simp [List.getLastD_eq_getLast?, hlast]
    | some n =>
      rw [List.getLastD_eq_getLast?, hlast]
      exact (ht n (List.mem_of_getLast? hlast)).2
  intro n hn
  rcases List.mem_append.mp hn with hn | hn
  · exact ht n (List.dropLast_subset target hn)
  · obtain rfl := List.mem_singleton.mp hn
    refine ⟨fun h => ?_, ?_⟩
    · have hlength := congrArg String.length h
      have hdots : (".tmp" : String).length = 4 := rfl
      have hup : (".." : String).length = 2 := rfl
      simp only [String.length_append] at hlength
      omega
    · simp only [String.toList_append, List.mem_append, not_or]
      exact ⟨⟨⟨⟨by decide, hlast⟩, by decide⟩, htoken⟩, by decide⟩

/-- Opening a file puts an empty one at the place that the path leads to. If it fails, nothing
changes. -/
theorem openFile_leadsTo : LeadsTo (openFile here p) s
    (fun place s' => s.Reaches (p.start here) p.names place ∧ s' = s.put place (.file .empty))
    (fun f s' => s = s' ∧ (p.hasZero = false → f ≠ .zeroInName)) := by
  rw [leadsTo_iff, openFile]
  cases hlocate : s.locate here p with
  | error f => exact ⟨rfl, fun hp hf => locate_ne_zeroInName hp (hf ▸ hlocate)⟩
  | ok found =>
    obtain ⟨place, e⟩ := found
    have hreaches := (ends_of_locate hlocate).reaches
    match e with
    | some .directory => exact ⟨rfl, fun _ => nofun⟩
    | none | some (.file _) | some (.link _) => exact ⟨hreaches, rfl⟩

/-- Writing into a file puts the text there, or a part of it. -/
theorem fill_leadsTo : LeadsTo (fill place text) s
    (fun _ s' => s' = s.put place (.file text.toUTF8))
    (fun f s' => f = .writing .noRoom ∧ ∃ bytes, s' = s.put place (.file bytes)) := by
  rw [leadsTo_iff, fill]
  cases s.room place with
  | none => rfl
  | some n =>
    by_cases hroom : text.toUTF8.size ≤ n
    · simp only [if_pos hroom]
    · simp only [if_neg hroom]
      exact ⟨trivial, _, rfl⟩

theorem find?_put_put (s : FileSystem) (place other : Place) (e e' : Entry) :
    ((s.put place e).put place e').find? other = (s.put place e').find? other := by
  by_cases hother : other = place
  · by_cases hroot : place = []
    · rw [hother, hroot]
      rfl
    · rw [hother, find?_put_self hroot, find?_put_self hroot]
  · rw [find?_put_of_ne hother, find?_put_of_ne hother, find?_put_of_ne hother]

/-- Writing a file in place puts the text there. If it fails, nothing changes, or a part of the text
is there. -/
theorem overwrite_leadsTo : LeadsTo (overwrite here p text) s
    (fun _ s' => ∃ place, s.Reaches (p.start here) p.names place ∧
      ∀ q, s'.find? q = (s.put place (.file text.toUTF8)).find? q)
    (fun f s' => (p.hasZero = false → f ≠ .zeroInName) ∧ (s = s' ∨
      ∃ place bytes, s.Reaches (p.start here) p.names place ∧
        ∀ q, s'.find? q = (s.put place (.file bytes)).find? q)) := by
  refine (openFile_leadsTo.mono (fun _ _ h => h) fun f s' h => ⟨h.2, .inl h.1⟩).bind ?_
  rintro place _ ⟨hreaches, rfl⟩
  refine fill_leadsTo.mono ?_ ?_
  · rintro _ _ rfl
    exact ⟨place, hreaches, fun q => find?_put_put s place q _ _⟩
  · rintro _ _ ⟨rfl, bytes, rfl⟩
    exact ⟨fun _ => nofun, .inr ⟨place, bytes, hreaches, fun q => find?_put_put s place q _ _⟩⟩

/-- Moving a file puts it at its target, which is no directory. If it fails, nothing changes. -/
theorem move_leadsTo {source : Place} : LeadsTo (move source target) s
    (fun _ s' => s.find? target ≠ some .directory ∧
      ∃ e, s.find? source = some e ∧ s' = (s.remove source).put target e)
    (fun f s' => s = s' ∧ f ≠ .zeroInName) := by
  rw [leadsTo_iff, move]
  cases hsource : s.find? source with
  | none => exact ⟨rfl, nofun⟩
  | some e =>
    match htarget : s.find? target with
    | some .directory => exact ⟨rfl, nofun⟩
    | none | some (.file _) | some (.link _) => exact ⟨nofun, e, rfl, rfl⟩

/-- No link is on the way to the place of a temporary file, if none is on the way to the target and
nothing stands there. -/
theorem isSettled_temporaryFor (hsettled : s.IsSettled target)
    (hfresh : s.find? (temporaryFor token target) = none) :
    s.IsSettled (temporaryFor token target) :=
  (hsettled.of_prefix (List.dropLast_prefix target)).concat
    (link?_eq_none_of_find? fun p hp => by cases hfresh.symm.trans hp)

/-- Opening a temporary file, in the place of which nothing stands, puts an empty file there. -/
theorem openTemporary_leadsTo (ht : IsProper target) (hsettled : s.IsSettled target)
    (htoken : Char.ofNat 0 ∉ token.toList)
    (hfresh : s.find? (temporaryFor token target) = none) :
    LeadsTo (openFile [] (Path.ofPlace (temporaryFor token target))) s
      (fun place s' => place = temporaryFor token target ∧
        s' = s.put (temporaryFor token target) (.file .empty))
      (fun f s' => s = s' ∧ f ≠ .zeroInName) := by
  have htemporary := isProper_temporaryFor ht htoken
  refine openFile_leadsTo.mono ?_ fun f _ ⟨hsame, hf⟩ =>
    ⟨hsame, hf (Path.hasZero_ofPlace htemporary)⟩
  rintro place _ ⟨hreaches, rfl⟩
  obtain rfl := (isSettled_temporaryFor hsettled hfresh).eq_of_reaches htemporary hreaches
  exact ⟨rfl, rfl⟩

/-- Writing into a new file and moving it changes what it is moved to. Until then, or if it fails,
only the new file is changed. -/
theorem fill_move_leadsTo {source : Place} (hsource : source ≠ [])
    (hfresh : s.find? source = none) :
    LeadsTo (do fill source text; move source target) (s.put source (.file .empty))
      (fun _ s' => s'.find? target = some (.file text.toUTF8) ∧
        ∀ place, place ≠ target → s'.find? place = s.find? place)
      (fun f s' => f ≠ .zeroInName ∧
        ∀ place, place ≠ source → s'.find? place = s.find? place) := by
  refine (fill_leadsTo.mono (fun _ _ h => h) ?_).bind ?_
  · rintro _ _ ⟨rfl, bytes, rfl⟩
    exact ⟨nofun, fun place hplace => by rw [find?_put_of_ne hplace, find?_put_of_ne hplace]⟩
  · rintro _ _ rfl
    refine move_leadsTo.mono ?_ ?_
    · rintro _ _ ⟨hdirectory, e, he, rfl⟩
      obtain rfl : e = .file text.toUTF8 := by
        rw [find?_put_self hsource] at he
        exact (Option.some.inj he).symm
      have htarget : target ≠ [] := by
        rintro rfl
        exact hdirectory rfl
      refine ⟨find?_put_self htarget _ _, fun place hplace => ?_⟩
      rw [find?_put_of_ne hplace]
      by_cases hother : place = source
      · rw [hother, find?_remove_self hsource, hfresh]
      · rw [find?_remove_of_ne hother, find?_put_of_ne hother, find?_put_of_ne hother]
    · rintro f _ ⟨rfl, hf⟩
      exact ⟨hf, fun place hplace => by rw [find?_put_of_ne hplace, find?_put_of_ne hplace]⟩

/-- Writing a file by way of a temporary one, in the place of which nothing stands, changes the file
and no other. If it fails, even with a part of the text written, nothing changes. -/
theorem replaceFile_leadsTo (ht : IsProper target) (hsettled : s.IsSettled target)
    (htoken : Char.ofNat 0 ∉ token.toList)
    (hfresh : s.find? (temporaryFor token target) = none) :
    LeadsTo (replaceFile token target text) s
      (fun _ s' => s'.find? target = some (.file text.toUTF8) ∧
        ∀ place, place ≠ target → s'.find? place = s.find? place)
      (fun f s' => (∀ place, s'.find? place = s.find? place) ∧ f ≠ .zeroInName) := by
  have hnil := temporaryFor_ne_nil token target
  have hopen : LeadsTo (openFile [] (Path.ofPlace (temporaryFor token target))) s
      (fun place s' => place = temporaryFor token target ∧
        s' = s.put (temporaryFor token target) (.file .empty))
      (fun f s' => (∀ place, s'.find? place = s.find? place) ∧ f ≠ .zeroInName) :=
    (openTemporary_leadsTo ht hsettled htoken hfresh).mono (fun _ _ h => h)
      fun _ _ ⟨hsame, hf⟩ => ⟨fun _ => hsame ▸ rfl, hf⟩
  refine hopen.bind ?_
  rintro _ _ ⟨rfl, rfl⟩
  refine (fill_move_leadsTo hnil hfresh).tryCatch ?_
  rintro f s' ⟨hf, hothers⟩
  refine leadsTo_iff.mpr ⟨fun place => ?_, hf⟩
  by_cases hplace : place = temporaryFor token target
  · rw [hplace, find?_remove_self hnil, hfresh]
  · rw [find?_remove_of_ne hplace, hothers place hplace]

/-- Writing a file changes nothing else, but that directories are made on the way to it. If it
fails, no more than that happens. -/
theorem writeFile_leadsTo (ht : IsProper target) (hsettled : s.IsSettled target)
    (htoken : Char.ofNat 0 ∉ token.toList)
    (hfresh : s.find? (temporaryFor token target) = none) :
    LeadsTo (writeFile token target text) s
      (fun _ s' => s'.find? target = some (.file text.toUTF8) ∧
        ∀ place, place ≠ target → s'.find? place = s.find? place ∨
          place <+: target.dropLast ∧ s.find? place = none ∧ s'.find? place = some .directory)
      (fun f s' => OnlyMakes (· <+: target.dropLast) s s' ∧ f ≠ .zeroInName) := by
  have hparent : IsProper target.dropLast := ht.of_subset (List.dropLast_subset target)
  have hway : ∀ place, s.Passes [] (Path.ofPlace target.dropLast) place →
      place <+: target.dropLast := fun _ =>
    prefix_of_passes hparent (hsettled.of_prefix (List.dropLast_prefix target))
  have hmake : LeadsTo (makeDirectories [] (Path.ofPlace target.dropLast)) s
      (fun _ s' => OnlyMakes (· <+: target.dropLast) s s')
      (fun f s' => OnlyMakes (· <+: target.dropLast) s s' ∧ f ≠ .zeroInName) := by
    refine makeDirectories_leadsTo.mono (fun _ _ h => h.1.mono hway) fun f _ h => ?_
    exact ⟨h.1.mono hway, h.2 (Path.hasZero_ofPlace hparent)⟩
  refine hmake.bind fun _ s₁ h₁ => ?_
  have hfresh₁ : s₁.find? (temporaryFor token target) = none := by
    rcases h₁ (temporaryFor token target) with h | ⟨hway, -⟩
    · rw [h, hfresh]
    · have hlength := hway.length_le
      simp only [temporaryFor, List.length_append, List.length_singleton] at hlength
      omega
  refine (replaceFile_leadsTo ht (hsettled.congr h₁.link?_eq) htoken hfresh₁).mono ?_
    fun f _ h => ⟨h₁.congr h.1, h.2⟩
  rintro _ s' ⟨htarget, hothers⟩
  refine ⟨htarget, fun place hplace => ?_⟩
  rw [hothers place hplace]
  exact h₁ place

end FileAction

end ClientGen
