import Mathlib.Order.Defs.Unbundled
import ClientGen.Proofs.Steps
import ClientGen.Proofs.World.Files
import ClientGen.Settings.Directories

/-!
# Making the directories of the tool

The directories of the settings and of the logs hang on the environment only. Making one of them
makes directories on the way to it, where nothing stood, and does nothing the second time.

## Main definitions

* `ClientGen.Action.Keeps` : a step leaves a world that is related to the one before it.
* `ClientGen.World.settingsPath`, `ClientGen.World.dataPath` : the paths of the directories.
* `ClientGen.World.Passes`, `ClientGen.World.Reaches` : places on the way along a path, and where it
  leads.

## Main results

* `ClientGen.toolDirectory_eq` : the path of a directory is looked up, and the directory is made.
* `ClientGen.toolDirectory_leadsTo` : making a directory of the tool.
* `ClientGen.toolDirectory_again` : making it again.
-/

namespace ClientGen

open FileSystem (OnlyMakes)

/-! ### What steps keep -/

namespace Action

section Keeps

variable {R R' : World → World → Prop} {α β : Type} {x : Action α} {f : α → Action β}

/-- The world after the step is related to the one before it, whether the step gives a value or
stops. -/
def Keeps (R : World → World → Prop) (x : Action α) : Prop :=
  ∀ w, LeadsTo x w (fun _ w' => R w w') (fun _ w' => R w w')

namespace Keeps

theorem mono (h : Keeps R x) (hR : ∀ w w', R w w' → R' w w') : Keeps R' x := fun w =>
  (h w).mono (fun _ _ => hR _ _) fun _ _ => hR _ _

theorem bind [IsTrans World R] (hx : Keeps R x) (hf : ∀ a, Keeps R (f a)) : Keeps R (x >>= f) :=
  fun w => (hx w).bind fun a v hv =>
    (hf a v).mono (fun _ _ h => trans_of R hv h) fun _ _ h => trans_of R hv h

theorem tryCatch [IsTrans World R] {g : Problem → Action α} (hx : Keeps R x)
    (hg : ∀ p, Keeps R (g p)) : Keeps R (tryCatch x g) := fun w =>
  (hx w).tryCatch fun p v hv =>
    (hg p v).mono (fun _ _ h => trans_of R hv h) fun _ _ h => trans_of R hv h

variable [Std.Refl R]

theorem pure (a : α) : Keeps R (Pure.pure a : Action α) := fun w => .pure (refl w)

theorem throw (p : Problem) : Keeps R (MonadExcept.throw p : Action α) := fun w => .throw (refl w)

theorem fail (g : Failure) : Keeps R (fail g : Action α) := throw _

theorem see (g : World → α) : Keeps R (see g) := fun w => leadsTo_iff.mpr (refl w)

theorem ofExcept (y : Except Problem α) : Keeps R (ofExcept y) := fun w => by
  rw [leadsTo_iff]
  cases y <;> exact refl w

theorem ofFault (y : Except Fault α) : Keeps R (ofFault y) := ofExcept _

theorem look (g : FileSystem → Place → Except Fault α) : Keeps R (look g) := see _

end Keeps

end Keeps

theorem leadsTo_see_bind {α β : Type} {g : World → α} {f : α → Action β} {w : World}
    {Q : β → World → Prop} {E : Problem → World → Prop} (h : LeadsTo (f (g w)) w Q E) :
    LeadsTo (see g >>= f) w Q E := by
  rwa [leadsTo_iff, see_bind, ← leadsTo_iff]

/-- An operation on the files changes nothing else. -/
theorem onFiles_leadsTo {α : Type} {x : FileAction α} {w : World} {Q : α → FileSystem → Prop}
    {E : Fault → FileSystem → Prop} (h : LeadsTo x w.files Q E) : LeadsTo (onFiles x) w
      (fun a w' => w' = { w with files := w'.files } ∧ Q a w'.files)
      (fun p w' => w' = { w with files := w'.files } ∧ ∃ f, p = .fault f ∧ E f w'.files) := by
  have hattempt : LeadsTo (attempt x) w
      (fun y w' => w' = { w with files := w'.files } ∧
        (∀ a, y = .ok a → Q a w'.files) ∧ ∀ f, y = .error f → E f w'.files)
      (fun _ _ => False) := by
    rw [leadsTo_iff, attempt]
    cases hx : x w.files with
    | ok a s =>
      refine ⟨rfl, ?_, nofun⟩
      rintro _ ⟨⟩
      exact h.of_ok hx
    | error f s =>
      refine ⟨rfl, nofun, ?_⟩
      rintro _ ⟨⟩
      exact h.of_error hx
  refine (hattempt.mono (fun _ _ h => h) fun _ _ => False.elim).bind ?_
  rintro (f | a) w' ⟨hrest, hok, herror⟩
  · exact .throw ⟨hrest, f, rfl, herror f rfl⟩
  · exact .pure ⟨hrest, hok a rfl⟩

end Action

/-! ### Paths of directories -/

/-- The path with some names in the home directory. -/
def World.inHome (w : World) (names : List String) : Except Fault Path :=
  (homePath ((w.environment.get? "HOME").getD w.accountHome)).map fun home =>
    names.foldl Path.child home

/-- The path of a base directory: the one that is named, or a fixed one in the home directory. -/
def World.basePath (w : World) (named : Option String) (fixed : List String) : Except Fault Path :=
  match named with
  | some s => if s.isEmpty then w.inHome fixed else .ok (Path.parse s)
  | none => w.inHome fixed

/-- The path of a directory of the tool. -/
def World.toolPath (w : World) (named : String) (fixed further : List String) :
    Except Fault Path :=
  if followsBaseDirectories w.platform then
    (w.basePath (w.environment.get? named) fixed).map (·.child toolName)
  else w.inHome (("." ++ toolName) :: further)

/-- The path of the directory of the settings of the user. -/
def World.settingsPath (w : World) : Except Fault Path :=
  w.toolPath "XDG_CONFIG_HOME" [".config"] []

/-- The path of the directory of logs. -/
def World.dataPath (w : World) : Except Fault Path :=
  w.toolPath "XDG_DATA_HOME" [".local", "share"] ["logs"]

/-- The place is on the way along a path, if there is one. -/
def World.Passes (w : World) (path : Except Fault Path) (place : Place) : Prop :=
  ∃ p, path = .ok p ∧ w.files.Passes w.here p place

/-- The path leads to the place. -/
def World.Reaches (w : World) (p : Path) (place : Place) : Prop :=
  w.files.Reaches (p.start w.here) p.names place

section Links

variable {w w' : World} (hhere : w'.here = w.here)
  (hlinks : ∀ place, w'.files.link? place = w.files.link? place)

include hhere hlinks

/-- Only what is a link decides what is on the way. -/
theorem World.passes_congr (path : Except Fault Path) : w'.Passes path = w.Passes path := by
  funext place
  simp only [World.Passes, hhere, FileSystem.passes_congr hlinks]

theorem World.Reaches.congr {p : Path} {place : Place} (h : w'.Reaches p place) :
    w.Reaches p place := by
  have hreaches := FileSystem.Reaches.congr (fun q => (hlinks q).symm) h
  rwa [hhere] at hreaches

end Links

section Directories

open ClientGen.Action

variable {w w' : World} {named : String} {fixed further : List String} {p : Path}

theorem bind_congr_left {α β : Type} {x y : Action α} (h : x w = y w) (f : α → Action β) :
    (x >>= f) w = (y >>= f) w := by
  change EStateM.bind x f w = EStateM.bind y f w
  rw [EStateM.bind, EStateM.bind, h]

theorem ofFault_map_bind {α β γ : Type} (y : Except Fault α) (g : α → β) (f : β → Action γ) :
    (ofFault (y.map g) >>= f) w = (ofFault y >>= fun a => f (g a)) w := by
  cases y <;> rfl

theorem inHome_eq (names : List String) : inHome names w = ofFault (w.inHome names) w := by
  have hnamed : setting? "HOME" w = .ok (w.environment.get? "HOME") w := rfl
  have haccount : see (·.accountHome) w = .ok w.accountHome w := rfl
  rw [inHome, bind_of_ok hnamed, bind_of_ok haccount, World.inHome]
  cases homePath ((w.environment.get? "HOME").getD w.accountHome) <;> rfl

theorem baseDirectory_eq (base : Option String) (fixed : List String) :
    baseDirectory base fixed w = ofFault (w.basePath base fixed) w := by
  unfold baseDirectory World.basePath
  cases base with
  | none => exact inHome_eq fixed
  | some s =>
    dsimp only
    split
    · exact inHome_eq fixed
    · rfl

/-- **Directories of the tool.** The path of a directory is looked up, and the directory is made. -/
theorem toolDirectory_eq (w : World) (named : String) (fixed further : List String) :
    toolDirectory named fixed further w =
      (ofFault (w.toolPath named fixed further) >>= madeDirectory) w := by
  have hsee : toolDirectory named fixed further w =
      (if followsBaseDirectories w.platform then
        baseDirectory (w.environment.get? named) fixed >>= fun base =>
          madeDirectory (base.child toolName)
      else inHome (("." ++ toolName) :: further) >>= madeDirectory : Action Path) w := by
    unfold toolDirectory
    rw [see_bind]
    split <;> rfl
  rw [hsee, World.toolPath]
  split
  · rw [ofFault_map_bind]
    exact bind_congr_left (baseDirectory_eq _ fixed) _
  · exact bind_congr_left (inHome_eq _) _

/-- Making a directory makes it, and those on the way to it, where nothing stood. -/
theorem madeDirectory_leadsTo : LeadsTo (madeDirectory p) w
    (fun q w' => q = p ∧ w' = { w with files := w'.files } ∧
      OnlyMakes (w.files.Passes w.here p) w.files w'.files ∧
      w'.files.status w.here p = .ok (some .directory))
    (fun _ w' => w' = { w with files := w'.files } ∧
      OnlyMakes (w.files.Passes w.here p) w.files w'.files) := by
  have hmake : madeDirectory p w =
      (onFiles (FileAction.makeDirectories w.here p) >>= fun _ => pure p) w := rfl
  rw [leadsTo_iff, hmake, ← leadsTo_iff]
  refine ((onFiles_leadsTo FileAction.makeDirectories_leadsTo).mono (fun _ _ h => h) ?_).bind ?_
  · rintro _ w' ⟨hrest, _, -, hmade, -⟩
    exact ⟨hrest, hmade⟩
  · rintro _ w' ⟨hrest, hmade, hstatus⟩
    exact .pure ⟨rfl, hrest, hmade, hstatus⟩

/-- Making a directory that is there does nothing. -/
theorem madeDirectory_of_status (h : w.files.status w.here p = .ok (some .directory)) :
    madeDirectory p w = .ok p w := by
  have hattempt : onFiles (FileAction.makeDirectories w.here p) w = .ok () w := by
    have hmake : attempt (FileAction.makeDirectories w.here p) w = .ok (Except.ok ()) w := by
      rw [attempt, FileAction.makeDirectories_of_status h]
    exact bind_of_ok hmake
  have hmake : madeDirectory p w =
      (onFiles (FileAction.makeDirectories w.here p) >>= fun _ => pure p) w := rfl
  rw [hmake, bind_of_ok hattempt]
  rfl

/-- Making a directory of the tool changes nothing but that directories are made on the way to
it. -/
theorem toolDirectory_leadsTo : LeadsTo (toolDirectory named fixed further) w
    (fun d w' => w.toolPath named fixed further = .ok d ∧ w' = { w with files := w'.files } ∧
      OnlyMakes (w.Passes (w.toolPath named fixed further)) w.files w'.files ∧
      w'.files.status w.here d = .ok (some .directory))
    (fun _ w' => w' = { w with files := w'.files } ∧
      OnlyMakes (w.Passes (w.toolPath named fixed further)) w.files w'.files) := by
  rw [leadsTo_iff, toolDirectory_eq, ← leadsTo_iff]
  have hlookup : LeadsTo (ofFault (w.toolPath named fixed further)) w
      (fun p w' => w = w' ∧ w.toolPath named fixed further = .ok p)
      (fun _ w' => w' = { w with files := w'.files } ∧
        OnlyMakes (w.Passes (w.toolPath named fixed further)) w.files w'.files) := by
    rw [leadsTo_iff]
    cases hpath : w.toolPath named fixed further with
    | ok p => exact ⟨rfl, rfl⟩
    | error f => exact ⟨rfl, .refl _⟩
  refine hlookup.bind ?_
  rintro p _ ⟨rfl, hpath⟩
  have hway : ∀ place, w.files.Passes w.here p place →
      w.Passes (w.toolPath named fixed further) place := fun place h => ⟨p, hpath, h⟩
  refine madeDirectory_leadsTo.mono ?_ fun _ _ h => ⟨h.1, h.2.mono hway⟩
  rintro _ w' ⟨rfl, hrest, hmade, hstatus⟩
  exact ⟨hpath, hrest, hmade.mono hway, hstatus⟩

/-- Making a directory of the tool again does nothing. -/
theorem toolDirectory_again {d : Path} (h : toolDirectory named fixed further w = .ok d w') :
    toolDirectory named fixed further w' = .ok d w' := by
  obtain ⟨hpath, hrest, -, hstatus⟩ := toolDirectory_leadsTo.of_ok h
  have hpath' : w'.toolPath named fixed further = .ok d := by
    rw [hrest]
    exact hpath
  have hhere : w'.here = w.here := by rw [hrest]
  rw [toolDirectory_eq, hpath']
  exact (bind_of_ok rfl).trans (madeDirectory_of_status (hhere ▸ hstatus))

end Directories

end ClientGen
