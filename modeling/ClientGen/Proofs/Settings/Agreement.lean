import ClientGen.Proofs.Settings.Directories
import ClientGen.Proofs.Settings.Precedence
import ClientGen.Source.Client

/-!
# Settings of two runs

The directory of the user is made before anything else is looked at, and nothing else changes on the
way to the settings. So two runs that make the same directory find the same settings, and the format
on their command lines decides about nothing else.

## Main definitions

* `ClientGen.lowerSettings`, `ClientGen.settingsOver` : the settings below the command line, and
  with it.

## Main results

* `ClientGen.resolveSettings_eq` : the three steps to the settings of a run.
* `ClientGen.agree_of_settingsOver` : settings with two formats.
* `ClientGen.agree_of_resolveSettings` : settings of two runs.
-/

namespace ClientGen

open ClientGen.Action

/-! ### The steps to the settings -/

/-- The settings in the file of the user, which is in the directory; the defaults if there is
none. -/
def userSettingsIn (directory : Path) : Action Settings := do
  match ← readObject .user (userFile directory) with
  | none => return {}
  | some v =>
    match Settings.ofValue v with
    | .ok s => return s
    | .error n => Action.fail (.badSettingsFile .user (userFile directory).display (.invalid n))

/-- The settings below the command line, the file of the user being in the directory. -/
def lowerSettings (directory : Path) : Action Value := do
  let user ← userSettingsIn directory
  let project ← projectSettings
  let data ← Action.ofFault (user.tree.merge (project.getD (.mapping [])))
  Action.ofFault (data.merge (← environmentLayer))

/-- The settings of a run, from those below the command line. -/
def settingsOver (flags : SettingFlags) (data : Value) : Action Settings := do
  match Settings.ofValue (← Action.ofFault (withFlags flags data)) with
  | .ok s => return s
  | .error n => Action.fail (.invalidSettings n)

/-- **The steps to the settings.** The directory of the user is made, what is below the command line
is looked at, and the command line is laid over it. -/
theorem resolveSettings_eq (flags : SettingFlags) : resolveSettings flags =
    settingsDirectory >>= fun directory => lowerSettings directory >>= settingsOver flags := by
  have huser : userSettings = settingsDirectory >>= userSettingsIn := rfl
  simp only [lowerSettings, bind_assoc]
  rw [resolveSettings, huser, bind_assoc]
  rfl

section Keeps

variable {R : World → World → Prop} [IsPreorder World R] {file : SettingsFile} {p : Path}

theorem keeps_readObject : Keeps R (readObject file p) := by
  refine .bind (.bind (.look _) fun _ => .bind (.ofFault _) fun e => ?_) fun b => ?_
  · split <;> exact .pure _
  · split
    · refine .bind (.look _) fun text => ?_
      split
      · exact .bind (.ofExcept _) fun _ => .pure _
      · split
        · exact .fail _
        · exact .throw _
    · exact .pure _

theorem keeps_environmentLayer : Keeps R environmentLayer := by
  have htext (name : String) : Keeps R (environmentText? name) := .bind (.see _) fun _ => .pure _
  refine .bind (htext _) fun _ => .bind (htext _) fun _ => .bind (htext _) fun _ => ?_
  split
  · exact .pure _
  · exact .fail _

theorem keeps_lowerSettings (directory : Path) : Keeps R (lowerSettings directory) := by
  refine .bind (.bind keeps_readObject fun v => ?_) fun user =>
    .bind (.bind (.see _) fun _ => keeps_readObject) fun project => .bind (.ofFault _) fun data =>
    .bind keeps_environmentLayer fun environment => .ofFault _
  split
  · exact .pure _
  · split
    · exact .pure _
    · exact .fail _

theorem keeps_settingsOver (flags : SettingFlags) (data : Value) :
    Keeps R (settingsOver flags data) := by
  refine .bind (.ofFault _) fun v => ?_
  split
  · exact .pure _
  · exact .fail _

theorem keeps_resolveSettings (h : Keeps R settingsDirectory) (flags : SettingFlags) :
    Keeps R (resolveSettings flags) := by
  rw [resolveSettings_eq]
  exact .bind h fun directory => .bind (keeps_lowerSettings directory) (keeps_settingsOver flags)

end Keeps

/-! ### Settings with two formats -/

section Agreement

variable {flags flags' : SettingFlags} {s s' : Settings} {data : Value} {w w' v v' u : World}

theorem IsRead.unique {α : Type} {read : Value → Option α} {default a b : α} {x : Option Value}
    (ha : IsRead read default x a) (hb : IsRead read default x b) : a = b := by
  cases x with
  | none => exact Eq.trans ha (Eq.symm hb)
  | some x => exact Option.some.inj (Eq.trans (Eq.symm ha) hb)

theorem settingsOver_eq_ok : settingsOver flags data w = .ok s w' ↔
    (∃ final, withFlags flags data = .ok final ∧ Settings.ofValue final = .ok s) ∧ w = w' := by
  simp only [settingsOver, bind_eq_ok, ofFault_eq_ok]
  constructor
  · rintro ⟨final, _, ⟨hfinal, rfl⟩, h⟩
    cases hs : Settings.ofValue final with
    | error n =>
      simp only [hs] at h
      cases h
    | ok s =>
      simp only [hs] at h
      obtain ⟨rfl, rfl⟩ := pure_eq_ok.mp h
      exact ⟨⟨final, hfinal, hs⟩, rfl⟩
  · rintro ⟨⟨final, hfinal, hs⟩, rfl⟩
    refine ⟨final, w, ⟨hfinal, rfl⟩, ?_⟩
    simp only [hs]
    rfl

/-- **Settings with two formats** collect operations and fetch documents in the same way. -/
theorem agree_of_settingsOver (hcontroller : flags.defaultController = flags'.defaultController)
    (hmarker : flags.internalMarker = flags'.internalMarker)
    (h : settingsOver flags data w = .ok s w') (h' : settingsOver flags' data v = .ok s' v') :
    s.projection = s'.projection ∧ s.fetch = s'.fetch := by
  obtain ⟨⟨final, hfinal, hs⟩, -⟩ := settingsOver_eq_ok.mp h
  obtain ⟨⟨final', hfinal', hs'⟩, -⟩ := settingsOver_eq_ok.mp h'
  have hwords (es : Table Scalar Value) : withWords flags es = withWords flags' es := by
    rw [withWords, withWords, hcontroller, hmarker]
  have hkeys (key : String) (hkey : key ≠ "output") : final.get? key = final'.get? key := by
    -- whatever is no mapping has the entries of an empty one
    have hentries : (Value.mapping (data.entries?.getD [])).entries? =
      some (data.entries?.getD []) := rfl
    rw [(get?_of_withFlags hentries hfinal).2.1 key hkey,
      (get?_of_withFlags hentries hfinal').2.1 key hkey, hwords]
  obtain ⟨-, -, hshows⟩ := Settings.ofValue_eq_ok.mp hs
  obtain ⟨-, -, hshows'⟩ := Settings.ofValue_eq_ok.mp hs'
  have hlayer (k : Setting) (hk : k ≠ .format) : final.layer k = final'.layer k := by
    have hpath (key : String) (path : List String) (hkey : key ≠ "output") :
        final.at? (key :: path) = final'.at? (key :: path) := by
      rw [Value.at?, Value.at?, hkeys key hkey]
    cases k with
    | format => exact absurd rfl hk
    | defaultController | internalMarker | timeout | accept | followRedirects =>
      exact hpath _ _ (by decide)
  have heq {α : Type} {read : Value → Option α} {default a b : α} {k : Setting}
      (ha : IsRead read default (final.layer k) a) (hk : k ≠ .format)
      (hb : IsRead read default (final'.layer k) b) : a = b :=
    ha.unique (hlayer k hk ▸ hb)
  constructor
  · simp only [Settings.projection, Projection.mk.injEq]
    exact ⟨heq hshows.defaultController (by decide) hshows'.defaultController,
      heq hshows.internalMarker (by decide) hshows'.internalMarker⟩
  · change FetchSettings.mk s.fetch.timeout s.fetch.accept s.fetch.followRedirects =
      FetchSettings.mk s'.fetch.timeout s'.fetch.accept s'.fetch.followRedirects
    rw [FetchSettings.mk.injEq]
    exact ⟨heq hshows.timeout (by decide) hshows'.timeout,
      heq hshows.accept (by decide) hshows'.accept,
      heq hshows.followRedirects (by decide) hshows'.followRedirects⟩

/-- **Settings of two runs** that make the same directory of the user. -/
theorem agree_of_resolveSettings (hcontroller : flags.defaultController = flags'.defaultController)
    (hmarker : flags.internalMarker = flags'.internalMarker) {directory : Path}
    (hdirectory : settingsDirectory w = .ok directory u)
    (hdirectory' : settingsDirectory v = .ok directory u)
    (h : resolveSettings flags w = .ok s w') (h' : resolveSettings flags' v = .ok s' v') :
    w' = u ∧ v' = u ∧ s.projection = s'.projection ∧ s.fetch = s'.fetch := by
  rw [resolveSettings_eq, bind_of_ok hdirectory, bind_eq_ok] at h
  rw [resolveSettings_eq, bind_of_ok hdirectory', bind_eq_ok] at h'
  obtain ⟨data, u₁, hdata, hs⟩ := h
  obtain ⟨data', u₂, hdata', hs'⟩ := h'
  obtain rfl : u = u₁ := (keeps_lowerSettings directory u).of_ok hdata
  obtain ⟨rfl, rfl⟩ := EStateM.Result.ok.inj (hdata.symm.trans hdata')
  obtain rfl : u = w' := (keeps_settingsOver flags data u).of_ok hs
  obtain rfl : u = v' := (keeps_settingsOver flags' data u).of_ok hs'
  exact ⟨rfl, rfl, agree_of_settingsOver hcontroller hmarker hs hs'⟩

end Agreement

end ClientGen
