import ClientGen.Proofs.Settings.Precedence

/-!
# Faults on the way to the settings

Settings that are of no use are a failure about settings, in whichever layer they stand, with four
exceptions: files whose bytes write no text, or whose text is nested too deeply or has too long a
number, and a format on the command line that meets a file of the project with something else than
a mapping in place of its group. Then a run of the tool comes to a fault, as it does if the
directory of the user cannot be made.

## Main definitions

* `ClientGen.Derails` : how a run comes to a fault on the way to its settings.

## Main results

* `ClientGen.outcome_of_resolveSettings` : every failure is about settings, and every fault has one
  of these causes.
-/

namespace ClientGen

open ClientGen.Action

variable {flags : SettingFlags} {w w' : World} {f : Fault} {v : Value}

/-! ### The environment -/

theorem environmentFields_eq_error {controller marker timeout : Option String} {g : Failure}
    (h : environmentFields controller marker timeout = .error g) : g.ConcernsSettings := by
  unfold environmentFields at h
  cases timeout with
  | none => cases h
  | some s =>
    cases hx : Decimal.looseFloat? s.toList with
    | some x =>
      simp only [hx] at h
      cases h
    | none =>
      simp only [hx] at h
      obtain ⟨⟩ := h
      rfl

theorem failsOnly_environmentLayer : FailsOnly Failure.ConcernsSettings environmentLayer := by
  intro w g w' h
  rw [environmentLayer_eq] at h
  split at h
  · cases h
  · rename_i hfields
    cases h
    exact environmentFields_eq_error hfields

theorem environmentLayer_ne_fault : environmentLayer w ≠ .error (.fault f) w' := by
  rw [environmentLayer_eq]
  split <;> nofun

/-! ### Runs that come to a fault -/

/-- How a run comes to a fault on the way to its settings: the layers are looked at in turn, so the
layers in front of the one with the fault are of use. -/
inductive Derails (flags : SettingFlags) (w : World) : Fault → Prop
  /-- The directory of the user cannot be made. -/
  | directory {w' : World} {f : Fault} (h : settingsDirectory w = .error (.fault f) w') :
      Derails flags w f
  /-- The file of the user. -/
  | user {w' : World} {directory : Path} {f : Fault}
      (hdirectory : settingsDirectory w = .ok directory w')
      (h : Garbles w' (userFile directory) f) : Derails flags w f
  /-- The file of the project. -/
  | project {w' : World} {directory : Path} {user : Option Value} {u : Settings} {f : Fault}
      (hdirectory : settingsDirectory w = .ok directory w')
      (huser : Says w' (userFile directory) user)
      (hvalid : Settings.ofValue (user.getD (.mapping [])) = .ok u)
      (h : Garbles w' (projectFile w) f) : Derails flags w f
  /-- The format on the command line has no group that it can be put into. -/
  | format {w' : World} {user : Option Value} {u : Settings} {project x : Value}
      (hfiles : FindsFiles w w' user (some project))
      (hvalid : Settings.ofValue (user.getD (.mapping [])) = .ok u) (htime : w.HasTimeLimit)
      (hflag : flags.format.isSome = true) (hx : project.get? "output" = some x)
      (hgroup : x.isMapping = false) : Derails flags w .missingEntry

theorem failsOnly_resolveSettings (flags : SettingFlags) :
    FailsOnly Failure.ConcernsSettings (resolveSettings flags) := by
  have hproject : FailsOnly Failure.ConcernsSettings projectSettings :=
    .bind (.see _) fun _ => failsOnly_readObject
  refine .bind failsOnly_userSettings fun user => .bind hproject fun project =>
    .bind (.ofFault _) fun data => .bind failsOnly_environmentLayer fun environment =>
    .bind (.ofFault _) fun merged => .bind (.ofFault _) fun final => ?_
  split
  · exact .pure _
  · exact .fail rfl

/-- A run that comes to a fault has come to one in a file, or has found files of use. -/
theorem cases_of_resolveSettings_eq_fault
    (h : resolveSettings flags w = .error (.fault f) w') :
    Derails flags w f ∨ ∃ v user project, FindsFiles w v user project ∧
      (∃ u, Settings.ofValue (user.getD (.mapping [])) = .ok u) ∧ w.HasTimeLimit := by
  simp only [resolveSettings, bind_eq_error, userSettings_eq_fault, userSettings_eq_ok,
    projectSettings_eq, readObject_eq_fault, readObject_eq_ok, ofFault_eq_error, ofFault_eq_ok,
    environmentLayer_eq_ok, environmentLayer_ne_fault, false_or] at h
  rcases h with (hdirectory | ⟨directory, hdirectory, hgarbles⟩) |
    ⟨u, v, ⟨directory, user, hdirectory, huser, hu⟩, h⟩
  · exact .inl (.directory hdirectory)
  · exact .inl (.user hdirectory hgarbles)
  obtain ⟨hpath, -, htime⟩ := sees_of_settingsDirectory hdirectory
  rcases h with ⟨hgarbles, rfl⟩ | ⟨project, _, ⟨hproject, rfl⟩, h⟩
  · exact .inl (.project hdirectory huser hu (hpath ▸ hgarbles))
  obtain ⟨_, _, hdata, -⟩ := exists_merges u hproject.isMapping v
  rcases h with ⟨⟨g, hg, -⟩, -⟩ | ⟨_, _, ⟨-, rfl⟩, _, _, ⟨hlimit, -, -⟩, -⟩
  · cases hdata.symm.trans hg
  · exact .inr ⟨v, user, project, ⟨⟨directory, hdirectory, huser⟩, hpath ▸ hproject⟩, ⟨u, hu⟩,
      htime.mp hlimit⟩

theorem resolveSettings_eq_fault :
    (∃ w', resolveSettings flags w = .error (.fault f) w') ↔ Derails flags w f := by
  constructor
  · rintro ⟨w', h⟩
    rcases cases_of_resolveSettings_eq_fault h with h | ⟨v, user, project, hfiles, ⟨u, hu⟩, htime⟩
    · exact h
    obtain ⟨data, merged, hdata, hmerged, heq⟩ := exists_merged_of_findsFiles hfiles hu htime flags
    rw [heq] at h
    cases hfinal : withFlags flags merged with
    | ok final =>
      rw [hfinal] at h
      dsimp only at h
      split at h <;> cases h
    | error g =>
      rw [hfinal] at h
      cases h
      obtain ⟨rfl, hflag, _, rfl, x, hx, hgroup⟩ :=
        (withFlags_merges_eq_error hdata hmerged).mp hfinal
      exact .format hfiles hu htime hflag hx hgroup
  · rintro (h | ⟨hdirectory, h⟩ | ⟨hdirectory, huser, hu, h⟩ |
      ⟨hfiles, hu, htime, hflag, hx, hgroup⟩)
    · exact ⟨_, bind_of_error (userSettings_eq_fault.mpr (.inl h))⟩
    · exact ⟨_, bind_of_error (userSettings_eq_fault.mpr (.inr ⟨_, hdirectory, h⟩))⟩
    · rename_i w' _ _ _
      have hproject : projectSettings w' = .error (.fault f) w' := by
        rw [projectSettings_eq, (sees_of_settingsDirectory hdirectory).1]
        exact readObject_eq_fault.mpr ⟨h, rfl⟩
      exact ⟨w', (bind_of_ok (userSettings_eq_ok.mpr ⟨_, _, hdirectory, huser, hu⟩)).trans
        (bind_of_error hproject)⟩
    · rename_i w' user u project x
      obtain ⟨data, merged, hdata, hmerged, heq⟩ :=
        exists_merged_of_findsFiles hfiles hu htime flags
      have hfinal := (withFlags_merges_eq_error hdata hmerged).mpr
        ⟨rfl, hflag, project, rfl, x, hx, hgroup⟩
      exact ⟨w', by rw [heq, hfinal]⟩

/-- **Faults on the way to the settings.** Every failure is about settings. A run comes to a fault
exactly if it cannot make the directory of the user, a file cannot be read for a reason that no
message is worded for, or the format on the command line has no place to go. -/
theorem outcome_of_resolveSettings (flags : SettingFlags) (w : World) :
    (∀ g w', resolveSettings flags w = .error (.failure g) w' → g.ConcernsSettings) ∧
      ∀ f, (∃ w', resolveSettings flags w = .error (.fault f) w') ↔ Derails flags w f :=
  ⟨fun g w' h => failsOnly_resolveSettings flags w g w' h, fun _ => resolveSettings_eq_fault⟩

/-- A world in which the file of the user holds the bytes. -/
def userWorld (bytes : ByteArray) : World where
  files := { entries := [(["cfg"], .directory), (["cfg", "sdkmaker"], .directory),
    (["cfg", "sdkmaker", "config.json"], .file bytes)] }
  environment := [("XDG_CONFIG_HOME", "/cfg")]
  token := ""
  now := ""

/-- A world in which the file of the project holds the text. -/
def projectWorld (text : String) : World where
  files := { entries := [(["cfg"], .directory), (["work"], .directory),
    (["work", "sdkmaker.json"], .file text.toUTF8)] }
  here := ["work"]
  environment := [("XDG_CONFIG_HOME", "/cfg")]
  token := ""
  now := ""

/-- A world in which the path of the home directory is itself said in terms of one. -/
def homelessWorld : World where
  environment := [("HOME", "~")]
  token := ""
  now := ""

/-- Settings of no use may be no failure: not bytes that write no text, not a format that has no
place to go, and not a home directory that is none. -/
theorem not_outcome_of_resolveSettings :
    (∃ w', resolveSettings {} (userWorld ⟨#[0xff]⟩) = .error (.fault .undecodableText) w') ∧
      (∃ w', resolveSettings { format := some "json" } (projectWorld "\x7b\"output\":5\x7d") =
        .error (.fault .missingEntry) w') ∧
      ∃ w', resolveSettings {} homelessWorld = .error (.fault .noHome) w' := by
  decide +kernel

end ClientGen
