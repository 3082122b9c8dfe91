import ClientGen.Proofs.Settings.Directories
import ClientGen.Proofs.Settings.Files
import ClientGen.Proofs.Settings.Reading

/-!
# Which layer of settings wins

Every setting of a run is read from the highest layer that sets it, whatever the layers set beside
it: the command line is above the environment, this above the file of the project, and this above
the file of the user. A setting that no layer sets has its default.

## Main definitions

* `ClientGen.World.layer`, `ClientGen.SettingFlags.layer`, `ClientGen.fileLayer` : what the
  environment, the command line and a file set.
* `ClientGen.FindsFiles` : what the files of settings say in a run.
* `ClientGen.highest` : what the highest layers set.

## Main results

* `ClientGen.layer_of_merges`, `ClientGen.layer_of_withFlags` : two layers laid over each other.
* `ClientGen.resolveSettings_eq_ok_iff` : the settings of a run.
-/

namespace ClientGen

open ClientGen.Action

/-! ### The environment -/

/-- A variable of the environment; an empty text sets nothing. -/
def World.environmentText? (w : World) (name : String) : Option String :=
  (w.environment.get? name).filter (!·.isEmpty)

/-- What a controller, a mark and a time limit set. -/
def environmentSetting (controller marker : Option String) (time : Option Float) : Layer
  | .defaultController => controller.map Value.text
  | .internalMarker => marker.map Value.text
  | .timeout => time.map fun x => .scalar (.float x)
  | .accept | .followRedirects | .format => none

/-- What the environment sets. A time limit is the number that its text writes. -/
def World.layer (w : World) : Layer :=
  environmentSetting (w.environmentText? "SDKMAKER_DEFAULT_CONTROLLER")
    (w.environmentText? "SDKMAKER_INTERNAL_MARKER")
    ((w.environmentText? "SDKMAKER_FETCH_TIMEOUT").bind fun s => Decimal.looseFloat? s.toList)

/-- The time limit in the environment is a number, if it is set. -/
def World.HasTimeLimit (w : World) : Prop :=
  ∀ s ∈ w.environmentText? "SDKMAKER_FETCH_TIMEOUT", (Decimal.looseFloat? s.toList).isSome = true

section Environment

variable {controller marker : Option String} {time : Option Float} {w w' : World} {v : Value}

/-- The fields for a controller, a mark and a time limit. -/
def fieldsFor (controller marker : Option String) (time : Option Float) : Fields :=
  (controller.map fun s => ("default_controller", Value.text s)).toList ++
    (marker.map fun s => ("internal_marker", Value.text s)).toList ++
    (time.map fun x => ("fetch", Value.ofFields [("timeout", .scalar (.float x))])).toList

theorem environmentFields_eq_ok {timeout : Option String} {fs : Fields} :
    environmentFields controller marker timeout = .ok fs ↔
      (∀ s ∈ timeout, (Decimal.looseFloat? s.toList).isSome = true) ∧
        fs = fieldsFor controller marker (timeout.bind fun s => Decimal.looseFloat? s.toList) := by
  unfold environmentFields fieldsFor
  cases timeout with
  | none =>
    constructor
    · rintro ⟨⟩
      exact ⟨nofun, rfl⟩
    · rintro ⟨-, rfl⟩
      rfl
  | some s =>
    cases hx : Decimal.looseFloat? s.toList with
    | none =>
      refine iff_of_false (by simp only [hx]; nofun) fun h => ?_
      have hsome := h.1 s rfl
      rw [hx] at hsome
      cases hsome
    | some x =>
      simp only [hx, Option.bind_some]
      constructor
      · rintro ⟨⟩
        exact ⟨by rintro _ ⟨⟩; rw [hx]; rfl, rfl⟩
      · rintro ⟨-, rfl⟩
        rfl

theorem layer_fieldsFor : (Value.ofFields (fieldsFor controller marker time)).layer =
    environmentSetting controller marker time := by
  funext k
  cases controller <;> cases marker <;> cases time <;> cases k <;> rfl

theorem isGrouped_fieldsFor : (Value.ofFields (fieldsFor controller marker time)).IsGrouped := by
  intro key hkey x hx
  rcases List.mem_pair.mp hkey with rfl | rfl <;>
    cases controller <;> cases marker <;> cases time <;> cases hx <;> rfl

theorem get?_output_fieldsFor :
    (Value.ofFields (fieldsFor controller marker time)).get? "output" = none := by
  cases controller <;> cases marker <;> cases time <;> rfl

theorem isShallow_fieldsFor :
    Value.IsShallow Value.commonDepth (Value.ofFields (fieldsFor controller marker time)) := by
  constructor
  · cases controller <;> cases marker <;> cases time <;> rfl
  · cases controller <;> cases marker <;> cases time <;> exact Nat.le_of_ble_eq_true rfl

theorem isMapping_environmentSetting {k : Setting} {x : Value}
    (h : x ∈ environmentSetting controller marker time k) : x.isMapping = false := by
  cases k with
  | defaultController | internalMarker | timeout =>
    obtain ⟨_, -, rfl⟩ := Option.map_eq_some_iff.mp h
    rfl
  | accept | followRedirects | format => cases h

/-- The fields of what the environment sets. -/
def World.fields (w : World) : Fields :=
  fieldsFor (w.environmentText? "SDKMAKER_DEFAULT_CONTROLLER")
    (w.environmentText? "SDKMAKER_INTERNAL_MARKER")
    ((w.environmentText? "SDKMAKER_FETCH_TIMEOUT").bind fun s => Decimal.looseFloat? s.toList)

theorem environmentLayer_eq (w : World) : environmentLayer w =
    match environmentFields (w.environmentText? "SDKMAKER_DEFAULT_CONTROLLER")
      (w.environmentText? "SDKMAKER_INTERNAL_MARKER")
      (w.environmentText? "SDKMAKER_FETCH_TIMEOUT") with
    | .ok fs => .ok (.ofFields fs) w
    | .error g => .error (.failure g) w := by
  have htext (name : String) : environmentText? name w = .ok (w.environmentText? name) w := rfl
  unfold environmentLayer
  rw [bind_of_ok (htext _), bind_of_ok (htext _), bind_of_ok (htext _)]
  cases environmentFields (w.environmentText? "SDKMAKER_DEFAULT_CONTROLLER")
    (w.environmentText? "SDKMAKER_INTERNAL_MARKER")
    (w.environmentText? "SDKMAKER_FETCH_TIMEOUT") <;> rfl

theorem environmentLayer_eq_ok : environmentLayer w = .ok v w' ↔
    w.HasTimeLimit ∧ v = .ofFields w.fields ∧ w = w' := by
  rw [environmentLayer_eq]
  split
  · rename_i fs hfields
    obtain ⟨hlimit, rfl⟩ := environmentFields_eq_ok.mp hfields
    rw [EStateM.Result.ok.injEq]
    exact ⟨fun h => ⟨hlimit, h.1.symm, h.2⟩, fun h => ⟨h.2.1.symm, h.2.2⟩⟩
  · rename_i g hfields
    refine iff_of_false nofun fun h => ?_
    cases hfields.symm.trans (environmentFields_eq_ok.mpr ⟨h.1, rfl⟩)

end Environment

/-! ### The command line -/

/-- What the command line sets. -/
def SettingFlags.layer (flags : SettingFlags) : Layer
  | .defaultController => flags.defaultController.map Value.text
  | .internalMarker => flags.internalMarker.map Value.text
  | .format => flags.format.map Value.text
  | .timeout | .accept | .followRedirects => none

section Flags

variable {flags : SettingFlags} {v u : Value} {es os : Table Scalar Value}

theorem get?_insert_text (key : String) (x : Value) (es : Table Scalar Value) (other : String) :
    (Value.mapping (es.insert (.text key) x)).get? other =
      if other = key then some x else (Value.mapping es).get? other := by
  by_cases h : other = key
  · subst h
    rw [if_pos rfl]
    exact Table.get?_insert_self _ _ _
  · rw [if_neg h]
    exact Table.get?_insert_of_ne (by simpa using h) _ _

theorem get?_withText (key : String) (s : Option String) (es : Table Scalar Value)
    (other : String) : (Value.mapping (withText key s es)).get? other =
      if other = key then (s.map Value.text).or ((Value.mapping es).get? other)
      else (Value.mapping es).get? other := by
  cases s with
  | none => simp [withText]
  | some s => simp [withText, get?_insert_text]

/-- The entries with the controller and the mark of the command line. -/
def withWords (flags : SettingFlags) (es : Table Scalar Value) : Table Scalar Value :=
  withText "internal_marker" flags.internalMarker
    (withText "default_controller" flags.defaultController es)

theorem get?_withWords (flags : SettingFlags) (es : Table Scalar Value) (key : String) :
    (Value.mapping (withWords flags es)).get? key =
      if key = "internal_marker" then
        (flags.internalMarker.map Value.text).or ((Value.mapping es).get? key)
      else if key = "default_controller" then
        (flags.defaultController.map Value.text).or ((Value.mapping es).get? key)
      else (Value.mapping es).get? key := by
  rw [withWords, get?_withText, get?_withText]
  by_cases hmarker : key = "internal_marker"
  · simp [hmarker]
  · simp [hmarker]

theorem withFlags_eq (hv : v.entries? = some es) :
    withFlags flags v = (withFormat flags.format (withWords flags es)).map .mapping := by
  have hbind : withFlags flags v =
      withFormat flags.format (withWords flags es) >>= fun es => pure (.mapping es) := by
    rw [withFlags, hv]
    rfl
  rw [hbind]
  cases withFormat flags.format (withWords flags es) <;> rfl

theorem field_output_withWords (hv : v.entries? = some es) :
    (Value.mapping (withWords flags es)).field "output" = v.field "output" := by
  rw [Value.field, Value.field, get?_withWords, Value.get?_of_entries? hv]
  simp only [String.reduceEq, if_false]

/-- Without a format on the command line, nothing can go wrong. -/
theorem withFlags_of_eq_none (hv : v.entries? = some es) (hformat : flags.format = none) :
    withFlags flags v = .ok (.mapping (withWords flags es)) := by
  rw [withFlags_eq hv, hformat]
  rfl

/-- A format on the command line goes into the mapping of its group. -/
theorem withFlags_of_eq_some (hv : v.entries? = some es) {s : String}
    (hformat : flags.format = some s) (hos : (v.field "output").entries? = some os) :
    withFlags flags v = .ok (.mapping ((withWords flags es).insert (.text "output")
      (.mapping (os.insert (.text "format") (.text s))))) := by
  rw [withFlags_eq hv, hformat, withFormat, field_output_withWords hv, hos]
  rfl

theorem withFlags_eq_error (hv : v.entries? = some es) {f : Fault} :
    withFlags flags v = .error f ↔ flags.format.isSome = true ∧
      (v.field "output").isMapping = false ∧ f = .missingEntry := by
  cases hformat : flags.format with
  | none => simp [withFlags_of_eq_none hv hformat]
  | some s =>
    cases hos : (v.field "output").entries? with
    | some os => simp [withFlags_of_eq_some hv hformat hos, Value.isMapping, hos]
    | none =>
      rw [withFlags_eq hv, hformat, withFormat, field_output_withWords hv, hos, Value.isMapping,
        hos]
      simp [Except.map, eq_comm]

/-- What the command line leaves of the groups of settings. -/
theorem get?_of_withFlags (hv : v.entries? = some es) (h : withFlags flags v = .ok u) :
    u.isMapping = true ∧ (∀ key, key ≠ "output" → u.get? key =
        (Value.mapping (withWords flags es)).get? key) ∧
      ((flags.format = none ∧ u.get? "output" = v.get? "output") ∨
        ∃ s os, flags.format = some s ∧ (v.field "output").entries? = some os ∧
          u.get? "output" = some (.mapping (os.insert (.text "format") (.text s)))) := by
  cases hformat : flags.format with
  | none =>
    obtain rfl := Except.ok.inj ((withFlags_of_eq_none hv hformat).symm.trans h)
    refine ⟨rfl, fun _ _ => rfl, .inl ⟨rfl, ?_⟩⟩
    rw [get?_withWords, Value.get?_of_entries? hv]
    simp only [String.reduceEq, if_false]
  | some s =>
    cases hos : (v.field "output").entries? with
    | none =>
      have herror : withFlags flags v = .error .missingEntry :=
        (withFlags_eq_error hv).mpr ⟨by rw [hformat]; rfl, by rw [Value.isMapping, hos]; rfl, rfl⟩
      cases herror.symm.trans h
    | some os =>
      obtain rfl := Except.ok.inj ((withFlags_of_eq_some hv hformat hos).symm.trans h)
      refine ⟨rfl, fun key hkey => ?_, .inr ⟨s, os, rfl, rfl, ?_⟩⟩
      · rw [get?_insert_text, if_neg hkey]
      · rw [get?_insert_text, if_pos rfl]

/-- What the command line sets wins over what is set below it. -/
theorem layer_of_withFlags (hv : v.isMapping = true) (hgrouped : v.IsGrouped)
    (h : withFlags flags v = .ok u) :
    u.isMapping = true ∧ u.IsGrouped ∧ u.layer = fun k => (flags.layer k).or (v.layer k) := by
  obtain ⟨es, hes⟩ := Option.isSome_iff_exists.mp hv
  obtain ⟨hmapping, hkeys, houtput⟩ := get?_of_withFlags hes h
  have hfetch : u.get? "fetch" = v.get? "fetch" := by
    rw [hkeys _ (by decide), get?_withWords, Value.get?_of_entries? hes]
    simp only [String.reduceEq, if_false]
  refine ⟨hmapping, ?_, ?_⟩
  · intro key hkey x hx
    rcases List.mem_pair.mp hkey with rfl | rfl
    · exact hgrouped _ hkey x (hfetch ▸ hx)
    · rcases houtput with ⟨-, heq⟩ | ⟨s, os, -, -, heq⟩
      · exact hgrouped _ hkey x (heq ▸ hx)
      · obtain rfl := Option.some.inj (heq.symm.trans hx)
        rfl
  · funext k
    cases k with
    | defaultController | internalMarker =>
      simp only [Value.layer, Setting.path, SettingFlags.layer, Value.at?_singleton]
      rw [hkeys _ (by decide), get?_withWords, Value.get?_of_entries? hes]
      simp only [String.reduceEq, if_false, if_true]
    | timeout | accept | followRedirects =>
      simp only [Value.layer, Setting.path, SettingFlags.layer, Value.at?, hfetch, Option.none_or]
    | format =>
      simp only [Value.layer, Setting.path, SettingFlags.layer, Value.at?]
      rcases houtput with ⟨hformat, heq⟩ | ⟨s, os, hformat, -, heq⟩
      · simp only [hformat, heq, Option.map_none, Option.none_or]
      · simp only [hformat, heq, Option.map_some, Option.some_or, Option.bind_some,
          get?_insert_text, if_true]

end Flags

/-! ### The settings of a run -/

/-- What a file sets; nothing if it is missing. -/
def fileLayer : Option Value → Layer
  | some v => v.layer
  | none => fun _ => none

/-- What the files of settings say in a run, which makes the directory of the user first. -/
structure FindsFiles (w w' : World) (user project : Option Value) : Prop where
  /-- The file of the user says an object, or is missing. -/
  user : ∃ directory, settingsDirectory w = .ok directory w' ∧ Says w' (userFile directory) user
  /-- The file of the project says an object, or is missing. -/
  project : Says w' (projectFile w) project

/-- What is set by the highest layer that sets anything, setting by setting. -/
def highest (flags : SettingFlags) (w : World) (user project : Option Value) : Layer := fun k =>
  [flags.layer, w.layer, fileLayer project, fileLayer user].findSome? fun l => l k

theorem highest_eq (flags : SettingFlags) (w : World) (user project : Option Value) :
    highest flags w user project = fun k =>
      ((flags.layer k).or ((w.layer k).or (fileLayer project k))).or (fileLayer user k) := by
  funext k
  simp only [highest, List.findSome?_cons, List.findSome?_nil]
  cases flags.layer k <;> cases w.layer k <;> cases fileLayer project k <;>
    cases fileLayer user k <;> rfl

section Run

variable {flags : SettingFlags} {w w' : World} {s u : Settings} {project data merged : Value}

theorem Setting.path_ne_nil (k : Setting) : k.path ≠ [] := by cases k <;> nofun

theorem layer_getD (v : Option Value) : (v.getD (.mapping [])).layer = fileLayer v := by
  cases v with
  | none =>
    funext k
    cases k <;> rfl
  | some v => rfl

/-- The layers below the command line can be laid over each other. -/
theorem exists_merges (u : Settings) (hproject : project.isMapping = true) (w : World) :
    ∃ data merged, u.tree.merge project = .ok data ∧
      data.merge (.ofFields w.fields) = .ok merged := by
  obtain ⟨data, hdata⟩ :=
    Value.exists_merge_eq_ok (isMapping_tree u) hproject (.inl (isShallow_tree u))
  have hfields : (Value.ofFields w.fields).isMapping = true := rfl
  obtain ⟨merged, hmerged⟩ := Value.exists_merge_eq_ok
    (Value.isMapping_of_merge (isMapping_tree u) hdata) hfields (.inr isShallow_fieldsFor)
  exact ⟨data, merged, hdata, hmerged⟩

/-- The environment wins over the file of the project, and this over the file of the user. -/
theorem layer_of_merges (hdata : u.tree.merge project = .ok data)
    (hmerged : data.merge (.ofFields w.fields) = .ok merged) (hgrouped : project.IsGrouped) :
    merged.isMapping = true ∧ merged.IsGrouped ∧
      merged.layer = fun k => ((w.layer k).or (project.layer k)).or (u.tree.layer k) := by
  have hmapping : data.isMapping = true := Value.isMapping_of_merge (isMapping_tree u) hdata
  have hgroups (k : Setting) : data.Groups k.path :=
    Value.groups_merge (isMapping_tree u) hdata ((isGrouped_tree u).groups k) (hgrouped.groups k)
  have hfields : Value.layer (.ofFields w.fields) = w.layer := layer_fieldsFor
  refine ⟨Value.isMapping_of_merge hmapping hmerged, Value.isGrouped_of_groups fun k => ?_, ?_⟩
  · exact Value.groups_merge hmapping hmerged (hgroups k) (isGrouped_fieldsFor.groups k)
  · funext k
    have hlower : data.at? k.path = (project.at? k.path).or (u.tree.at? k.path) := by
      refine Value.at?_merge (isMapping_tree u) hdata k.path_ne_nil ((isGrouped_tree u).groups k)
        (hgrouped.groups k) fun x hx _ _ => .inl ?_
      obtain rfl := Option.some.inj ((layer_tree u k).symm.trans hx)
      exact isMapping_value u k
    have hupper : merged.at? k.path =
        ((Value.ofFields w.fields).at? k.path).or (data.at? k.path) := by
      refine Value.at?_merge hmapping hmerged k.path_ne_nil (hgroups k)
        (isGrouped_fieldsFor.groups k) fun _ _ x hx => .inr ?_
      rw [show (Value.ofFields w.fields).at? k.path = w.layer k from congrFun hfields k] at hx
      exact isMapping_environmentSetting hx
    rw [Value.layer, hupper, hlower, ← Option.or_assoc]
    rw [show (Value.ofFields w.fields).at? k.path = w.layer k from congrFun hfields k]
    rfl

/-- How results are shown stays a group, unless the file of the project has something else there. -/
theorem isMapping_output_of_merges (hdata : u.tree.merge project = .ok data)
    (hmerged : data.merge (.ofFields w.fields) = .ok merged) :
    (merged.field "output").isMapping = true ↔
      ∀ x ∈ project.get? "output", x.isMapping = true := by
  have hmapping := Value.isMapping_of_merge (isMapping_tree u) hdata
  have htree : u.tree.get? "output" = some (.ofFields [("format", .text u.format.word)]) := rfl
  obtain ⟨y, hy, hgroup⟩ := Value.exists_get?_merge (isMapping_tree u) hdata htree rfl
  have houtput := Value.get?_merge_of_eq_none hmapping hmerged get?_output_fieldsFor
  rw [Value.field, houtput, hy, Option.getD_some, hgroup]

/-- The command line cannot be laid over the other layers, if it sets a format, and the file of the
project has something else than a mapping in place of its group. -/
theorem withFlags_merges_eq_error {project : Option Value} {f : Fault}
    (hdata : u.tree.merge (project.getD (.mapping [])) = .ok data)
    (hmerged : data.merge (.ofFields w.fields) = .ok merged) :
    withFlags flags merged = .error f ↔ f = .missingEntry ∧ flags.format.isSome = true ∧
      ∃ v ∈ project, ∃ x, v.get? "output" = some x ∧ x.isMapping = false := by
  have hmapping := Value.isMapping_of_merge (isMapping_tree u) hdata
  obtain ⟨es, hes⟩ := Option.isSome_iff_exists.mp (Value.isMapping_of_merge hmapping hmerged)
  have hgroup : (merged.field "output").isMapping = false ↔
      ∃ v ∈ project, ∃ x, v.get? "output" = some x ∧ x.isMapping = false := by
    rw [← Bool.not_eq_true, isMapping_output_of_merges hdata hmerged]
    cases project with
    | none => exact iff_of_false (not_not.mpr nofun) (by rintro ⟨_, ⟨⟩, -⟩)
    | some v => simp
  rw [withFlags_eq_error hes, hgroup]
  exact ⟨fun ⟨hflag, hv, hf⟩ => ⟨hf, hflag, hv⟩, fun ⟨hf, hflag, hv⟩ => ⟨hflag, hv, hf⟩⟩

/-- The settings are read from the highest layers. -/
theorem ofValue_eq_ok_iff_shows {user project : Option Value} {final : Value}
    (hu : Settings.ofValue (user.getD (.mapping [])) = .ok u)
    (hgrouped : ∀ v ∈ project, v.IsGrouped)
    (hdata : u.tree.merge (project.getD (.mapping [])) = .ok data)
    (hmerged : data.merge (.ofFields w.fields) = .ok merged)
    (hfinal : withFlags flags merged = .ok final) :
    Settings.ofValue final = .ok s ↔ Shows (highest flags w user project) s := by
  have hproject : (project.getD (.mapping [])).IsGrouped := by
    cases project with
    | none => exact fun _ _ => nofun
    | some v => exact hgrouped v rfl
  obtain ⟨hmapping, hgroups, hlayer⟩ := layer_of_merges hdata hmerged hproject
  obtain ⟨hmapping, hgroups, hfinal⟩ := layer_of_withFlags hmapping hgroups hfinal
  obtain ⟨-, -, huser⟩ := Settings.ofValue_eq_ok.mp hu
  rw [Settings.ofValue_eq_ok, and_iff_right hmapping, and_iff_right hgroups, hfinal, hlayer,
    highest_eq, ← layer_getD project, ← layer_getD user, ← shows_or_tree_iff huser]
  simp only [Option.or_assoc]

/-- The environment, and the place of the file of the project, are the same after the directory of
the user is made. -/
theorem sees_of_settingsDirectory {directory : Path}
    (h : settingsDirectory w = .ok directory w') : projectFile w' = projectFile w ∧
      w'.fields = w.fields ∧ (w'.HasTimeLimit ↔ w.HasTimeLimit) := by
  rw [eq_of_settingsDirectory h]
  exact ⟨rfl, rfl, Iff.rfl⟩

/-- Where the files and the environment are of use, the layers below the command line can be laid
over each other, and the outcome hangs on the command line and on the values. -/
theorem exists_merged_of_findsFiles {user project : Option Value}
    (hfiles : FindsFiles w w' user project)
    (hu : Settings.ofValue (user.getD (.mapping [])) = .ok u) (htime : w.HasTimeLimit)
    (flags : SettingFlags) : ∃ data merged,
      u.tree.merge (project.getD (.mapping [])) = .ok data ∧
      data.merge (.ofFields w.fields) = .ok merged ∧
      resolveSettings flags w = match withFlags flags merged with
        | .ok final => match Settings.ofValue final with
          | .ok s => .ok s w'
          | .error n => .error (.failure (.invalidSettings n)) w'
        | .error f => .error (.fault f) w' := by
  obtain ⟨directory, hdirectory, huser⟩ := hfiles.user
  obtain ⟨hpath, hfields, hlimit⟩ := sees_of_settingsDirectory hdirectory
  obtain ⟨data, merged, hdata, hmerged⟩ := exists_merges u hfiles.project.isMapping w
  refine ⟨data, merged, hdata, hmerged, ?_⟩
  have husers : userSettings w = .ok u w' :=
    userSettings_eq_ok.mpr ⟨directory, user, hdirectory, huser, hu⟩
  have hproject : projectSettings w' = .ok project w' := by
    rw [projectSettings_eq, hpath]
    exact readObject_eq_ok.mpr ⟨hfiles.project, rfl⟩
  have henvironment : environmentLayer w' = .ok (.ofFields w.fields) w' :=
    environmentLayer_eq_ok.mpr ⟨hlimit.mpr htime, hfields ▸ rfl, rfl⟩
  unfold resolveSettings
  rw [bind_of_ok husers, bind_of_ok hproject, bind_of_ok (ofFault_eq_ok.mpr ⟨hdata, rfl⟩),
    bind_of_ok henvironment, bind_of_ok (ofFault_eq_ok.mpr ⟨hmerged, rfl⟩)]
  cases hfinal : withFlags flags merged with
  | error f => exact bind_of_error (ofFault_eq_error.mpr ⟨⟨f, rfl, rfl⟩, rfl⟩)
  | ok final =>
    rw [bind_of_ok (ofFault_eq_ok.mpr ⟨rfl, rfl⟩)]
    dsimp only
    cases Settings.ofValue final <;> rfl

/-- A run that has settings has found files of use. -/
theorem exists_findsFiles_of_resolveSettings (h : resolveSettings flags w = .ok s w') :
    ∃ user project, FindsFiles w w' user project ∧
      (∃ u, Settings.ofValue (user.getD (.mapping [])) = .ok u) ∧ w.HasTimeLimit := by
  simp only [resolveSettings, bind_eq_ok, userSettings_eq_ok, projectSettings_eq, readObject_eq_ok,
    ofFault_eq_ok, environmentLayer_eq_ok] at h
  obtain ⟨u, _, ⟨directory, user, hdirectory, huser, hu⟩, project, _, ⟨hproject, rfl⟩, data, _,
    ⟨-, rfl⟩, _, _, ⟨hlimit, -, rfl⟩, merged, _, ⟨-, rfl⟩, final, v, ⟨-, rfl⟩, h⟩ := h
  obtain ⟨hpath, -, htime⟩ := sees_of_settingsDirectory hdirectory
  cases hs : Settings.ofValue final with
  | error n =>
    simp only [hs] at h
    cases h
  | ok s =>
    simp only [hs] at h
    obtain ⟨-, rfl⟩ := pure_eq_ok.mp h
    exact ⟨user, project, ⟨⟨directory, hdirectory, huser⟩, hpath ▸ hproject⟩, ⟨u, hu⟩,
      htime.mp hlimit⟩

/-- **Precedence.** Where the groups of settings in the file of the project are mappings, a run has
settings exactly if the files say objects, the one of the user is valid by itself, the time limit in
the environment is a number, and what the highest layers set can be read; every setting is then read
from the highest layer that sets it. -/
theorem resolveSettings_eq_ok_iff
    (h : ∀ user project, FindsFiles w w' user project → ∀ v ∈ project, v.IsGrouped) :
    resolveSettings flags w = .ok s w' ↔ ∃ user project, FindsFiles w w' user project ∧
      (∃ u, Settings.ofValue (user.getD (.mapping [])) = .ok u) ∧ w.HasTimeLimit ∧
      Shows (highest flags w user project) s := by
  have hiff {user project : Option Value} {u : Settings} (hfiles : FindsFiles w w' user project)
      (hu : Settings.ofValue (user.getD (.mapping [])) = .ok u) (htime : w.HasTimeLimit) :
      resolveSettings flags w = .ok s w' ↔ Shows (highest flags w user project) s := by
    have hgrouped := h user project hfiles
    obtain ⟨data, merged, hdata, hmerged, heq⟩ := exists_merged_of_findsFiles hfiles hu htime flags
    rw [heq]
    cases hfinal : withFlags flags merged with
    | error f =>
      obtain ⟨-, -, v, hv, x, hx, hgroup⟩ := (withFlags_merges_eq_error hdata hmerged).mp hfinal
      cases hgroup.symm.trans (hgrouped v hv "output" (by simp) x hx)
    | ok final =>
      rw [← ofValue_eq_ok_iff_shows hu hgrouped hdata hmerged hfinal]
      dsimp only
      cases Settings.ofValue final <;> simp
  constructor
  · intro hrun
    obtain ⟨user, project, hfiles, ⟨u, hu⟩, htime⟩ := exists_findsFiles_of_resolveSettings hrun
    exact ⟨user, project, hfiles, ⟨u, hu⟩, htime, (hiff hfiles hu htime).mp hrun⟩
  · rintro ⟨user, project, hfiles, ⟨u, hu⟩, htime, hshows⟩
    exact (hiff hfiles hu htime).mpr hshows

end Run

/-- What the file of the user holds in the example. -/
def layeredUserText : String :=
  "\x7b\"internal_marker\":\"User_\",\"fetch\":\x7b\"timeout\":8,\"accept\":\"text/yaml\"\x7d\x7d"

/-- What the file of the project holds in the example. -/
def layeredProjectText : String :=
  "\x7b\"default_controller\":\"Project\",\"fetch\":\x7b\"timeout\":null\x7d\x7d"

/-- A world in which every layer sets something. -/
def layeredWorld : World where
  files := { entries := [(["cfg"], .directory), (["cfg", "sdkmaker"], .directory),
    (["cfg", "sdkmaker", "config.json"], .file layeredUserText.toUTF8), (["work"], .directory),
    (["work", "sdkmaker.json"], .file layeredProjectText.toUTF8)] }
  here := ["work"]
  environment := [("XDG_CONFIG_HOME", "/cfg"), ("SDKMAKER_DEFAULT_CONTROLLER", "Environment"),
    ("SDKMAKER_INTERNAL_MARKER", "")]
  token := ""
  now := ""

/-- The settings in that world, if the command line sets a format: the environment wins over the
file of the project, an empty variable sets nothing, and null is a time limit. -/
def layeredSettings : Settings where
  defaultController := "Environment"
  internalMarker := "User_"
  fetch := { timeout := none, accept := "text/yaml" }
  format := .json

theorem resolveSettings_eq_ok_iff_layered : ∃ w',
    (∀ user project, FindsFiles layeredWorld w' user project → ∀ v ∈ project, v.IsGrouped) ∧
    resolveSettings { format := some "json" } layeredWorld = .ok layeredSettings w' ∧
    ∃ user project, FindsFiles layeredWorld w' user project ∧
      (∃ u, Settings.ofValue (user.getD (.mapping [])) = .ok u) ∧ layeredWorld.HasTimeLimit ∧
      Shows (highest { format := some "json" } layeredWorld user project) layeredSettings := by
  have hrun : ∃ w', resolveSettings { format := some "json" } layeredWorld =
      .ok layeredSettings w' ∧ True := by decide +kernel
  obtain ⟨w', hrun, -⟩ := hrun
  have hmade : settingsDirectory layeredWorld =
      .ok { anchor := .root, names := ["cfg", "sdkmaker"] } layeredWorld := by
    rw [settingsDirectory, toolDirectory_eq]
    exact (bind_of_ok rfl).trans (madeDirectory_of_status (by decide +kernel))
  have hgrouped : ∀ user project, FindsFiles layeredWorld w' user project →
      ∀ v ∈ project, v.IsGrouped := by
    rintro user _ ⟨⟨directory, hdirectory, -⟩, hsaid⟩ v rfl
    obtain ⟨-, rfl⟩ := EStateM.Result.ok.inj (hmade.symm.trans hdirectory)
    have hread : ∃ x, Json.read (String.ofList (FileSystem.unifyBreaks layeredProjectText.toList)) =
        .ok x ∧ x.IsGrouped := by decide +kernel
    obtain ⟨x, hread, hx⟩ := hread
    have hholds : HoldsFile layeredWorld (projectFile layeredWorld) layeredProjectText.toUTF8 := rfl
    cases hsaid with
    | object hfile htext hread' =>
      obtain ⟨⟩ := hholds.symm.trans hfile
      obtain rfl := Except.ok.inj ((textOf_toUTF8 _).symm.trans htext)
      obtain rfl := Except.ok.inj (hread.symm.trans hread')
      exact hx
  exact ⟨w', hgrouped, hrun, (resolveSettings_eq_ok_iff hgrouped).mp hrun⟩

end ClientGen
