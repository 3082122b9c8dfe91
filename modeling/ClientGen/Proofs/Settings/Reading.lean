import Mathlib.Tactic.MkIffOfInductiveProp
import ClientGen.Proofs.Settings.Overlay
import ClientGen.Settings.Basic

/-!
# Reading settings

A value sets some of the settings; the others have their defaults. Settings that are written as a
value are read from it again, and it does not matter whether a layer has the values that somebody
gave, or those that are written for what is read from them.

## Main definitions

* `ClientGen.Setting` : the single settings.
* `ClientGen.Layer` : what is set, setting by setting.
* `ClientGen.Shows` : the settings that are read from a layer.

## Main results

* `ClientGen.Settings.ofValue_eq_ok` : reading settings from a value.
* `ClientGen.ofValue_tree` : settings that are written are read again.
* `ClientGen.shows_or_tree_iff` : what is written for settings may stand for what they are read
  from.
-/

namespace ClientGen

open Reading

/-! ### Single settings -/

/-- The single settings. -/
inductive Setting where
  /-- The controller of operations without a tag. -/
  | defaultController
  /-- The mark of internal operations. -/
  | internalMarker
  /-- The time limit for fetching. -/
  | timeout
  /-- The kinds of content that are accepted. -/
  | accept
  /-- The answer may send the request on to another address. -/
  | followRedirects
  /-- How results are shown. -/
  | format
  deriving DecidableEq, Repr

/-- The keys that lead to a setting. -/
def Setting.path : Setting → List String
  | defaultController => ["default_controller"]
  | internalMarker => ["internal_marker"]
  | timeout => ["fetch", "timeout"]
  | accept => ["fetch", "accept"]
  | followRedirects => ["fetch", "follow_redirects"]
  | format => ["output", "format"]

/-- The value that is set for a setting, if any. Null is a value like others. -/
abbrev Layer := Setting → Option Value

/-- What a value sets. -/
def Value.layer (v : Value) : Layer := fun k => v.at? k.path

/-- The groups of settings are mappings, where they are given. -/
def Value.IsGrouped (v : Value) : Prop :=
  ∀ key ∈ ["fetch", "output"], ∀ x ∈ v.get? key, x.isMapping = true

instance (v : Value) : Decidable v.IsGrouped :=
  inferInstanceAs (Decidable (∀ key ∈ ["fetch", "output"], ∀ x ∈ v.get? key, x.isMapping = true))

theorem Value.IsGrouped.groups {v : Value} (h : v.IsGrouped) (k : Setting) : v.Groups k.path := by
  cases k with
  | defaultController | internalMarker => trivial
  | timeout | accept | followRedirects => exact fun x hx => ⟨h "fetch" (by simp) x hx, trivial⟩
  | format => exact fun x hx => ⟨h "output" (by simp) x hx, trivial⟩

theorem Value.isGrouped_of_groups {v : Value} (h : ∀ k : Setting, v.Groups k.path) :
    v.IsGrouped := by
  have hfetch := h .timeout
  have houtput := h .format
  simp only [Setting.path, Groups] at hfetch houtput
  simp only [IsGrouped, List.mem_cons, List.not_mem_nil, or_false, forall_eq_or_imp, forall_eq]
  exact ⟨fun x hx => (hfetch x hx).1, fun x hx => (houtput x hx).1⟩

/-! ### Reading settings -/

section Reading

variable {α β : Type} {v : Value} {key : String}

/-- What is read from a value that may be missing. -/
def IsRead (read : Value → Option α) (default : α) : Option Value → α → Prop
  | some v, a => read v = some a
  | none, a => a = default

/-- The settings that are read from a layer: every one from its own value. -/
@[mk_iff]
structure Shows (l : Layer) (s : Settings) : Prop where
  /-- A text. -/
  defaultController :
    IsRead Value.asText? "DefaultController" (l .defaultController) s.defaultController
  /-- A text. -/
  internalMarker : IsRead Value.asText? "Controller_" (l .internalMarker) s.internalMarker
  /-- A number, or null. -/
  timeout : IsRead readTimeout none (l .timeout) s.fetch.timeout
  /-- A text. -/
  accept : IsRead Value.asText? "application/json, application/yaml, text/yaml" (l .accept)
    s.fetch.accept
  /-- A truth value. -/
  followRedirects : IsRead Value.asBool? true (l .followRedirects) s.fetch.followRedirects
  /-- The word of a format. -/
  format : IsRead (fun x => x.text?.bind OutputFormat.ofWord?) .auto (l .format) s.format

theorem both_eq_ok {x : Reading α} {y : Reading β} {a : α} {b : β} :
    both x y = .ok (a, b) ↔ x = .ok a ∧ y = .ok b := by
  cases x <;> cases y <;> simp [both]

theorem entries_eq_ok {read : Value → Reading α} {a : α} :
    entries read v = .ok a ↔ v.isMapping = true ∧ read v = .ok a := by
  unfold entries
  split <;> simp_all

theorem setting_part_eq_ok {read : Value → Option α} {default a : α} :
    setting v key default (part read) = .ok a ↔ IsRead read default (v.get? key) a := by
  unfold setting part
  cases v.get? key with
  | none => simp [IsRead, eq_comm]
  | some x => cases hx : read x <;> simp [IsRead, hx]

theorem FetchSettings.ofValue_eq_ok {s : FetchSettings} : FetchSettings.ofValue v = .ok s ↔
    v.isMapping = true ∧ IsRead readTimeout none (v.get? "timeout") s.timeout ∧
      IsRead Value.asText? "application/json, application/yaml, text/yaml" (v.get? "accept")
        s.accept ∧
      IsRead Value.asBool? true (v.get? "follow_redirects") s.followRedirects := by
  simp only [FetchSettings.ofValue, entries_eq_ok, Except.map_eq_ok, Prod.exists, both_eq_ok,
    setting_part_eq_ok]
  refine and_congr_right fun _ => ⟨?_, fun h => ⟨_, _, _, h, rfl⟩⟩
  rintro ⟨_, _, _, h, rfl⟩
  exact h

theorem OutputFormat.ofValue_eq_ok {f : OutputFormat} : OutputFormat.ofValue v = .ok f ↔
    v.isMapping = true ∧
      IsRead (fun x => x.text?.bind OutputFormat.ofWord?) .auto (v.get? "format") f := by
  simp only [OutputFormat.ofValue, entries_eq_ok, setting_part_eq_ok]

/-- A group of settings may be left out; its settings then have their defaults. -/
theorem setting_fetch_eq_ok {s : FetchSettings} :
    setting v "fetch" {} FetchSettings.ofValue = .ok s ↔
      (∀ x ∈ v.get? "fetch", x.isMapping = true) ∧
        IsRead readTimeout none (v.at? ["fetch", "timeout"]) s.timeout ∧
        IsRead Value.asText? "application/json, application/yaml, text/yaml"
          (v.at? ["fetch", "accept"]) s.accept ∧
        IsRead Value.asBool? true (v.at? ["fetch", "follow_redirects"]) s.followRedirects := by
  unfold setting
  simp only [Value.at?]
  cases v.get? "fetch" with
  | none =>
    constructor
    · rintro ⟨⟩
      exact ⟨fun x hx => absurd hx (Option.not_mem_none x), rfl, rfl, rfl⟩
    · obtain ⟨timeout, accept, followRedirects⟩ := s
      rintro ⟨-, rfl, rfl, rfl⟩
      rfl
  | some x =>
    simp only [FetchSettings.ofValue_eq_ok, Option.mem_some_iff, forall_eq', Option.bind_some,
      Option.bind_fun_some]

theorem setting_format_eq_ok {f : OutputFormat} :
    setting v "output" .auto OutputFormat.ofValue = .ok f ↔
      (∀ x ∈ v.get? "output", x.isMapping = true) ∧
        IsRead (fun x => x.text?.bind OutputFormat.ofWord?) .auto (v.at? ["output", "format"])
          f := by
  unfold setting
  simp only [Value.at?]
  cases v.get? "output" with
  | none =>
    constructor
    · rintro ⟨⟩
      exact ⟨fun x hx => absurd hx (Option.not_mem_none x), rfl⟩
    · rintro ⟨-, rfl⟩
      rfl
  | some x =>
    simp only [OutputFormat.ofValue_eq_ok, Option.mem_some_iff, forall_eq', Option.bind_some,
      Option.bind_fun_some]

/-- Settings are read from a mapping, if its groups are mappings and every value is fit. -/
theorem Settings.ofValue_eq_ok {s : Settings} : Settings.ofValue v = .ok s ↔
    v.isMapping = true ∧ v.IsGrouped ∧ Shows v.layer s := by
  have hgrouped : v.IsGrouped ↔ (∀ x ∈ v.get? "fetch", x.isMapping = true) ∧
      ∀ x ∈ v.get? "output", x.isMapping = true := by
    simp only [Value.IsGrouped, List.mem_cons, List.not_mem_nil, or_false, forall_eq_or_imp,
      forall_eq]
  simp only [Settings.ofValue, entries_eq_ok, Except.map_eq_ok, Prod.exists, both_eq_ok,
    setting_part_eq_ok, setting_fetch_eq_ok, setting_format_eq_ok, hgrouped, ← Value.at?_singleton]
  refine and_congr_right fun _ => ⟨?_, fun ⟨⟨hfetch, houtput⟩, h⟩ => ?_⟩
  · rintro ⟨_, _, _, _, ⟨hcontroller, hmarker, ⟨hfetch, htimeout, haccept, hredirects⟩, houtput,
      hformat⟩, rfl⟩
    exact ⟨⟨hfetch, houtput⟩, hcontroller, hmarker, htimeout, haccept, hredirects, hformat⟩
  · exact ⟨_, _, _, _, ⟨h.defaultController, h.internalMarker,
      ⟨hfetch, h.timeout, h.accept, h.followRedirects⟩, houtput, h.format⟩, rfl⟩

end Reading

/-! ### Settings as a layer -/

section Tree

variable {s u : Settings} {l upper : Layer}

/-- What a setting is written as. -/
def Settings.value (s : Settings) : Setting → Value
  | .defaultController => .text s.defaultController
  | .internalMarker => .text s.internalMarker
  | .timeout => FetchSettings.timeoutValue s.fetch.timeout
  | .accept => .text s.fetch.accept
  | .followRedirects => .bool s.fetch.followRedirects
  | .format => .text s.format.word

theorem layer_tree (s : Settings) (k : Setting) : s.tree.layer k = some (s.value k) := by
  cases k <;> rfl

theorem readTimeout_timeoutValue (t : Option Float) :
    readTimeout (FetchSettings.timeoutValue t) = some t := by
  cases t <;> rfl

theorem isMapping_value (s : Settings) (k : Setting) : (s.value k).isMapping = false := by
  have htimeout (t : Option Float) : (FetchSettings.timeoutValue t).isMapping = false := by
    cases t <;> rfl
  cases k with
  | timeout => exact htimeout _
  | _ => rfl

theorem isGrouped_tree (s : Settings) : s.tree.IsGrouped := by
  intro key hkey x hx
  rcases List.mem_pair.mp hkey with rfl | rfl
  · obtain rfl : s.fetch.tree = x := Option.some.inj hx
    rfl
  · obtain rfl := Option.some.inj hx
    rfl

theorem isMapping_tree (s : Settings) : s.tree.isMapping = true := rfl

theorem isShallow_tree (s : Settings) : Value.IsShallow Value.commonDepth s.tree := by
  have htimeout (t : Option Float) : (FetchSettings.timeoutValue t).Plain ∧
      (FetchSettings.timeoutValue t).nesting = 0 := by cases t <;> exact ⟨rfl, rfl⟩
  obtain ⟨hplain, hnesting⟩ := htimeout s.fetch.timeout
  constructor
  · simp [Settings.tree, FetchSettings.tree, Value.ofFields, hplain]
  · simp [Settings.tree, FetchSettings.tree, Value.ofFields, Value.nesting, Value.nestingEntries,
      hnesting, Value.commonDepth]

/-- Settings that are written are read again. -/
theorem shows_tree (s : Settings) : Shows s.tree.layer s where
  defaultController := rfl
  internalMarker := rfl
  timeout := readTimeout_timeoutValue s.fetch.timeout
  accept := rfl
  followRedirects := rfl
  format := OutputFormat.ofWord?_word s.format

theorem ofValue_tree (s : Settings) : Settings.ofValue s.tree = .ok s :=
  Settings.ofValue_eq_ok.mpr ⟨rfl, isGrouped_tree s, shows_tree s⟩

/-- It does not matter whether a setting is read from a value, or from what is written for what is
read from this value. -/
theorem isRead_or_iff {α : Type} {read : Value → Option α} {default a b : α} {o v w : Option Value}
    (hv : IsRead read default v a) (hw : w.isSome = true) (hwa : IsRead read default w a) :
    IsRead read default (o.or w) b ↔ IsRead read default (o.or v) b := by
  cases o with
  | some x => rfl
  | none =>
    obtain ⟨w, rfl⟩ := Option.isSome_iff_exists.mp hw
    have hb : IsRead read default (some w) b ↔ a = b := by
      rw [IsRead, show read w = some a from hwa, Option.some.injEq]
    have hb' : IsRead read default v b ↔ a = b := by
      cases v with
      | none => rw [IsRead, show a = default from hv, eq_comm]
      | some v => rw [IsRead, show read v = some a from hv, Option.some.injEq]
    exact hb.trans hb'.symm

/-- The values in a file may be replaced by what is read from them. -/
theorem shows_or_tree_iff (h : Shows l u) :
    Shows (fun k => (upper k).or (u.tree.layer k)) s ↔ Shows (fun k => (upper k).or (l k)) s := by
  have hsome (k : Setting) : (u.tree.layer k).isSome = true := by rw [layer_tree]; rfl
  have htree := shows_tree u
  simp only [shows_iff, isRead_or_iff h.defaultController (hsome _) htree.defaultController,
    isRead_or_iff h.internalMarker (hsome _) htree.internalMarker,
    isRead_or_iff h.timeout (hsome _) htree.timeout, isRead_or_iff h.accept (hsome _) htree.accept,
    isRead_or_iff h.followRedirects (hsome _) htree.followRedirects,
    isRead_or_iff h.format (hsome _) htree.format]

end Tree

end ClientGen
