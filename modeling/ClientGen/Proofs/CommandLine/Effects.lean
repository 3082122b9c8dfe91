import ClientGen.CommandLine.Run
import ClientGen.Proofs.CommandLine.Arguments
import ClientGen.Proofs.Settings.Agreement

/-!
# What a run changes before it writes a package

Everything is rendered before the first file is written. Until then a run makes requests and the
directory of the settings, and no more; if it comes to a fault, it also writes a log.

## Main definitions

* `ClientGen.Quiet`, `ClientGen.Harmless` : what a run changes until everything is rendered, and
  what it changes if it shows what is rendered.
* `ClientGen.rendering` : all that comes before files are written or shown.
* `ClientGen.Incidental` : what becomes of a place in a run that writes no package.

## Main results

* `ClientGen.keeps_prepare` : rendering a package is quiet.
* `ClientGen.crash_leadsTo` : what is done about a fault.
* `ClientGen.incidental_of_run` : a run that writes no package.
-/

namespace ClientGen

open ClientGen.Action
open FileSystem (OnlyMakes)

/-! ### What steps change -/

/-- Nothing changes but that requests are made, and directories on the way to the settings. -/
structure Quiet (w w' : World) : Prop where
  /-- Only requests and files. -/
  rest : w' = { w with files := w'.files, requests := w'.requests }
  /-- Directories on the way to the settings. -/
  files : OnlyMakes (w.Passes w.settingsPath) w.files w'.files

/-- Nothing changes but that requests are made, and directories on the way to the settings, and that
something is shown. -/
structure Harmless (w w' : World) : Prop where
  /-- Only requests, files, results and messages. -/
  rest : w' = { w with
    files := w'.files, requests := w'.requests, output := w'.output, diagnosis := w'.diagnosis }
  /-- Directories on the way to the settings. -/
  files : OnlyMakes (w.Passes w.settingsPath) w.files w'.files

theorem Quiet.harmless {w w' : World} (h : Quiet w w') : Harmless w w' := by
  refine ⟨?_, h.files⟩
  rw [h.rest]

namespace Harmless

variable {u v : World} (h : Harmless u v)

include h

/-- No links are made, and so a path passes the same places. -/
theorem passes_eq (path : Except Fault Path) : v.Passes path = u.Passes path :=
  World.passes_congr (by rw [h.rest]) h.files.link?_eq path

theorem settingsPath_eq : v.settingsPath = u.settingsPath := by
  rw [h.rest]
  rfl

end Harmless

instance : IsPreorder World Quiet where
  refl _ := ⟨rfl, .refl _⟩
  trans u v w h h' := by
    have hway : v.Passes v.settingsPath = u.Passes u.settingsPath := by
      rw [h.harmless.settingsPath_eq, h.harmless.passes_eq]
    refine ⟨?_, h.files.trans (hway ▸ h'.files)⟩
    calc w = { v with files := w.files, requests := w.requests } := h'.rest
      _ = { u with files := w.files, requests := w.requests } := by rw [h.rest]

instance : IsPreorder World Harmless where
  refl _ := ⟨rfl, .refl _⟩
  trans u v w h h' := by
    have hway : v.Passes v.settingsPath = u.Passes u.settingsPath := by
      rw [h.settingsPath_eq, h.passes_eq]
    refine ⟨?_, h.files.trans (hway ▸ h'.files)⟩
    rw [h.rest] at h'
    exact h'.rest

section Steps

variable {α β : Type} {x : Action α}

theorem keeps_settingsDirectory : Keeps Quiet settingsDirectory := fun w =>
  toolDirectory_leadsTo.mono
    (fun _ w' h => ⟨by rw [h.2.1], h.2.2.1⟩) fun _ w' h => ⟨by rw [h.1], h.2⟩

theorem keeps_ask (r : Request) : Keeps Quiet (ask r) := fun _ =>
  leadsTo_iff.mpr ⟨rfl, .refl _⟩

theorem keeps_loadDocument (locator : String) (fetch : FetchSettings) :
    Keeps Quiet (loadDocument locator fetch) := by
  refine .bind ?_ fun _ => .ofExcept _
  unfold load
  split
  · exact .fail _
  · refine .bind (.see _) fun input => ?_
    split
    · exact .fail _
    · split
      · exact .fail _
      · exact .pure _
  · refine .bind (keeps_ask _) fun reply => ?_
    split
    · split
      · exact .throw _
      · split
        · exact .bind (.ofFault _) fun _ => .pure _
        · exact .fail _
    · exact .fail _
    · exact .throw _
  · refine .bind (.see _) fun here => .bind (.look _) fun text => ?_
    split
    · exact .pure _
    · split
      · exact .fail _
      · exact .throw _
  · exact .pure _

theorem keeps_checkOptions {R : World → World → Prop} [IsPreorder World R] (o : GenerateOptions) :
    Keeps R (Generation.checkOptions o) := by
  have houtput : Keeps R (Generation.checkOptions { o with packageName := none }) := by
    unfold Generation.checkOptions
    dsimp only
    split
    · refine .bind (.look _) fun e => .bind (.ofFault _) fun e => ?_
      split
      · exact .fail _
      · exact .pure _
    · exact .pure _
  unfold Generation.checkOptions
  dsimp only
  split
  · split
    · exact .bind (.fail _) fun _ => houtput
    · exact houtput
  · exact houtput

/-- Rendering a package is quiet. -/
theorem keeps_prepare (o : GenerateOptions) (format : Option OutputFormat) :
    Keeps Quiet (Generation.prepare o format) :=
  .bind (keeps_checkOptions o) fun _ =>
    .bind (keeps_resolveSettings keeps_settingsDirectory _) fun _ =>
    .bind (.bind (keeps_loadDocument _ _) fun _ => .ofExcept _) fun _ =>
    .bind (.ofExcept _) fun _ => .pure _

theorem keeps_settledFormat : Keeps Quiet settledFormat := by
  refine .tryCatch (.bind (keeps_resolveSettings keeps_settingsDirectory _) fun _ => .pure _) ?_
  rintro (f | f)
  · exact .pure _
  · exact .throw _

theorem keeps_forM {α : Type} {R : World → World → Prop} [IsPreorder World R] {f : α → Action Unit}
    (h : ∀ a, Keeps R (f a)) (xs : List α) : Keeps R (xs.forM f) := by
  induction xs with
  | nil => exact .pure _
  | cons x xs ih => exact .bind (h x) fun _ => ih

theorem keeps_print (s : String) : Keeps Harmless (print s) := fun _ =>
  leadsTo_iff.mpr ⟨rfl, .refl _⟩

theorem keeps_warn (s : String) : Keeps Harmless (warn s) := fun _ =>
  leadsTo_iff.mpr ⟨rfl, .refl _⟩

theorem keeps_debug (c : Console) (s : String) : Keeps Harmless (c.debug s) := by
  unfold Console.debug
  split
  · exact keeps_warn _
  · exact .pure _

theorem keeps_showFiles (c : Console) (files : List (String × String)) :
    Keeps Harmless (c.showFiles files) := by
  unfold Console.showFiles
  split
  · exact .bind (.ofFault _) fun _ => keeps_print _
  · exact keeps_forM (fun _ => .bind (keeps_print _) fun _ => keeps_print _) files

end Steps

/-! ### Faults -/

/-- The path of the directory that a log is written to. -/
def World.logsPath (w : World) : Except Fault Path := w.dataPath.map (·.child "logs")

/-- The name of a log. -/
def World.logName (w : World) : String := "crash-" ++ w.now ++ ".log"

/-- What becomes of a place in a run that writes no package. -/
inductive Incidental (w : World) (crashed : Prop) (t : FileSystem) (place : Place) : Prop
  /-- Nothing. -/
  | same (h : t.find? place = w.files.find? place)
  /-- A directory is made where nothing stood, on the way to the settings. -/
  | settings (h : w.Passes w.settingsPath place) (hw : w.files.find? place = none)
      (ht : t.find? place = some .directory)
  /-- A directory is made where nothing stood, on the way to the log about a fault. -/
  | logs (hcrash : crashed) (h : w.Passes w.logsPath place) (hw : w.files.find? place = none)
      (ht : t.find? place = some .directory)
  /-- The log about a fault is written, or a part of it. -/
  | log {p : Path} {bytes : ByteArray} (hcrash : crashed) (hp : w.logsPath = .ok p)
      (h : w.Reaches (p.child w.logName) place) (ht : t.find? place = some (.file bytes))

section Faults

variable {w w' : World} {crashed : Prop} {t : FileSystem} {place : Place}

theorem Incidental.mono {crashed' : Prop} (h : Incidental w crashed t place)
    (himp : crashed → crashed') : Incidental w crashed' t place := by
  cases h with
  | same h => exact .same h
  | settings h hw ht => exact .settings h hw ht
  | logs hcrash h hw ht => exact .logs (himp hcrash) h hw ht
  | log hcrash hp h ht => exact .log (himp hcrash) hp h ht

/-- A run goes on after it has made the directory of the settings. -/
theorem Incidental.of_harmless (hw : Harmless w w') (h : Incidental w' crashed t place) :
    Incidental w crashed t place := by
  have hsettings : w'.Passes w'.settingsPath = w.Passes w.settingsPath := by
    rw [hw.settingsPath_eq, hw.passes_eq]
  have hpath : w'.logsPath = w.logsPath := by
    rw [hw.rest]
    rfl
  have hlogs : w'.Passes w'.logsPath = w.Passes w.logsPath := by
    rw [hpath, hw.passes_eq]
  have hname : w'.logName = w.logName := by
    rw [hw.rest]
    rfl
  have hlog {p : Path} (hreaches : w'.Reaches (p.child w'.logName) place) :
      w.Reaches (p.child w.logName) place :=
    hname ▸ hreaches.congr (by rw [hw.rest]) hw.files.link?_eq
  rcases hw.files place with hsame | ⟨hway, hnone, hmade⟩
  · cases h with
    | same h => exact .same (h.trans hsame)
    | settings h hw' ht => exact .settings (hsettings ▸ h) (hsame ▸ hw') ht
    | logs hcrash h hw' ht => exact .logs hcrash (hlogs ▸ h) (hsame ▸ hw') ht
    | log hcrash hp h ht => exact .log hcrash (hpath ▸ hp) (hlog h) ht
  · cases h with
    | same h => exact .settings hway hnone (h.trans hmade)
    | settings h hw' ht => exact .settings hway hnone ht
    | logs hcrash h hw' ht => exact .settings hway hnone ht
    | log hcrash hp h ht => exact .log hcrash (hpath ▸ hp) (hlog h) ht

theorem Harmless.incidental (hw : Harmless w w') : Incidental w crashed w'.files place := by
  rcases hw.files place with hsame | ⟨hway, hnone, hmade⟩
  · exact .same hsame
  · exact .settings hway hnone hmade

/-- What is on the way along a path is on the way to what is right below. -/
theorem FileSystem.Passes.child {s : FileSystem} {here : Place} {p : Path} {name : String}
    (h : s.Passes here p place) : s.Passes here (p.child name) place := by
  obtain ⟨n, hn⟩ := h
  refine ⟨min n p.names.length, ?_⟩
  have hfirst : (p.child name).first (min n p.names.length) = p.first n := by
    rw [Path.first, Path.first, Path.child]
    rw [List.take_append_of_le_length (Nat.min_le_right _ _), ← List.take_eq_take_min]
  rw [hfirst]
  exact hn

/-- Nothing changes but that directories are made on the way to the log. -/
structure MakesLogs (w w' : World) : Prop where
  /-- Only files. -/
  rest : w' = { w with files := w'.files }
  /-- Directories on the way to the log. -/
  files : OnlyMakes (w.Passes w.logsPath) w.files w'.files

theorem MakesLogs.incidental (h : MakesLogs w w') : Incidental w True w'.files place := by
  rcases h.files place with hsame | ⟨hway, hnone, hmade⟩
  · exact .same hsame
  · exact .logs trivial hway hnone hmade

/-- The log is written where the path of the log leads. -/
theorem MakesLogs.incidental_put {p : Path} {log : Place} {bytes : ByteArray} (h : MakesLogs w w')
    (hp : w.logsPath = .ok p) (hlog : w'.Reaches (p.child w.logName) log)
    (ht : ∀ q, t.find? q = (w'.files.put log (.file bytes)).find? q) :
    Incidental w True t place := by
  have hreaches : w.Reaches (p.child w.logName) log :=
    hlog.congr (by rw [h.rest]) h.files.link?_eq
  by_cases hplace : place = log
  · subst hplace
    by_cases hroot : place = []
    · rw [hroot]
      exact .same (ht [])
    · exact .log trivial hp hreaches ((ht place).trans (FileSystem.find?_put_self hroot _ _))
  · have hsame := (ht place).trans (FileSystem.find?_put_of_ne hplace w'.files (.file bytes))
    rcases h.files place with hs | ⟨hway, hnone, hmade⟩
    · exact .same (hsame.trans hs)
    · exact .logs trivial hway hnone (hsame.trans hmade)

theorem dataDirectory_leadsTo : LeadsTo dataDirectory w
    (fun d w' => w.dataPath = .ok d ∧ MakesLogs w w') (fun _ w' => MakesLogs w w') := by
  have hway : ∀ place, w.Passes w.dataPath place → w.Passes w.logsPath place := by
    rintro place ⟨p, hp, h⟩
    exact ⟨p.child "logs", by rw [World.logsPath, hp]; rfl, h.child⟩
  refine toolDirectory_leadsTo.mono ?_ fun _ _ h => ⟨h.1, h.2.mono hway⟩
  rintro d w' ⟨hd, hrest, hmade, -⟩
  exact ⟨hd, hrest, hmade.mono hway⟩

/-- Making the directory of the logs. -/
theorem logsDirectory_leadsTo :
    LeadsTo (dataDirectory >>= fun d => madeDirectory (d.child "logs")) w
      (fun p w' => w.logsPath = .ok p ∧ MakesLogs w w') (fun _ w' => MakesLogs w w') := by
  refine dataDirectory_leadsTo.bind fun d v hd => ?_
  obtain ⟨hd, hv⟩ := hd
  have hpath : w.logsPath = .ok (d.child "logs") := by
    rw [World.logsPath, hd]
    rfl
  have hhere : v.here = w.here := by rw [hv.rest]
  have hway : v.files.Passes v.here (d.child "logs") = w.files.Passes w.here (d.child "logs") := by
    rw [FileSystem.passes_congr hv.files.link?_eq, hhere]
  have hmakes {u : World} (hrest : u = { v with files := u.files })
      (h : OnlyMakes (v.files.Passes v.here (d.child "logs")) v.files u.files) : MakesLogs w u := by
    refine ⟨?_, hv.files.trans ((hway ▸ h).mono fun place hplace => ⟨_, hpath, hplace⟩)⟩
    rw [hrest, hv.rest]
  refine madeDirectory_leadsTo.mono ?_ fun _ _ h => hmakes h.1 h.2
  rintro p u ⟨rfl, hrest, hmade, -⟩
  exact ⟨hpath, hmakes hrest hmade⟩

/-- A fault is logged: directories are made on the way to the log, and the log is written. -/
theorem crash_leadsTo (f : Fault) : LeadsTo (crash f) w
    (fun code w' => code = 1 ∧ w' = { w with files := w'.files, diagnosis := w'.diagnosis } ∧
      ∀ place, Incidental w True w'.files place)
    (fun _ w' => w' = { w with files := w'.files, diagnosis := w'.diagnosis } ∧
      ∀ place, Incidental w True w'.files place) := by
  have hfails {w' : World} (h : MakesLogs w w') :
      w' = { w with files := w'.files, diagnosis := w'.diagnosis } ∧
        ∀ place, Incidental w True w'.files place :=
    ⟨by rw [h.rest], fun _ => h.incidental⟩
  rw [crash, ← bind_assoc]
  refine (logsDirectory_leadsTo.mono (fun _ _ h => h) fun _ _ h => hfails h).bind ?_
  rintro p u ⟨hpath, hu⟩
  refine leadsTo_see_bind (leadsTo_see_bind ?_)
  have hlog : p.child ("crash-" ++ u.now ++ ".log") = p.child w.logName := by
    rw [hu.rest]
    rfl
  rw [hlog]
  have hwrite : LeadsTo (onFiles (FileAction.overwrite u.here (p.child w.logName)
      (f.reason ++ "\n"))) u _ _ := onFiles_leadsTo FileAction.overwrite_leadsTo
  refine (hwrite.mono (fun _ _ h => h) ?_).bind ?_
  · rintro _ u' ⟨hrest, _, -, -, hfiles⟩
    rcases hfiles with hsame | ⟨log, bytes, hreaches, hput⟩
    · exact hfails ⟨by rw [hrest, hu.rest], hsame ▸ hu.files⟩
    · exact ⟨by rw [hrest, hu.rest], fun place => hu.incidental_put hpath hreaches hput⟩
  · rintro _ u' ⟨hrest, log, hreaches, hput⟩
    refine leadsTo_iff.mpr ⟨rfl, ?_, fun place => hu.incidental_put hpath hreaches hput⟩
    rw [hrest, hu.rest]

/-- No failure has the exit code of a success. -/
theorem Failure.exitCode_ne_zero (g : Failure) : g.report.exitCode ≠ 0 := by
  have hcode : g.report.exitCode = g.report.category.exitCode := by cases g <;> rfl
  rw [hcode]
  cases g.report.category <;> decide

/-- Ending a run that a problem has stopped changes no more than what is done about a fault. -/
theorem conclude_leadsTo (p : Problem) : LeadsTo (conclude p) w
    (fun code w' => code ≠ 0 ∧ w' = { w with files := w'.files, diagnosis := w'.diagnosis } ∧
      ∀ place, Incidental w (∃ f, p = .fault f) w'.files place)
    (fun _ w' => ∀ place, Incidental w (∃ f, p = .fault f) w'.files place) := by
  cases p with
  | failure g =>
    exact leadsTo_iff.mpr ⟨g.exitCode_ne_zero, rfl, fun _ => .same rfl⟩
  | fault f =>
    refine (crash_leadsTo f).mono ?_ fun _ _ h place => (h.2 place).mono fun _ => ⟨f, rfl⟩
    rintro code w' ⟨rfl, hrest, h⟩
    exact ⟨by decide, hrest, fun place => (h place).mono fun _ => ⟨f, rfl⟩⟩

end Faults

/-! ### Runs -/

/-- The format in which results are shown. -/
def CommonOptions.wanted (c : CommonOptions) : Action OutputFormat :=
  match c.format? with
  | some f => pure f
  | none => settledFormat

/-- All that comes before files are written or shown: the options are checked, the settings are
looked up, the document is loaded and brought to its client, and the files are rendered. -/
def rendering (c : CommonOptions) (o : GenerateOptions) : Action Generation := do
  let _ ← c.wanted
  Generation.prepare o c.format?

/-- A run before it is ended. -/
def attempted (arguments : List String) : Action Int :=
  (CommonOptions.parse arguments).answer fun (o, name, rest) => session o name rest

theorem run_eq (arguments : List String) :
    run arguments = tryCatch (attempted arguments) conclude := rfl

/-- A run comes to a fault. -/
def Crashes (arguments : List String) (w : World) : Prop :=
  ∃ f v, attempted arguments w = .error (.fault f) v

section Runs

variable {arguments : List String} {c : CommonOptions} {o : GenerateOptions} {w : World}

theorem session_eq (c : CommonOptions) (name : String) (rest : List String) :
    session c name rest = c.wanted >>= fun f => Console.start f c.noColour c.quiet c.verbose >>=
      fun console => (Command.parse name rest).answer fun command => do
        command.perform c.format? console
        return 0 := by
  unfold session CommonOptions.wanted
  cases c.format? <;> rfl

theorem keeps_wanted (c : CommonOptions) : Keeps Quiet c.wanted := by
  unfold CommonOptions.wanted
  split
  · exact .pure _
  · exact keeps_settledFormat

/-- Showing how the tool is used is harmless. -/
theorem answer_leadsTo {α : Type} {p : Parsed α} {go : α → Action Int}
    (h : ∀ x, p = .run x →
      LeadsTo (go x) w (fun _ w' => Harmless w w') (fun _ w' => Harmless w w')) :
    LeadsTo (p.answer go) w (fun _ w' => Harmless w w') (fun _ w' => Harmless w w') := by
  cases p with
  | run x => exact h x rfl
  | help | version => exact Keeps.bind (keeps_print _) (fun _ => .pure _) w
  | misuse => exact Keeps.bind (keeps_warn _) (fun _ => .pure _) w
  | fault f => exact Keeps.throw _ w

/-- A package that is shown only, or that cannot be rendered, changes no files. -/
theorem generate_leadsTo {format : Option OutputFormat} (console : Console)
    (h : o.dryRun = true ∨ ∃ p v, Generation.prepare o format w = .error p v) :
    LeadsTo (generate o format console) w (fun _ w' => Harmless w w')
      (fun _ w' => Harmless w w') := by
  have hprepare := (keeps_prepare o format).mono (fun _ _ => Quiet.harmless) w
  rcases h with hdry | ⟨p, v, hp⟩
  · refine hprepare.bind fun g v hv => ?_
    rw [hdry]
    have hshow : Keeps Harmless (do
        console.debug ("Package name: " ++ g.name)
        console.showFiles g.files) := .bind (keeps_debug _ _) fun _ => keeps_showFiles _ _
    exact (hshow v).mono (fun _ _ h => trans_of Harmless hv h) fun _ _ h => trans_of Harmless hv h
  · rw [leadsTo_iff, generate, bind_of_error hp]
    exact hprepare.of_error hp

/-- Until a run is ended, it changes no files but for the directory of the settings. -/
theorem attempted_leadsTo
    (hname : ∀ c name rest, CommonOptions.parse arguments = .run (c, name, rest) →
      name = "generate")
    (h : ∀ c o, Generates arguments c o → o.dryRun = true ∨ ∃ p v, rendering c o w = .error p v) :
    LeadsTo (attempted arguments) w (fun _ w' => Harmless w w') (fun _ w' => Harmless w w') := by
  refine answer_leadsTo fun ⟨c, name, rest⟩ hparse => ?_
  obtain rfl := hname c name rest hparse
  change LeadsTo (session c "generate" rest) w _ _
  rw [session_eq]
  have hwanted := (keeps_wanted c).mono (fun _ _ => Quiet.harmless) w
  refine LeadsTo.bind (Q := fun f v => c.wanted w = .ok f v ∧ Harmless w v)
    ⟨fun hf => ⟨hf, hwanted.of_ok hf⟩, hwanted.of_error⟩ ?_
  rintro f v ⟨hf, hv⟩
  obtain ⟨console, hconsole⟩ :
      ∃ console, Console.start f c.noColour c.quiet c.verbose v = .ok console v := ⟨_, rfl⟩
  rw [leadsTo_iff, bind_of_ok hconsole, ← leadsTo_iff]
  refine LeadsTo.mono (answer_leadsTo fun command hcommand => ?_)
    (fun _ _ h => trans_of Harmless hv h) fun _ _ h => trans_of Harmless hv h
  obtain ⟨o, rfl⟩ : ∃ o, command = .generate o := by
    obtain ⟨_, _, -, -, -, -, rfl⟩ := Command.parse_generate_eq_run.mp hcommand
    exact ⟨_, rfl⟩
  refine (generate_leadsTo console ?_).bind fun _ _ h => .pure h
  rcases h c o ⟨rest, hparse, hcommand⟩ with hdry | ⟨p, u, hp⟩
  · exact .inl hdry
  · exact .inr ⟨p, u, (bind_of_ok hf).symm.trans hp⟩

/-- **A run that writes no package** changes no files but for the directory of the settings and a
log about a fault. -/
theorem incidental_of_run
    (hname : ∀ c name rest, CommonOptions.parse arguments = .run (c, name, rest) →
      name = "generate")
    (h : ∀ c o, Generates arguments c o → o.dryRun = true ∨ ∃ p v, rendering c o w = .error p v) :
    LeadsTo (run arguments) w
      (fun _ w' => ∀ place, Incidental w (Crashes arguments w) w'.files place)
      (fun _ w' => ∀ place, Incidental w (Crashes arguments w) w'.files place) := by
  have hattempted := attempted_leadsTo hname h
  rw [run_eq]
  refine LeadsTo.tryCatch (E := fun p v => attempted arguments w = .error p v ∧ Harmless w v)
    ⟨fun hok _ => (hattempted.of_ok hok).incidental,
      fun herror => ⟨herror, hattempted.of_error herror⟩⟩ ?_
  rintro p v ⟨herror, hv⟩
  have hcrashes : (∃ f, p = .fault f) → Crashes arguments w := by
    rintro ⟨f, rfl⟩
    exact ⟨f, v, herror⟩
  exact (conclude_leadsTo p).mono (fun _ _ h place => ((h.2.2 place).mono hcrashes).of_harmless hv)
    fun _ _ h place => ((h place).mono hcrashes).of_harmless hv

end Runs

end ClientGen
