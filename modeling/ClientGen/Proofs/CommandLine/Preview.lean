import ClientGen.Proofs.CommandLine.Effects
import ClientGen.Proofs.Json.RoundTrip
import ClientGen.Proofs.Package.Layout
import ClientGen.Proofs.Package.Writing

/-!
# Showing a package and writing it

A run that shows a package as JSON, and one with the same options that writes it, render the same
files. So what the one shows is what the other writes.

## Main definitions

* `ClientGen.ShowsJson` : a run shows a value as JSON.
* `ClientGen.Writes` : what a run leaves that writes a package.

## Main results

* `ClientGen.eq_of_prepare` : two runs render the same package.
* `ClientGen.exists_prepare_of_showsJson` : what is shown as JSON.
* `ClientGen.writes_of_run` : what is written.
* `ClientGen.effects_of_run` : the files that a run changes, and what it shows of them.
-/

namespace ClientGen

open ClientGen.Action
open FileSystem (OnlyMakes)
open Package (placeOf placed IsFresh Unlinked Leaves)

variable {arguments : List String} {c : CommonOptions} {o : GenerateOptions} {g : Generation}
  {format : Option OutputFormat} {console : Console} {w w' u v : World}

/-! ### Rendering a package twice -/

theorem prepare_eq_ok : Generation.prepare o format w = .ok g w' ↔
    Generation.checkOptions o w = .ok () w ∧
      ∃ s u, resolveSettings (Generation.flags o format) w = .ok s u ∧
        loadClient o.source s u = .ok g.client w' ∧
        g.name = o.packageName.getD (Package.packageName g.client.name) ∧
        Package.ofClient g.client g.name = .ok g.files := by
  simp only [Generation.prepare, bind_eq_ok, ofExcept_eq_ok, pure_eq_ok]
  constructor
  · rintro ⟨_, w₁, hcheck, s, u, hs, client, w₂, hclient, files, _, ⟨hfiles, rfl⟩, rfl, rfl⟩
    obtain rfl : w = w₁ := (keeps_checkOptions o w).of_ok hcheck
    exact ⟨hcheck, s, u, hs, hclient, rfl, hfiles⟩
  · rintro ⟨hcheck, s, u, hs, hclient, hname, hfiles⟩
    obtain ⟨name, client, files⟩ := g
    dsimp only at hclient hname hfiles
    subst hname
    exact ⟨(), w, hcheck, s, u, hs, client, w', hclient, files, w', ⟨hfiles, rfl⟩, rfl, rfl⟩

/-- **Two runs render the same package** if they make the same directory of the settings. -/
theorem eq_of_prepare {format' : Option OutputFormat} {g' : Generation} {d : Path} {v' : World}
    (hu : settingsDirectory w = .ok d u) (hu' : settingsDirectory w' = .ok d u)
    (h : Generation.prepare o format w = .ok g v)
    (h' : Generation.prepare o format' w' = .ok g' v') : g = g' := by
  have hcontroller : (Generation.flags o format).defaultController =
      (Generation.flags o format').defaultController := rfl
  obtain ⟨-, s, u₁, hs, hclient, hname, hfiles⟩ := prepare_eq_ok.mp h
  obtain ⟨-, s', u₂, hs', hclient', hname', hfiles'⟩ := prepare_eq_ok.mp h'
  obtain ⟨rfl, rfl, hprojection, hfetch⟩ := agree_of_resolveSettings hcontroller rfl hu hu' hs hs'
  have hload : loadClient o.source s = loadClient o.source s' := by
    rw [loadClient, loadClient, hprojection, hfetch]
  rw [hload] at hclient
  obtain ⟨name, client, files⟩ := g
  obtain ⟨name', client', files'⟩ := g'
  obtain ⟨rfl, -⟩ := EStateM.Result.ok.inj (hclient.symm.trans hclient')
  obtain rfl : name = name' := hname.trans hname'.symm
  obtain rfl := Except.ok.inj (hfiles.symm.trans hfiles')
  rfl

/-! ### Runs that render a package -/

/-- A run that is asked for a package. -/
theorem attempted_of_generates (h : Generates arguments c o) (w : World) :
    attempted arguments w = (c.wanted >>= fun f => Console.start f c.noColour c.quiet c.verbose >>=
      fun console => generate o c.format? console >>= fun _ => pure 0) w := by
  obtain ⟨rest, hparse, hcommand⟩ := h
  have hsession : attempted arguments = session c "generate" rest := by
    rw [attempted, hparse]
    rfl
  rw [hsession, session_eq, hcommand]
  rfl

/-- A run succeeds only if nothing stops it before it is ended. -/
theorem attempted_of_run {code : Int} (h : run arguments w = .ok code w') :
    attempted arguments w = .ok code w' ∨ code ≠ 0 ∧ ∃ p v, attempted arguments w = .error p v ∧
      w'.output = v.output := by
  rw [run_eq] at h
  cases hattempted : attempted arguments w with
  | ok n u => exact .inl ((tryCatch_of_ok hattempted).symm.trans h)
  | error p v =>
    rw [tryCatch_of_error hattempted] at h
    obtain ⟨hcode, hrest, -⟩ := (conclude_leadsTo p).of_ok h
    exact .inr ⟨hcode, p, v, rfl, by rw [hrest]⟩

/-- A message says something, and changes nothing else. -/
theorem debug_eq (console : Console) (s : String) (w : World) :
    ∃ d, console.debug s w = .ok () { w with diagnosis := d } := by
  unfold Console.debug
  split
  · exact ⟨_, rfl⟩
  · exact ⟨_, rfl⟩

theorem info_eq (console : Console) (s : String) (w : World) :
    ∃ d, console.info s w = .ok () { w with diagnosis := d } := by
  unfold Console.info
  split
  · exact ⟨_, rfl⟩
  · exact ⟨_, rfl⟩

/-! ### Showing a package -/

/-- A run shows JSON. -/
def ShowsJson (arguments : List String) (w : World) (x : Value) : Prop :=
  ∃ code w' s, run arguments w = .ok code w' ∧ w'.output = w.output ++ s ∧ Json.read s = .ok x

/-- A run that is asked to show a package as JSON. -/
theorem attempted_of_json (h : Generates arguments c o) (hjson : c.json = true) (w : World) :
    ∃ console : Console, console.format = .json ∧
      attempted arguments w = (generate o (some .json) console >>= fun _ => pure 0) w := by
  have hformat : c.format? = some .json := if_pos hjson
  have hwanted : c.wanted w = .ok .json w := by
    rw [CommonOptions.wanted, hformat]
    rfl
  obtain ⟨console, hconsole, hstart⟩ : ∃ console : Console, console.format = .json ∧
      Console.start .json c.noColour c.quiet c.verbose w = .ok console w := ⟨_, rfl, rfl⟩
  refine ⟨console, hconsole, ?_⟩
  rw [attempted_of_generates h, bind_of_ok hwanted, bind_of_ok hstart, hformat]

/-- What can be rendered is shown as JSON, and is read again as its files. -/
theorem exists_run_of_prepare (h : Generates arguments c o) (hjson : c.json = true)
    (hdry : o.dryRun = true) (hprepare : Generation.prepare o (some .json) w = .ok g u) :
    ∃ s w', run arguments w = .ok 0 w' ∧ w'.output = w.output ++ s ∧
      Json.read s = .ok (.ofFields (g.files.map fun f => (f.1, .text f.2))) := by
  obtain ⟨console, hconsole, hattempted⟩ := attempted_of_json h hjson w
  obtain ⟨-, -, -, -, -, -, hfiles⟩ := prepare_eq_ok.mp hprepare
  obtain ⟨hpaths, hnodup, -⟩ := Package.paths_of_ofClient hfiles
  obtain ⟨s, hwrite, hread⟩ := Json.read_write_ofFields
    (hpaths ▸ hnodup.map Package.modulePath_injective : (g.files.map Prod.fst).Nodup)
  obtain ⟨d, hdebug⟩ := debug_eq console ("Package name: " ++ g.name) u
  have hgenerate : generate o (some .json) console w =
      .ok () { u with diagnosis := d, output := u.output ++ (s ++ "\n") } := by
    rw [generate, bind_of_ok hprepare, bind_of_ok hdebug, if_pos hdry, Console.showFiles,
      if_pos hconsole, Console.showJson, hwrite]
    rfl
  have houtput : u.output = w.output := by
    rw [(keeps_prepare o (some .json) w |>.of_ok hprepare).rest]
  refine ⟨s ++ "\n", _, tryCatch_of_ok (hattempted.trans (bind_of_ok hgenerate)), ?_, hread⟩
  exact congrArg (· ++ (s ++ "\n")) houtput

/-- What cannot be rendered is not shown. -/
theorem not_showsJson_of_prepare {p : Problem} {x : Value} (h : Generates arguments c o)
    (hjson : c.json = true) (hprepare : Generation.prepare o (some .json) w = .error p u) :
    ¬ ShowsJson arguments w x := by
  rintro ⟨code, w', s, hrun, hs, hread⟩
  obtain ⟨console, -, hattempted⟩ := attempted_of_json h hjson w
  have hstop : generate o (some .json) console w = .error p u := bind_of_error hprepare
  rw [bind_of_error hstop] at hattempted
  rcases attempted_of_run hrun with hok | ⟨-, p', v', herror, hv'⟩
  · cases hattempted.symm.trans hok
  · obtain ⟨rfl, rfl⟩ := EStateM.Result.error.inj (hattempted.symm.trans herror)
    have houtput : u.output = w.output := by
      rw [(keeps_prepare o (some .json) w |>.of_error hprepare).rest]
    have hempty : w.output ++ s = w.output ++ "" := by
      rw [← hs, hv', houtput, String.append_empty]
    rw [(String.append_right_inj _).mp hempty] at hread
    cases hread

/-- **What is shown** as JSON is an object of the files that are rendered. -/
theorem exists_prepare_of_showsJson {x : Value} (h : Generates arguments c o)
    (hjson : c.json = true) (hdry : o.dryRun = true) (hshows : ShowsJson arguments w x) :
    ∃ g u, Generation.prepare o (some .json) w = .ok g u ∧
      x = .ofFields (g.files.map fun f => (f.1, .text f.2)) := by
  cases hprepare : Generation.prepare o (some .json) w with
  | ok g u =>
    obtain ⟨s, w', hrun, hs, hread⟩ := exists_run_of_prepare h hjson hdry hprepare
    obtain ⟨code, v', s', hrun', hs', hread'⟩ := hshows
    obtain ⟨-, rfl⟩ := EStateM.Result.ok.inj (hrun.symm.trans hrun')
    obtain rfl := (String.append_right_inj _).mp (hs.symm.trans hs')
    exact ⟨g, u, rfl, Except.ok.inj (hread'.symm.trans hread)⟩
  | error p u => exact absurd hshows (not_showsJson_of_prepare h hjson hprepare)

/-! ### Writing a package -/

/-- What a run leaves that writes a package. -/
structure Writes (w : World) (root : Place) (files : List (String × String)) (t : FileSystem) :
    Prop where
  /-- The files are below the directory. -/
  below : ∀ f ∈ files, root <+: placeOf root f.1
  /-- No file takes the place of another one. -/
  distinct : (files.map fun f => placeOf root f.1).Nodup
  /-- Every file has its text. -/
  written : ∀ f ∈ files, t.find? (placeOf root f.1) = some (.file f.2.toUTF8)
  /-- Nothing else changes, but that directories are made where nothing stood, on the way to the
  settings and to the files. -/
  others : ∀ place, (∀ f ∈ files, place ≠ placeOf root f.1) →
    t.find? place = w.files.find? place ∨
      (w.Passes w.settingsPath place ∨ ∃ f ∈ files, place <+: (placeOf root f.1).dropLast) ∧
        w.files.find? place = none ∧ t.find? place = some .directory

/-- The files of a package are named with distinct places below every directory, and go there unless
links are in the way. -/
theorem places_of_ofClient {client : Client} {name : String} {files : List (String × String)}
    (h : Package.ofClient client name = .ok files) (root : Place) :
    (∀ f ∈ files, root <+: placeOf root f.1) ∧ (files.map fun f => placeOf root f.1).Nodup ∧
      ∀ s : FileSystem, IsProper root → Unlinked s root files →
        placed s root files = files.map fun f => (placeOf root f.1, f.2) := by
  obtain ⟨hpaths, hnodup, hwords⟩ := Package.paths_of_ofClient h
  have hmodule := Package.exists_modulePath_of_ofClient h
  refine ⟨fun f hf => ?_, ?_, fun s hroot hunlinked => ?_⟩
  · obtain ⟨m, hm, hpath⟩ := hmodule f hf
    rw [hpath, (Package.placeOf_modulePath hm root).1]
    exact List.prefix_append _ _
  · have hplaces :
        (files.map fun f => placeOf root f.1) = (files.map (·.1)).map (placeOf root) := by
      rw [List.map_map]
      rfl
    rw [hplaces, hpaths, List.map_map]
    refine hnodup.map_on fun m hm n hn heq => ?_
    have hm := (Package.placeOf_modulePath (hwords m hm) root).1
    have hn := (Package.placeOf_modulePath (hwords n hn) root).1
    rw [Function.comp_apply, Function.comp_apply, hm, hn] at heq
    simpa using heq
  · refine Package.placed_eq_map fun f hf => ?_
    obtain ⟨m, hm, hpath⟩ := hmodule f hf
    have hsettled := hunlinked f hf
    rw [hpath] at hsettled ⊢
    exact Package.targetOf_modulePath hm hroot hsettled

/-- Files with distinct places that are written below a directory. -/
theorem writes_of_leaves {root : Place} {files : List (String × String)} {t : FileSystem}
    (hw : Quiet w w') (hbelow : ∀ f ∈ files, root <+: placeOf root f.1)
    (hdistinct : (files.map fun f => placeOf root f.1).Nodup)
    (h : Leaves (files.map fun f => (placeOf root f.1, f.2)) (files.map fun f => placeOf root f.1)
      w'.files t) : Writes w root files t where
  below := hbelow
  distinct := hdistinct
  written f hf := by
    have hkeys : (Table.keys (files.map fun f => (placeOf root f.1, f.2)).reverse).Nodup := by
      rw [Table.keys, List.map_reverse, List.nodup_reverse, List.map_map]
      exact hdistinct
    refine h.written _ _ (Table.get?_of_mem hkeys (List.mem_reverse.mpr ?_))
    exact List.mem_map.mpr ⟨f, hf, rfl⟩
  others place hplace := by
    have hlast : (files.map fun f => (placeOf root f.1, f.2)).reverse.lookup place = none := by
      refine List.lookup_eq_none_iff.mpr fun e he => bne_iff_ne.mpr ?_
      obtain ⟨f, hf, rfl⟩ := List.mem_map.mp (List.mem_reverse.mp he)
      exact hplace f hf
    have hway : (∃ target ∈ files.map fun f => placeOf root f.1, place <+: target.dropLast) →
        ∃ f ∈ files, place <+: (placeOf root f.1).dropLast := by
      rintro ⟨_, htarget, hstart⟩
      obtain ⟨f, hf, rfl⟩ := List.mem_map.mp htarget
      exact ⟨f, hf, hstart⟩
    rcases h.others place hlast, hw.files place with
      ⟨ht | ⟨hmade, hnone, ht⟩, hsame | ⟨hsettings, hempty, hdirectory⟩⟩
    · exact .inl (ht.trans hsame)
    · exact .inr ⟨.inl hsettings, hempty, ht.trans hdirectory⟩
    · exact .inr ⟨.inr (hway hmade), hsame ▸ hnone, ht⟩
    · rw [hdirectory] at hnone
      cases hnone

/-- A package is written where it is asked for. -/
theorem writeAll_of_generate (hdry : o.dryRun = false)
    (h : generate o format console w = .ok () w') :
    ∃ g u root places, Generation.prepare o format w = .ok g u ∧
      u.files.resolve u.here (g.target o) = .ok root ∧
      Package.writeAll u.token root g.files u.files = .ok places w'.files := by
  rw [generate, bind_eq_ok] at h
  obtain ⟨g, u, hprepare, h⟩ := h
  obtain ⟨d, hdebug⟩ := debug_eq console ("Package name: " ++ g.name) u
  rw [bind_of_ok hdebug, if_neg (by simp [hdry]), Generation.write] at h
  obtain ⟨d', hinfo⟩ := info_eq console ("Writing " ++ toString g.files.length ++ " file(s) to " ++
    (g.target o).display) { u with diagnosis := d }
  rw [bind_of_ok hinfo, bind_eq_ok] at h
  obtain ⟨places, v, hwrite, h⟩ := h
  obtain ⟨root, t, hroot, hall, rfl⟩ := Package.writeFiles_eq_ok.mp hwrite
  obtain ⟨d'', hsuccess⟩ := info_eq console ("Generated \"" ++ g.name ++ "\" (" ++
    toString g.client.emittable.length ++ " controller(s)) in " ++ (g.target o).display)
    { { u with diagnosis := d' } with files := t }
  obtain ⟨-, rfl⟩ := EStateM.Result.ok.inj (hsuccess.symm.trans h)
  exact ⟨g, u, root, places, hprepare, hroot, hall⟩

/-- A run that writes a package renders it, and changes nothing before but for the directory of the
settings. -/
theorem writeAll_of_run (h : Generates arguments c o) (hdry : o.dryRun = false)
    (hrun : run arguments w = .ok 0 w') :
    ∃ g u root places, rendering c o w = .ok g u ∧ Quiet w u ∧
      Package.ofClient g.client g.name = .ok g.files ∧
      w.files.resolve w.here (g.target o) = .ok root ∧
      Package.writeAll w.token root g.files u.files = .ok places w'.files := by
  have hattempted : attempted arguments w = .ok 0 w' :=
    (attempted_of_run hrun).resolve_right fun h => h.1 rfl
  rw [attempted_of_generates h, bind_eq_ok] at hattempted
  obtain ⟨f, v, hwanted, hattempted⟩ := hattempted
  obtain ⟨console, hstart⟩ :
      ∃ console, Console.start f c.noColour c.quiet c.verbose v = .ok console v := ⟨_, rfl⟩
  rw [bind_of_ok hstart, bind_eq_ok] at hattempted
  obtain ⟨_, w₁, hgenerate, hattempted⟩ := hattempted
  obtain ⟨-, rfl⟩ := pure_eq_ok.mp hattempted
  obtain ⟨g, u, root, places, hprepare, hroot, hall⟩ := writeAll_of_generate hdry hgenerate
  obtain ⟨-, -, -, -, -, -, hfiles⟩ := prepare_eq_ok.mp hprepare
  have hquiet : Quiet w u := trans_of Quiet ((keeps_wanted c w).of_ok hwanted)
    ((keeps_prepare o c.format? v).of_ok hprepare)
  -- The directory of the settings is no link, so paths resolve to the same places without it.
  have hhere' : u.here = w.here := by rw [hquiet.rest]
  have htoken' : u.token = w.token := by rw [hquiet.rest]
  rw [hhere', FileSystem.resolve_congr hquiet.files.link?_eq] at hroot
  rw [htoken'] at hall
  exact ⟨g, u, root, places, (bind_of_ok hwanted).trans hprepare, hquiet, hfiles, hroot, hall⟩

/-- **What is written** is the package that is rendered. The places that the paths of the files
resolve to have the texts. These are the places that the paths name, unless links are in the way. -/
theorem writes_of_run (h : Generates arguments c o) (hdry : o.dryRun = false)
    (hrun : run arguments w = .ok 0 w') (hhere : IsProper w.here)
    (htoken : Char.ofNat 0 ∉ w.token.toList)
    (hfresh : ∀ g u root, rendering c o w = .ok g u →
      w.files.resolve w.here (g.target o) = .ok root →
      IsFresh w.token ((placed w.files root g.files).map Prod.fst) u.files) :
    ∃ g u root, rendering c o w = .ok g u ∧ w.files.resolve w.here (g.target o) = .ok root ∧
      Leaves (placed w.files root g.files) ((placed w.files root g.files).map Prod.fst) u.files
        w'.files ∧
      (Unlinked w.files root g.files → Writes w root g.files w'.files) := by
  obtain ⟨g, u, root, places, hrendering, hquiet, hfiles, hroot, hall⟩ :=
    writeAll_of_run h hdry hrun
  have hplaced := Package.placed_congr hquiet.files.link?_eq root g.files
  have hall' : LeadsTo (Package.writeAll w.token root g.files) u.files _ _ :=
    Package.writeAll_leadsTo htoken (by
      rw [hplaced]
      exact hfresh g u root hrendering hroot)
  obtain ⟨rfl, -, hleaves⟩ := hall'.of_ok hall
  rw [hplaced] at hleaves
  refine ⟨g, u, root, hrendering, hroot, hleaves, fun hunlinked => ?_⟩
  obtain ⟨hbelow, hdistinct, hplaces⟩ := places_of_ofClient hfiles root
  rw [hplaces w.files (FileSystem.isProper_of_resolve hroot hhere) hunlinked, List.map_map]
    at hleaves
  exact writes_of_leaves hquiet hbelow hdistinct hleaves

/-! ### Showing and writing -/

/-- Once the directory of the settings is made, finding the wanted format makes nothing else. -/
theorem settingsDirectory_of_wanted {f : OutputFormat} {d : Path}
    (hd : settingsDirectory w = .ok d u) (h : c.wanted w = .ok f v) :
    settingsDirectory v = .ok d u := by
  have hsettings : LeadsTo (resolveSettings {}) w (fun _ v => u = v) (fun _ v => u = v) := by
    rw [leadsTo_iff, resolveSettings_eq, bind_of_ok hd, ← leadsTo_iff]
    exact Keeps.bind (keeps_lowerSettings d) (keeps_settingsOver {}) u
  have hsettled : LeadsTo settledFormat w (fun _ v => u = v) (fun _ v => u = v) := by
    refine LeadsTo.tryCatch (E := fun _ v => u = v) (hsettings.bind fun _ _ h => .pure h) ?_
    rintro (g | g) _ rfl
    · exact .pure rfl
    · exact .throw rfl
  cases hformat : c.format? with
  | some f =>
    rw [CommonOptions.wanted, hformat] at h
    obtain ⟨-, rfl⟩ := pure_eq_ok.mp h
    exact hd
  | none =>
    rw [CommonOptions.wanted, hformat] at h
    obtain rfl := hsettled.of_ok h
    exact toolDirectory_again hd

/-- **Two runs render the same package**, one to show it as JSON and one to write it. -/
theorem eq_of_rendering {g' : Generation} (h : rendering c o w = .ok g u)
    (h' : Generation.prepare { o with dryRun := true } (some .json) w = .ok g' v) : g = g' := by
  have hprepare : Generation.prepare o (some .json) w = .ok g' v := h'
  obtain ⟨-, s, u₁, hs, -⟩ := prepare_eq_ok.mp hprepare
  rw [resolveSettings_eq, bind_eq_ok] at hs
  obtain ⟨d, u₂, hd, -⟩ := hs
  rw [rendering, bind_eq_ok] at h
  obtain ⟨f, w', hwanted, hrendered⟩ := h
  exact eq_of_prepare (settingsDirectory_of_wanted hd hwanted) hd hrendered hprepare

/-- **Effects of a run.** Until everything is rendered, a run changes no files but for the directory
of the settings and a log about a fault. What it shows as JSON, if it is asked to show files only,
which every call can ask for, is what it writes otherwise: every place that the path of a file
resolves to has the last text for it, and if no links are in the way, every file has its own place
and text. -/
theorem effects_of_run
    (hname : ∀ c name rest, CommonOptions.parse arguments = .run (c, name, rest) →
      name = "generate") :
    ((∀ c o, Generates arguments c o → o.dryRun = true ∨ ∃ p v, rendering c o w = .error p v) →
      LeadsTo (run arguments) w
        (fun _ w' => ∀ place, Incidental w (Crashes arguments w) w'.files place)
        (fun _ w' => ∀ place, Incidental w (Crashes arguments w) w'.files place)) ∧
    (∀ c o, Generates arguments c o → ∃ front rest, arguments = front ++ "generate" :: rest ∧
      Generates ("--json" :: front ++ "generate" :: "--dry-run" :: rest)
        { c with json := true } { o with dryRun := true }) ∧
    ∀ c o arguments' x ww, Generates arguments c o → o.dryRun = false →
      Generates arguments' { c with json := true } { o with dryRun := true } →
      ShowsJson arguments' w x → run arguments w = .ok 0 ww →
      IsProper w.here → Char.ofNat 0 ∉ w.token.toList →
      (∀ g u root, rendering c o w = .ok g u → w.files.resolve w.here (g.target o) = .ok root →
        IsFresh w.token ((placed w.files root g.files).map Prod.fst) u.files) →
      ∃ g u root, rendering c o w = .ok g u ∧ w.files.resolve w.here (g.target o) = .ok root ∧
        x = .ofFields (g.files.map fun f => (f.1, .text f.2)) ∧
        Leaves (placed w.files root g.files) ((placed w.files root g.files).map Prod.fst) u.files
          ww.files ∧
        (Unlinked w.files root g.files → Writes w root g.files ww.files) := by
  refine ⟨incidental_of_run hname, fun _ _ => Generates.exists_shown, ?_⟩
  intro c o arguments' x ww h hdry h' hshows hrun hhere htoken hfresh
  obtain ⟨g, u, root, hrendering, hroot, hwrites⟩ :=
    writes_of_run h hdry hrun hhere htoken hfresh
  obtain ⟨g', u', hprepare, rfl⟩ := exists_prepare_of_showsJson h' rfl rfl hshows
  obtain rfl := eq_of_rendering hrendering hprepare
  exact ⟨g, u, root, hrendering, hroot, rfl, hwrites⟩

/-- A document without operations, as the locator of itself. -/
def barrenText : String := "\x7b\"openapi\":\"3.0.0\"\x7d"

/-- A world without settings. -/
def barrenWorld : World where
  files := { entries := [(["home"], .directory), (["work"], .directory)] }
  here := ["work"]
  environment := [("HOME", "/home")]
  token := "k3"
  now := "20240101-000000"

theorem effects_of_run_barrenWorld :
    (∃ wd, run ["--json", "generate", "--dry-run", barrenText] barrenWorld = .ok 0 wd ∧
      ∀ place, Incidental barrenWorld
        (Crashes ["--json", "generate", "--dry-run", barrenText] barrenWorld) wd.files place) ∧
    ∃ (x : Value) (ww : World) (g : Generation) (root : Place),
      ShowsJson ["--json", "generate", "--dry-run", barrenText] barrenWorld x ∧
      run ["generate", barrenText] barrenWorld = .ok 0 ww ∧
      barrenWorld.files.resolve ["work"] (g.target { source := barrenText }) = .ok root ∧
      x = .ofFields (g.files.map fun f => (f.1, .text f.2)) ∧
      Writes barrenWorld root g.files ww.files := by
  have hparse : CommonOptions.parse ["generate", barrenText] =
      .run ({}, "generate", [barrenText]) := by decide +kernel
  have hparse' : CommonOptions.parse ["--json", "generate", "--dry-run", barrenText] =
      .run ({ json := true }, "generate", ["--dry-run", barrenText]) := by decide +kernel
  have hasks : Generates ["generate", barrenText] {} { source := barrenText } :=
    ⟨_, hparse, by decide +kernel⟩
  have hasks' : Generates ["--json", "generate", "--dry-run", barrenText] { json := true }
      { source := barrenText, dryRun := true } := ⟨_, hparse', by decide +kernel⟩
  have hname : ∀ c name rest, CommonOptions.parse ["generate", barrenText] =
      .run (c, name, rest) → name = "generate" := by
    rintro c name rest h
    obtain ⟨⟩ := hparse.symm.trans h
    rfl
  have hname' : ∀ c name rest, CommonOptions.parse
      ["--json", "generate", "--dry-run", barrenText] = .run (c, name, rest) →
      name = "generate" := by
    rintro c name rest h
    obtain ⟨⟩ := hparse'.symm.trans h
    rfl
  have hdry : ∀ c o, Generates ["--json", "generate", "--dry-run", barrenText] c o →
      o.dryRun = true ∨ ∃ p v, rendering c o barrenWorld = .error p v := by
    rintro c o ⟨rest, hrest, hcommand⟩
    obtain ⟨_, hcommand', h'⟩ := hasks'
    obtain ⟨⟩ := hcommand'.symm.trans hrest
    obtain ⟨⟩ := h'.symm.trans hcommand
    exact .inl rfl
  have hprepare : ∃ g u, Generation.prepare { source := barrenText, dryRun := true } (some .json)
      barrenWorld = .ok g u ∧ True := by decide +kernel
  obtain ⟨_, _, hprepare, -⟩ := hprepare
  obtain ⟨s, wd, hshow, houtput, hread⟩ := exists_run_of_prepare hasks' rfl rfl hprepare
  have hrun : ∃ ww, run ["generate", barrenText] barrenWorld = .ok 0 ww ∧ True := by
    decide +kernel
  obtain ⟨ww, hrun, -⟩ := hrun
  have hrendering : ∃ g u, rendering {} { source := barrenText } barrenWorld = .ok g u ∧
      ∃ root, barrenWorld.files.resolve ["work"] (g.target { source := barrenText }) = .ok root ∧
        IsFresh barrenWorld.token ((placed barrenWorld.files root g.files).map Prod.fst) u.files ∧
        Unlinked barrenWorld.files root g.files := by decide +kernel
  obtain ⟨g, u, hrendering, root, hroot, hfresh, hunlinked⟩ := hrendering
  have hfresh' : ∀ g u root, rendering {} { source := barrenText } barrenWorld = .ok g u →
      barrenWorld.files.resolve barrenWorld.here (g.target { source := barrenText }) = .ok root →
      IsFresh barrenWorld.token ((placed barrenWorld.files root g.files).map Prod.fst)
        u.files := by
    intro g' u' root' h hroot'
    obtain ⟨rfl, rfl⟩ := EStateM.Result.ok.inj (hrendering.symm.trans h)
    obtain rfl := Except.ok.inj (hroot.symm.trans hroot')
    exact hfresh
  have hshows : ShowsJson ["--json", "generate", "--dry-run", barrenText] barrenWorld _ :=
    ⟨0, wd, s, hshow, houtput, hread⟩
  obtain ⟨g', u', root', hrendering', hroot', hfiles, -, hwrites⟩ := (effects_of_run hname).2.2 {}
    { source := barrenText } _ _ ww hasks rfl hasks' hshows hrun (by decide) (by decide) hfresh'
  obtain ⟨rfl, rfl⟩ := EStateM.Result.ok.inj (hrendering.symm.trans hrendering')
  obtain rfl := Except.ok.inj (hroot.symm.trans hroot')
  exact ⟨⟨wd, hshow, ((effects_of_run hname').1 hdry).of_ok hshow⟩, _, ww, g, root, hshows, hrun,
    hroot, hfiles, hwrites hunlinked⟩

end ClientGen
