import ClientGen.Proofs.Decoding
import ClientGen.Proofs.Steps
import ClientGen.Settings.Layers

/-!
# Files of settings

A file of settings says an object, or nothing if it is missing. If it is of no use, reading it fails
with a failure about settings, or comes to a fault that no message is worded for.

## Main definitions

* `ClientGen.HoldsFile` : a file with some bytes stands at a path.
* `ClientGen.Says` : what the file at a path says.
* `ClientGen.Garbles` : how reading the file at a path comes to a fault.
* `ClientGen.Failure.ConcernsSettings` : the failures about settings.

## Main results

* `ClientGen.readObject_eq_ok`, `ClientGen.readObject_eq_fault` : reading a file of settings.
* `ClientGen.userSettings_eq_ok`, `ClientGen.userSettings_eq_fault` : the settings of the user.
* `ClientGen.projectSettings_eq` : the file of the project.
* `ClientGen.failsOnly_userSettings`, `ClientGen.failsOnly_readObject` : all failures are about
  settings.
-/

namespace ClientGen

open ClientGen.Action

variable {file : SettingsFile} {p : Path} {w w' : World}

/-! ### Files -/

/-- A file with the bytes stands at the path. -/
def HoldsFile (w : World) (p : Path) (bytes : ByteArray) : Prop :=
  w.files.status w.here p = .ok (some (.file bytes))

/-- What the file at a path says. -/
inductive Says (w : World) (p : Path) : Option Value → Prop
  /-- No file is there. -/
  | nothing {e : Option Entry} (h : w.files.status w.here p = .ok e)
      (hfile : ∀ bytes, e ≠ some (.file bytes)) : Says w p none
  /-- The text of the file writes an object. -/
  | object {bytes : ByteArray} {text : String} {v : Value} (hfile : HoldsFile w p bytes)
      (htext : FileSystem.textOf bytes = .ok text) (hread : Json.read text = .ok v)
      (hv : v.isMapping = true) : Says w p (some v)

/-- How reading the file at a path comes to a fault. -/
inductive Garbles (w : World) (p : Path) : Fault → Prop
  /-- The path is longer than the file system allows. -/
  | path {s : String} (h : w.files.status w.here p = .error (.file .nameTooLong s)) :
      Garbles w p (.file .nameTooLong s)
  /-- The bytes of the file write no text. -/
  | bytes {bytes : ByteArray} (hfile : HoldsFile w p bytes) (h : String.fromUTF8? bytes = none) :
      Garbles w p .undecodableText
  /-- The text of the file opens more containers inside each other than the reader follows. -/
  | depth {bytes : ByteArray} {text : String} (hfile : HoldsFile w p bytes)
      (htext : FileSystem.textOf bytes = .ok text) (h : Json.read text = .error .tooDeep) :
      Garbles w p .depthExceeded
  /-- A number in the text of the file has more digits than are read. -/
  | number {bytes : ByteArray} {text : String} (hfile : HoldsFile w p bytes)
      (htext : FileSystem.textOf bytes = .ok text)
      (h : Json.read text = .error (.fault .malformedNumber)) : Garbles w p .malformedNumber

theorem Says.isMapping {v : Option Value} (h : Says w p v) :
    (v.getD (.mapping [])).isMapping = true := by
  cases h with
  | nothing => rfl
  | object _ _ _ hv => exact hv

theorem textOf_eq_error {bytes : ByteArray} {f : Fault} :
    FileSystem.textOf bytes = .error f ↔ String.fromUTF8? bytes = none ∧ f = .undecodableText := by
  unfold FileSystem.textOf
  cases String.fromUTF8? bytes <;> simp [eq_comm]

theorem exists_of_status_eq_error {f : Fault} (h : w.files.status w.here p = .error f) :
    ∃ s, f = .file .nameTooLong s := by
  unfold FileSystem.status at h
  split at h
  · cases h
  · exact ⟨_, (Except.error.inj h).symm⟩
  · cases h

/-- A text that is written as bytes is read again, apart from its line ends. -/
theorem textOf_toUTF8 (s : String) :
    FileSystem.textOf s.toUTF8 = .ok (String.ofList (FileSystem.unifyBreaks s.toList)) := by
  have hbytes : String.fromUTF8? s.toUTF8 = some s := dif_pos s.isValidUTF8
  rw [FileSystem.textOf, hbytes]

/-- A file that stands at a path is read. -/
theorem HoldsFile.readText_eq {bytes : ByteArray} (h : HoldsFile w p bytes) :
    w.files.readText w.here p = FileSystem.textOf bytes := by
  unfold HoldsFile FileSystem.status at h
  unfold FileSystem.readText
  split at h
  · rename_i found hfound
    obtain ⟨place, entry⟩ := found
    obtain rfl : entry = some (.file bytes) := Except.ok.inj h
    rw [hfound]
  · cases h
  · cases Except.ok.inj h

/-! ### Reading a file -/

theorem isFile_of_error {f : Fault} (h : w.files.status w.here p = .error f) :
    isFile p w = .error (.fault f) w := by
  simp only [isFile, look, see_bind, h]
  rfl

theorem isFile_of_ok {e : Option Entry} (h : w.files.status w.here p = .ok e)
    (hfile : ∀ bytes, e ≠ some (.file bytes)) : isFile p w = .ok false w := by
  simp only [isFile, look, see_bind, h]
  match e with
  | none | some .directory | some (.link _) => rfl
  | some (.file bytes) => exact absurd rfl (hfile bytes)

theorem HoldsFile.isFile_eq {bytes : ByteArray} (h : HoldsFile w p bytes) :
    isFile p w = .ok true w := by
  simp only [isFile, look, see_bind, show w.files.status w.here p = _ from h]
  rfl

theorem readObject_of_error {f : Fault} (h : w.files.status w.here p = .error f) :
    readObject file p w = .error (.fault f) w :=
  bind_of_error (isFile_of_error h)

theorem readObject_of_ok {e : Option Entry} (h : w.files.status w.here p = .ok e)
    (hfile : ∀ bytes, e ≠ some (.file bytes)) : readObject file p w = .ok none w :=
  bind_of_ok (isFile_of_ok h hfile)

theorem HoldsFile.readObject_of_error {bytes : ByteArray} (h : HoldsFile w p bytes)
    (hbytes : String.fromUTF8? bytes = none) :
    readObject file p w = .error (.fault .undecodableText) w := by
  refine (bind_of_ok h.isFile_eq).trans ?_
  simp only [if_true, look, see_bind, h.readText_eq, textOf_eq_error.mpr ⟨hbytes, rfl⟩]
  rfl

theorem HoldsFile.readObject_of_ok {bytes : ByteArray} {text : String} (h : HoldsFile w p bytes)
    (htext : FileSystem.textOf bytes = .ok text) :
    readObject file p w = ofExcept ((objectOf file p text).map some) w := by
  refine (bind_of_ok h.isFile_eq).trans ?_
  simp only [if_true, look, see_bind, h.readText_eq, htext]
  cases hobject : objectOf file p text with
  | ok v => exact bind_of_ok (ofExcept_eq_ok.mpr ⟨rfl, rfl⟩)
  | error q => exact bind_of_error (ofExcept_eq_error.mpr ⟨rfl, rfl⟩)

theorem objectOf_eq_ok {text : String} {v : Value} :
    objectOf file p text = .ok v ↔ Json.read text = .ok v ∧ v.isMapping = true := by
  unfold objectOf
  cases Json.read text with
  | ok u =>
    by_cases hu : u.isMapping = true
    · simp only [hu, if_true, Except.ok.injEq]
      exact ⟨fun h => ⟨h, h ▸ hu⟩, fun h => h.1⟩
    · simp only [hu, if_false, Except.ok.injEq, reduceCtorEq, false_iff, not_and]
      exact fun h => h ▸ hu
  | error e => cases e <;> simp

theorem objectOf_eq_fault {text : String} {f : Fault} :
    objectOf file p text = .error (.fault f) ↔ Json.read text = .error .tooDeep ∧
      f = .depthExceeded ∨ Json.read text = .error (.fault f) := by
  unfold objectOf
  cases Json.read text with
  | ok u => by_cases hu : u.isMapping = true <;> simp [hu]
  | error e => cases e <;> simp [eq_comm]

/-- The failure is about settings. -/
def Failure.ConcernsSettings (g : Failure) : Prop := g.report.category = .settings

theorem objectOf_eq_failure {text : String} {g : Failure}
    (h : objectOf file p text = .error (.failure g)) : g.ConcernsSettings := by
  unfold objectOf at h
  cases hread : Json.read text with
  | ok u =>
    by_cases hu : u.isMapping = true
    · simp [hread, hu] at h
    · simp only [hread, hu] at h
      obtain ⟨⟩ := h
      rfl
  | error e =>
    cases e with
    | malformed =>
      simp only [hread] at h
      obtain ⟨⟩ := h
      rfl
    | tooDeep | fault f => simp [hread] at h

/-! ### What a file says -/

/-- What may stand at a path. -/
theorem file_cases (w : World) (p : Path) :
    (∃ f, w.files.status w.here p = .error f) ∨
      (∃ e, w.files.status w.here p = .ok e ∧ ∀ bytes, e ≠ some (.file bytes)) ∨
      ∃ bytes, HoldsFile w p bytes ∧
        (String.fromUTF8? bytes = none ∨ ∃ text, FileSystem.textOf bytes = .ok text) := by
  cases hstatus : w.files.status w.here p with
  | error f => exact .inl ⟨f, rfl⟩
  | ok e =>
    by_cases hfile : ∃ bytes, e = some (.file bytes)
    · obtain ⟨bytes, rfl⟩ := hfile
      refine .inr (.inr ⟨bytes, hstatus, ?_⟩)
      cases htext : FileSystem.textOf bytes with
      | ok text => exact .inr ⟨text, rfl⟩
      | error f => exact .inl (textOf_eq_error.mp htext).1
    · exact .inr (.inl ⟨e, rfl, not_exists.mp hfile⟩)

/-- Reading a file gives what it says, and changes nothing. -/
theorem readObject_eq_ok {v : Option Value} :
    readObject file p w = .ok v w' ↔ Says w p v ∧ w = w' := by
  constructor
  · intro h
    rcases file_cases w p with ⟨f, hf⟩ | ⟨e, he, hfile⟩ | ⟨bytes, hholds, hbytes | ⟨text, htext⟩⟩
    · cases (readObject_of_error hf).symm.trans h
    · obtain ⟨rfl, rfl⟩ := EStateM.Result.ok.inj ((readObject_of_ok he hfile).symm.trans h)
      exact ⟨.nothing he hfile, rfl⟩
    · cases (hholds.readObject_of_error hbytes).symm.trans h
    · rw [hholds.readObject_of_ok htext, ofExcept_eq_ok, Except.map_eq_ok] at h
      obtain ⟨⟨u, hu, rfl⟩, rfl⟩ := h
      obtain ⟨hread, hmapping⟩ := objectOf_eq_ok.mp hu
      exact ⟨.object hholds htext hread hmapping, rfl⟩
  · rintro ⟨h | ⟨hfile, htext, hread, hv⟩, rfl⟩
    · exact readObject_of_ok ‹_› ‹_›
    · rw [hfile.readObject_of_ok htext, objectOf_eq_ok.mpr ⟨hread, hv⟩]
      rfl

/-- Reading a file comes to a fault exactly in four cases. -/
theorem readObject_eq_fault {f : Fault} :
    readObject file p w = .error (.fault f) w' ↔ Garbles w p f ∧ w = w' := by
  constructor
  · intro h
    rcases file_cases w p with ⟨f, hf⟩ | ⟨e, he, hfile⟩ | ⟨bytes, hholds, hbytes | ⟨text, htext⟩⟩
    · obtain ⟨⟨⟩, rfl⟩ := EStateM.Result.error.inj ((readObject_of_error hf).symm.trans h)
      obtain ⟨s, rfl⟩ := exists_of_status_eq_error hf
      exact ⟨.path hf, rfl⟩
    · cases (readObject_of_ok he hfile).symm.trans h
    · obtain ⟨⟨⟩, rfl⟩ :=
        EStateM.Result.error.inj ((hholds.readObject_of_error hbytes).symm.trans h)
      exact ⟨.bytes hholds hbytes, rfl⟩
    · rw [hholds.readObject_of_ok htext, ofExcept_eq_error, Except.map_eq_error] at h
      obtain ⟨hobject, rfl⟩ := h
      rcases objectOf_eq_fault.mp hobject with ⟨hdeep, rfl⟩ | hnumber
      · exact ⟨.depth hholds htext hdeep, rfl⟩
      · obtain rfl := Json.fault_of_read hnumber
        exact ⟨.number hholds htext hnumber, rfl⟩
  · rintro ⟨h | ⟨hfile, hbytes⟩ | ⟨hfile, htext, hdeep⟩ | ⟨hfile, htext, hnumber⟩, rfl⟩
    · exact readObject_of_error ‹_›
    · exact hfile.readObject_of_error hbytes
    · rw [hfile.readObject_of_ok htext, objectOf_eq_fault.mpr (.inl ⟨hdeep, rfl⟩)]
      rfl
    · rw [hfile.readObject_of_ok htext, objectOf_eq_fault.mpr (.inr hnumber)]
      rfl

theorem failsOnly_readObject : FailsOnly Failure.ConcernsSettings (readObject file p) := by
  intro w g w' h
  rcases file_cases w p with ⟨f, hf⟩ | ⟨e, he, hfile⟩ | ⟨bytes, hholds, hbytes | ⟨text, htext⟩⟩
  · cases (readObject_of_error hf).symm.trans h
  · cases (readObject_of_ok he hfile).symm.trans h
  · cases (hholds.readObject_of_error hbytes).symm.trans h
  · rw [hholds.readObject_of_ok htext, ofExcept_eq_error, Except.map_eq_error] at h
    exact objectOf_eq_failure h.1

/-! ### The files of the user and the project -/

/-- The directory of the user is looked up and made step by step. -/
theorem Action.Compositional.settingsDirectory {P : ∀ {α : Type}, Action α → Prop}
    (h : Compositional P) : P settingsDirectory := by
  have hhome (names : List String) : P (inHome names) :=
    h.bind (h.see _) fun _ => h.bind (h.see _) fun _ => h.bind (h.ofFault _) fun _ => h.pure _
  have hbase (named : Option String) : P (baseDirectory named [".config"]) := by
    unfold baseDirectory
    split
    · split
      · exact hhome _
      · exact h.pure _
    · exact hhome _
  have hmade (p : Path) : P (madeDirectory p) :=
    h.bind (h.see _) fun _ => h.bind (h.onFiles _) fun _ => h.pure _
  unfold ClientGen.settingsDirectory toolDirectory
  refine h.bind (h.see _) fun platform => ?_
  split
  · exact h.bind (h.see _) fun _ => h.bind (hbase _) fun _ => hmade _
  · exact h.bind (hhome _) fun _ => hmade _

/-- The path of the file of the user. -/
def userFile (directory : Path) : Path := directory.child "config.json"

/-- The path of the file of the project. -/
def projectFile (w : World) : Path := (Path.ofPlace w.here).child "sdkmaker.json"

theorem projectSettings_eq : projectSettings w = readObject .project (projectFile w) w := rfl

/-- Making the directory of the user changes nothing but the files. -/
theorem eq_of_settingsDirectory {directory : Path}
    (h : settingsDirectory w = .ok directory w') : w' = { w with files := w'.files } :=
  compositional_keepsRest.settingsDirectory w directory w' h

theorem ofValue_nil : Settings.ofValue (.mapping []) = .ok {} := rfl

/-- The settings of the user are those that the file shows, or the defaults. -/
theorem userSettings_eq_ok {s : Settings} : userSettings w = .ok s w' ↔
    ∃ directory v, settingsDirectory w = .ok directory w' ∧ Says w' (userFile directory) v ∧
      Settings.ofValue (v.getD (.mapping [])) = .ok s := by
  simp only [userSettings, bind_eq_ok, readObject_eq_ok]
  constructor
  · rintro ⟨directory, v, hdirectory, o, _, ⟨hsaid, rfl⟩, h⟩
    cases o with
    | none =>
      obtain ⟨rfl, rfl⟩ := pure_eq_ok.mp h
      exact ⟨directory, none, hdirectory, hsaid, ofValue_nil⟩
    | some u =>
      cases hs : Settings.ofValue u with
      | error n =>
        simp only [hs] at h
        cases h
      | ok s =>
        simp only [hs] at h
        obtain ⟨rfl, rfl⟩ := pure_eq_ok.mp h
        exact ⟨directory, some u, hdirectory, hsaid, hs⟩
  · rintro ⟨directory, o, hdirectory, hsaid, hs⟩
    refine ⟨directory, w', hdirectory, o, w', ⟨hsaid, rfl⟩, ?_⟩
    cases o with
    | none => exact pure_eq_ok.mpr ⟨Except.ok.inj (ofValue_nil.symm.trans hs), rfl⟩
    | some u =>
      rw [Option.getD_some] at hs
      simp only [hs]
      rfl

/-- The settings of the user come to a fault with their directory or their file. -/
theorem userSettings_eq_fault {f : Fault} : userSettings w = .error (.fault f) w' ↔
    settingsDirectory w = .error (.fault f) w' ∨
      ∃ directory, settingsDirectory w = .ok directory w' ∧ Garbles w' (userFile directory) f := by
  simp only [userSettings, bind_eq_error, readObject_eq_fault]
  refine or_congr_right ⟨?_, ?_⟩
  · rintro ⟨directory, v, hdirectory, ⟨hgarbles, rfl⟩ | ⟨o, v', -, h⟩⟩
    · exact ⟨directory, hdirectory, hgarbles⟩
    · cases o with
      | none => cases h
      | some u =>
        cases hs : Settings.ofValue u with
        | ok s =>
          simp only [hs] at h
          cases h
        | error n =>
          simp only [hs] at h
          obtain ⟨⟨⟩, -⟩ := fail_eq_error.mp h
  · rintro ⟨directory, hdirectory, hgarbles⟩
    exact ⟨directory, w', hdirectory, .inl ⟨hgarbles, rfl⟩⟩

theorem failsOnly_userSettings : FailsOnly Failure.ConcernsSettings userSettings := by
  refine .bind (compositional_failsOnly _).settingsDirectory fun directory =>
    .bind failsOnly_readObject fun o => ?_
  split
  · exact .pure _
  · split
    · exact .pure _
    · exact .fail rfl

end ClientGen
