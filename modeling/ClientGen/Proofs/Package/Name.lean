import ClientGen.Package.Name
import ClientGen.Proofs.CommandLine.Preview
import ClientGen.Proofs.Text.Cutting

/-!
# Names of packages

The name that a package gets from a title is made of words with hyphens between them, and its last
word is `sdk`. A word is a run of small letters and digits, and so the name is one component of a
path. A package that is generated without a name and without a directory goes into the directory of
this name, which lies right below the working directory.

## Main definitions

* `ClientGen.Package.words` : the runs of small letters and digits in a text.
* `ClientGen.Package.titleWords` : the words in the name for a title.

## Main results

* `ClientGen.Package.exists_hyphenate_eq` : hyphens stand between the words of a text, and perhaps
  at its ends.
* `ClientGen.Package.slug_eq_intercalate`, `ClientGen.Package.toList_packageName` : the name for a
  title.
* `ClientGen.Path.parse_of_not_mem` : a name without slashes is a path.
* `ClientGen.Package.target_of_title` : the name and the directory of a package.
-/

namespace ClientGen

open Text

/-! ### Words with hyphens between them -/

namespace Package

variable {cs w : List Char} {ws : List (List Char)}

/-- The runs of small letters and digits in a text. -/
def words (cs : List Char) : List (List Char) :=
  (cs.splitOnP fun c => !isSlugChar c).filter (· ≠ [])

theorem mem_words (h : w ∈ words cs) : w ≠ [] ∧ ∀ c ∈ w, isSlugChar c = true := by
  have hrun : w ∈ cs.splitOnP (fun c => !isSlugChar c) ∧ w ≠ [] := by simpa [words] using h
  refine ⟨hrun.2, fun c hc => ?_⟩
  have hkept : (!isSlugChar c) = false := not_of_mem_splitOnP w hrun.1 c hc
  rwa [Bool.not_eq_false'] at hkept

theorem hyphen_not_mem (h : ∀ c ∈ w, isSlugChar c = true) : '-' ∉ w := fun hmem =>
  absurd (h '-' hmem) (by decide)

/-- Joining leaves the first run of a text and, each behind a hyphen, the other runs that are not
empty. One more hyphen may stand at the end. Where a hyphen stands in front, every run stands behind
one. -/
theorem exists_hyphenate_eq (cs : List Char) :
    ∃ w ws, cs.splitOnP (fun c => !isSlugChar c) = w :: ws ∧
      (∃ t, (t = [] ∨ t = ['-']) ∧
        hyphenate false cs = w ++ (ws.filter (· ≠ [])).flatMap ('-' :: ·) ++ t) ∧
      ∃ t, (t = [] ∨ t = ['-']) ∧
        '-' :: hyphenate true cs = ((w :: ws).filter (· ≠ [])).flatMap ('-' :: ·) ++ t := by
  -- A letter ends the second state and another character the first one: each needs the other.
  induction cs with
  | nil => exact ⟨[], [], rfl, ⟨[], .inl rfl, rfl⟩, ['-'], .inr rfl, rfl⟩
  | cons c cs ih =>
    obtain ⟨w, ws, hsplit, ⟨t, ht, hopen⟩, t', ht', hjoined⟩ := ih
    rw [List.splitOnP_cons_eq_if_modifyHead, hsplit]
    by_cases hc : isSlugChar c = true
    · refine ⟨c :: w, ws, by simp [hc], ⟨t, ht, ?_⟩, t, ht, ?_⟩
      · simp [hyphenate, hc, hopen]
      · simp [hyphenate, hc, hopen]
    · refine ⟨[], w :: ws, by simp [hc], ⟨t', ht', ?_⟩, t', ht', ?_⟩
      · simpa [hyphenate, hc] using hjoined
      · simpa [hyphenate, hc] using hjoined

/-- The hyphens at the ends do not depend on what stands in front. -/
theorem trimWith_hyphenate (cs : List Char) : trimWith (· == '-') (hyphenate false cs) =
    trimWith (· == '-') ('-' :: hyphenate true cs) := by
  cases cs with
  | nil => rfl
  | cons c cs =>
    by_cases hc : isSlugChar c = true
    · rw [trimWith_cons_of_pos (p := (· == '-')) rfl]
      simp [hyphenate, hc]
    · simp [hyphenate, hc]

/-- The words of a text are joined by hyphens. -/
theorem trimWith_hyphenate_eq_intercalate (cs : List Char) :
    trimWith (· == '-') (hyphenate false cs) = ['-'].intercalate (words cs) := by
  obtain ⟨w, ws, hsplit, -, t, ht, hjoined⟩ := exists_hyphenate_eq cs
  rw [← hsplit, ← words] at hjoined
  have htrim : trimWith (· == '-') ('-' :: hyphenate true cs) =
      trimWith (· == '-') ((words cs).flatMap ('-' :: ·)) := by
    rw [hjoined]
    rcases ht with rfl | rfl
    · rw [List.append_nil]
    · exact trimWith_concat_of_pos (p := (· == '-')) rfl _
  rw [trimWith_hyphenate, htrim]
  cases hwords : words cs with
  | nil => rfl
  | cons w ws =>
    have hall : ∀ v ∈ w :: ws, v ≠ [] ∧ '-' ∉ v := fun v hv =>
      (mem_words (hwords ▸ hv)).imp_right hyphen_not_mem
    have hjoin : (w :: ws).flatMap ('-' :: ·) = '-' :: ['-'].intercalate (w :: ws) := by
      rw [intercalate_cons_eq_append, List.flatMap_cons, List.cons_append]
    rw [hjoin, trimWith_cons_of_pos (p := (· == '-')) rfl,
      trimWith_intercalate (List.cons_ne_nil w ws) (hall w List.mem_cons_self).1
        (hall _ (List.getLast_mem _)).1 fun v hv => (hall v hv).2]

section Hyphens

variable (h : ∀ w ∈ ws, w ≠ [] ∧ '-' ∉ w)

include h

theorem head?_intercalate_ne : (['-'].intercalate ws).head? ≠ some '-' := by
  cases ws with
  | nil => nofun
  | cons w ws =>
    obtain ⟨hne, hw⟩ := h w List.mem_cons_self
    obtain ⟨c, w, rfl⟩ := List.exists_cons_of_ne_nil hne
    rw [intercalate_cons_eq_append, List.cons_append, List.head?_cons]
    exact fun hc => hw (Option.some.inj hc ▸ List.mem_cons_self)

theorem getLast?_intercalate_ne : (['-'].intercalate ws).getLast? ≠ some '-' := by
  by_cases hws : ws = []
  · rw [hws]
    nofun
  · obtain ⟨cs, hcs⟩ := exists_intercalate_eq ['-'] hws
    obtain ⟨hne, hlast⟩ := h _ (List.getLast_mem hws)
    rw [hcs, List.getLast?_append_of_ne_nil _ hne]
    exact fun hc => hlast (List.mem_of_getLast? hc)

/-- No two hyphens stand in a row between words. -/
theorem not_doubled_intercalate : ¬ ['-', '-'] <:+: ['-'].intercalate ws := by
  have hword {w : List Char} (hw : '-' ∉ w) (cs : List Char) :
      ['-', '-'] <:+: w ++ cs → ['-', '-'] <:+: cs := by
    induction w with
    | nil => exact id
    | cons c w ih =>
      obtain ⟨hc, hw⟩ := List.ne_and_not_mem_of_not_mem_cons hw
      intro hinfix
      rcases List.infix_cons_iff.mp hinfix with hprefix | hinfix
      · exact absurd (List.cons_prefix_cons.mp hprefix).1 hc
      · exact ih hw hinfix
  induction ws with
  | nil => simp
  | cons w ws ih =>
    obtain ⟨⟨-, hw⟩, hws⟩ := List.forall_mem_cons.mp h
    intro hinfix
    cases ws with
    | nil =>
      rw [List.intercalate_singleton, ← List.append_nil w] at hinfix
      simpa using hword hw [] hinfix
    | cons v ws =>
      rw [List.intercalate_cons_cons, List.append_assoc] at hinfix
      rcases List.infix_cons_iff.mp (hword hw _ hinfix) with hprefix | hinfix
      · obtain ⟨rest, hrest⟩ := (List.cons_prefix_cons.mp hprefix).2
        exact head?_intercalate_ne hws (congrArg List.head? hrest).symm
      · exact ih hws hinfix

end Hyphens

/-! ### Names for titles -/

/-- The words in the name for a title, in front of the last one. -/
def titleWords (title : String) : List (List Char) :=
  match words (replaceFirst "api".toList [] (title.toList.flatMap lowerChar)) with
  | [] => ["client".toList]
  | ws => ws

theorem titleWords_ne_nil (title : String) : titleWords title ≠ [] := by
  unfold titleWords
  split
  · exact List.cons_ne_nil _ _
  · assumption

theorem mem_titleWords {title : String} (h : w ∈ titleWords title) :
    w ≠ [] ∧ ∀ c ∈ w, isSlugChar c = true := by
  unfold titleWords at h
  split at h
  · rw [List.mem_singleton.mp h]
    exact ⟨by decide, List.all_eq_true.mp (by decide)⟩
  · exact mem_words h

/-- The name for a title has the words of the title with hyphens between them. -/
theorem toList_packageName (title : String) :
    (packageName title).toList = ['-'].intercalate (titleWords title ++ ["sdk".toList]) := by
  have hslug : slug title.toList = ['-'].intercalate
      (words (replaceFirst "api".toList [] (title.toList.flatMap lowerChar))) :=
    trimWith_hyphenate_eq_intercalate _
  rw [packageName, String.toList_ofList, hslug]
  unfold titleWords
  cases hwords : words (replaceFirst "api".toList [] (title.toList.flatMap lowerChar)) with
  | nil => rfl
  | cons w ws =>
    have hne : w ≠ [] := (mem_words (hwords ▸ List.mem_cons_self)).1
    simp [intercalate_cons_eq_append, hne]

end Package

/-! ### Names as paths -/

namespace Path

variable {s : String}

/-- A name that is not empty and has no slash is a path, unless it is a single dot. -/
theorem parse_of_not_mem (hslash : '/' ∉ s.toList) (hne : s ≠ "") (hdot : s ≠ ".") :
    parse s = { anchor := .here, names := [s] } := by
  have hstart : s.toList.takeWhile (· == '/') = [] := by
    cases hs : s.toList with
    | nil => rfl
    | cons c cs =>
      have hc : c ≠ '/' := fun hc => hslash (hs ▸ hc ▸ List.mem_cons_self)
      exact List.takeWhile_cons_of_neg (by simp [hc])
  rw [parse, hstart, List.splitOn_eq_singleton hslash]
  simp [anchorOf, hne, hdot]

end Path

/-! ### Directories of packages -/

namespace Package

variable {o : GenerateOptions} {format : Option OutputFormat} {w w' : World} {g : Generation}

theorem mem_append_sdk {title : String} {v : List Char}
    (h : v ∈ titleWords title ++ ["sdk".toList]) : v ≠ [] ∧ ∀ c ∈ v, isSlugChar c = true := by
  rcases List.mem_append.mp h with h | h
  · exact mem_titleWords h
  · rw [List.mem_singleton.mp h]
    exact ⟨by decide, List.all_eq_true.mp (by decide)⟩

/-- The name for a title has only small letters, digits and hyphens. -/
theorem not_mem_packageName {c : Char} (hhyphen : c ≠ '-') (hc : isSlugChar c = false)
    (title : String) : c ∉ (packageName title).toList := by
  have hword : ∀ v ∈ titleWords title ++ ["sdk".toList], c ∉ v := by
    intro v hv hmem
    rw [(mem_append_sdk hv).2 c hmem] at hc
    cases hc
  obtain ⟨v, vs, hvs⟩ := List.exists_cons_of_ne_nil (titleWords_ne_nil title)
  rw [hvs, List.cons_append, List.forall_mem_cons] at hword
  rw [toList_packageName, hvs, List.cons_append, intercalate_cons_eq_append, List.mem_append,
    List.mem_flatMap]
  rintro (hmem | ⟨u, hu, hmem⟩)
  · exact hword.1 hmem
  · exact hword.2 u hu (List.mem_of_ne_of_mem hhyphen hmem)

/-- A package that has its name from its title is written right below the working directory. -/
theorem target_of_prepare (h : Generation.prepare o format w = .ok g w')
    (hname : o.packageName = none) (houtput : o.output = none) :
    g.target o = { anchor := .here, names := [packageName g.client.name] } ∧
      ∀ here, (g.target o).placeFrom here = here ++ [packageName g.client.name] ∧
        ∀ s : FileSystem, s.IsSettled (here ++ [packageName g.client.name]) →
          s.resolve here (g.target o) = .ok (here ++ [packageName g.client.name]) := by
  obtain ⟨-, _, _, -, -, hg, -⟩ := prepare_eq_ok.mp h
  rw [hname, Option.getD_none] at hg
  have hne : packageName g.client.name ≠ "" := by
    intro hempty
    have hnil := congrArg String.toList hempty
    rw [packageName, String.toList_ofList] at hnil
    exact List.append_ne_nil_of_right_ne_nil _ (by decide) hnil
  have hslash : '/' ∉ (packageName g.client.name).toList := not_mem_packageName (by decide) rfl _
  have hperiod : '.' ∉ (packageName g.client.name).toList := not_mem_packageName (by decide) rfl _
  have hdot : packageName g.client.name ≠ "." := fun heq => hperiod (heq ▸ by decide)
  have hup : packageName g.client.name ≠ ".." := fun heq => hperiod (heq ▸ by decide)
  have htarget : g.target o = { anchor := .here, names := [packageName g.client.name] } := by
    rw [Generation.target, houtput, Option.getD_none, hg]
    exact Path.parse_of_not_mem hslash hne hdot
  refine ⟨htarget, fun here => ⟨?_, fun s hsettled => ?_⟩⟩
  · rw [htarget, Path.placeFrom, Path.start, if_pos rfl, List.foldl_cons, List.foldl_nil, Path.step,
      if_neg hup]
  · rw [htarget]
    refine FileSystem.resolve_of_isSettled hsettled (List.forall_mem_singleton.mpr ⟨hup, ?_⟩)
    exact not_mem_packageName (by decide) rfl _

/-- **Names of packages.** The name that a package gets from a title is made of words of small
letters and digits with hyphens between them, the last of which is `sdk`. So it has no hyphen at its
ends, no two in a row, no slash and no dot. A package that is generated without a name and without
a directory goes into the directory of this name right below the working directory, unless this is a
link. -/
theorem target_of_title (title : String) :
    (∃ ws : List (List Char), ws ≠ [] ∧ (∀ v ∈ ws, v ≠ [] ∧ ∀ c ∈ v, isSlugChar c = true) ∧
      (packageName title).toList = ['-'].intercalate (ws ++ ["sdk".toList])) ∧
    ((packageName title).toList.head? ≠ some '-' ∧ (packageName title).toList.getLast? ≠ some '-' ∧
      ¬ "--".toList <:+: (packageName title).toList ∧ '/' ∉ (packageName title).toList ∧
      '.' ∉ (packageName title).toList) ∧
    ∀ o format w g w', Generation.prepare o format w = .ok g w' → o.packageName = none →
      o.output = none → g.client.name = title →
      g.target o = { anchor := .here, names := [packageName title] } ∧
        ∀ here, (g.target o).placeFrom here = here ++ [packageName title] ∧
          ∀ s : FileSystem, s.IsSettled (here ++ [packageName title]) →
            s.resolve here (g.target o) = .ok (here ++ [packageName title]) := by
  have hwords : ∀ v ∈ titleWords title ++ ["sdk".toList], v ≠ [] ∧ '-' ∉ v := fun v hv =>
    (mem_append_sdk hv).imp_right hyphen_not_mem
  have hhyphens := not_doubled_intercalate hwords
  have hstart := head?_intercalate_ne hwords
  have hend := getLast?_intercalate_ne hwords
  rw [← toList_packageName] at hhyphens hstart hend
  refine ⟨⟨titleWords title, titleWords_ne_nil title, fun _ => mem_titleWords,
    toList_packageName title⟩, ⟨hstart, hend, hhyphens, not_mem_packageName (by decide) rfl title,
      not_mem_packageName (by decide) rfl title⟩, ?_⟩
  rintro o format w g w' h hname houtput rfl
  exact target_of_prepare h hname houtput

/-- A description with a title. -/
def titledText : String :=
  "\x7b\"openapi\":\"3.0.0\",\"info\":\x7b\"title\":\"My API Service\"\x7d\x7d"

theorem target_of_title_titledText :
    ∃ g u, Generation.prepare { source := titledText } none barrenWorld = .ok g u ∧
      (g.target { source := titledText }).placeFrom barrenWorld.here =
        barrenWorld.here ++ [packageName "My API Service"] ∧
      barrenWorld.files.resolve barrenWorld.here (g.target { source := titledText }) =
        .ok (barrenWorld.here ++ [packageName "My API Service"]) := by
  have hprepare : ∃ g u, Generation.prepare { source := titledText } none barrenWorld = .ok g u ∧
      g.client.name = "My API Service" := by decide +kernel
  obtain ⟨g, u, hprepare, htitle⟩ := hprepare
  obtain ⟨-, -, htarget⟩ := target_of_title "My API Service"
  obtain ⟨hplace, hresolve⟩ := (htarget _ _ _ _ _ hprepare rfl rfl htitle).2 barrenWorld.here
  exact ⟨g, u, hprepare, hplace, hresolve _ (by decide +kernel)⟩

example : packageName "My API Service" = "my-service-sdk" := by decide +kernel

end Package

end ClientGen
