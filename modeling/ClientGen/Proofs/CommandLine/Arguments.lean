import ClientGen.CommandLine.Command

/-!
# Arguments that ask for a package

A command line asks for a package if it is read as the command for that, whatever options stand in
front of it and behind it. Every such command line has another one beside it that asks for the same,
for JSON, and for the files only.

## Main definitions

* `ClientGen.Generates` : a command line asks for a package.

## Main results

* `ClientGen.CommonOptions.parse_eq_run`, `ClientGen.Command.parse_generate_eq_run` : command lines
  that are read as a command.
* `ClientGen.Generates.exists_shown` : asking for the files only.
-/

namespace ClientGen

deriving instance DecidableEq for Parsed

/-- The first argument that is no option ends the options, whatever follows it. -/
theorem OptionSpec.exists_of_scan {specs : List OptionSpec} {arguments rest : List String}
    {name : String} {s : Scanned} (h : scan specs false arguments = some s)
    (hs : s.arguments = name :: rest) : ∃ front, arguments = front ++ name :: rest ∧
      ∀ rest', scan specs false (front ++ name :: rest') =
        some { s with arguments := name :: rest' } := by
  fun_induction scan specs false arguments generalizing s with
  | case1 =>
    obtain rfl := Option.some.inj h
    cases hs
  | case2 others =>
    obtain rfl := Option.some.inj h
    obtain rfl : others = name :: rest := hs
    exact ⟨["--"], rfl, fun rest' => by simp [scan]⟩
  | case3 | case5 => cases h
  | case4 a others hend hoption options hread ih =>
    obtain ⟨t, ht, rfl⟩ := Option.map_eq_some_iff.mp h
    obtain ⟨front, rfl, hfront⟩ := ih ht hs
    refine ⟨a :: front, rfl, fun rest' => ?_⟩
    simp [scan, hend, hoption, hread, hfront, withGiven]
  | case6 a hend hoption options key hread v others ih =>
    obtain ⟨t, ht, rfl⟩ := Option.map_eq_some_iff.mp h
    obtain ⟨front, rfl, hfront⟩ := ih ht hs
    refine ⟨a :: v :: front, rfl, fun rest' => ?_⟩
    simp [scan, hend, hoption, hread, hfront, withGiven]
  | case7 => contradiction
  | case8 a others hend hoption =>
    obtain rfl := Option.some.inj h
    obtain ⟨rfl, rfl⟩ := List.cons.inj hs
    exact ⟨[], rfl, fun rest' => by simp [scan, hend, hoption]⟩

variable {arguments : List String} {c : CommonOptions} {o : GenerateOptions}

/-- Help and the version are no command. -/
theorem eager?_ne_run {α : Type} {s : Scanned} {asked : Parsed α} (h : eager? s = some asked)
    (x : α) : asked ≠ .run x := by
  obtain ⟨option, -, rfl⟩ := Option.map_eq_some_iff.mp h
  split <;> nofun

theorem askedBy_ne_run {α : Type} (specs : List OptionSpec) (arguments : List String) (x : α) :
    (askedBy specs arguments : Parsed α) ≠ .run x := by
  unfold askedBy
  split
  · nofun
  · rename_i s _
    cases hasked : (eager? s : Option (Parsed α)) with
    | none => nofun
    | some asked => exact eager?_ne_run hasked x

theorem CommonOptions.parse_eq_run {rest : List String} {name : String} :
    CommonOptions.parse arguments = .run (c, name, rest) ↔ ∃ s,
      OptionSpec.scan CommonOptions.specs false arguments = some s ∧
      (eager? s : Option (Parsed (CommonOptions × String × List String))) = none ∧
      s.arguments = name :: rest ∧
      commandNames.contains name = true ∧ CommonOptions.ofScanned s = c := by
  unfold CommonOptions.parse
  cases hscan : OptionSpec.scan CommonOptions.specs false arguments with
  | none => simp
  | some s =>
    simp only [Option.some.injEq, exists_eq_left']
    cases hasked : (eager? s : Option (Parsed (CommonOptions × String × List String))) with
    | some asked => simpa using eager?_ne_run hasked _
    | none =>
      cases hs : s.arguments with
      | nil => simp
      | cons n others =>
        dsimp only
        split
        · rename_i hn
          simp only [Parsed.run.injEq, Prod.mk.injEq, true_and, List.cons.injEq]
          constructor
          · rintro ⟨hc, rfl, rfl⟩
            exact ⟨⟨rfl, rfl⟩, hn, hc⟩
          · rintro ⟨⟨rfl, rfl⟩, -, hc⟩
            exact ⟨hc, rfl, rfl⟩
        · rename_i hn
          refine iff_of_false (askedBy_ne_run _ _ _) ?_
          rintro ⟨-, hargs, hname, -⟩
          obtain ⟨rfl, -⟩ := List.cons.inj hargs
          exact hn hname

theorem Command.parse_generate_eq_run {arguments : List String} {command : Command} :
    Command.parse "generate" arguments = .run command ↔ ∃ s source,
      OptionSpec.scan generateSpecs true arguments = some s ∧
      (eager? s : Option (Parsed Command)) = none ∧ hasZeroOutput s = false ∧
      s.arguments = [source] ∧
      command = .generate {
        source, output := s.value? "output", packageName := s.value? "package-name",
        defaultController := s.value? "default-controller",
        internalMarker := s.value? "internal-marker", dryRun := s.has "dry-run" } := by
  have hparse : Command.parse "generate" arguments = Command.parseGenerate arguments := rfl
  rw [hparse, Command.parseGenerate]
  constructor
  · intro h
    split at h
    · cases h
    · rename_i s hscan
      split at h
      · rename_i hasked
        exact absurd h (eager?_ne_run hasked command)
      · rename_i hasked
        split at h
        · cases h
        · rename_i hzero
          split at h
          · rename_i source hsource
            obtain rfl := Parsed.run.inj h
            exact ⟨s, source, hscan, hasked, Bool.eq_false_iff.mpr hzero, hsource, rfl⟩
          · cases h
  · rintro ⟨s, source, hscan, hasked, hzero, hsource, rfl⟩
    simp only [hscan, hasked, hzero, hsource]
    rfl

/-- A command line asks for a package. -/
def Generates (arguments : List String) (c : CommonOptions) (o : GenerateOptions) : Prop :=
  ∃ rest, CommonOptions.parse arguments = .run (c, "generate", rest) ∧
    Command.parse "generate" rest = .run (.generate o)

/-- Every call can also ask for JSON, and for the files only. -/
theorem Generates.exists_shown (h : Generates arguments c o) : ∃ front rest,
    arguments = front ++ "generate" :: rest ∧
      Generates ("--json" :: front ++ "generate" :: "--dry-run" :: rest)
        { c with json := true } { o with dryRun := true } := by
  obtain ⟨rest, hparse, hcommand⟩ := h
  obtain ⟨s, hscan, hasked, hs, hname, rfl⟩ := CommonOptions.parse_eq_run.mp hparse
  obtain ⟨front, rfl, hfront⟩ := OptionSpec.exists_of_scan hscan hs
  obtain ⟨t, source, hscan', hasked', hzero, ht, ho⟩ := Command.parse_generate_eq_run.mp hcommand
  obtain rfl := Command.generate.inj ho
  refine ⟨front, rest, rfl, "--dry-run" :: rest, CommonOptions.parse_eq_run.mpr
    ⟨OptionSpec.withGiven [("json", "")]
      { s with arguments := "generate" :: "--dry-run" :: rest }, ?_, ?_, rfl, hname, ?_⟩,
    Command.parse_generate_eq_run.mpr
      ⟨OptionSpec.withGiven [("dry-run", "")] t, source, ?_, ?_, ?_, ht, ?_⟩⟩
  · have hjson (others : List String) : OptionSpec.scan CommonOptions.specs false
        ("--json" :: others) = (OptionSpec.scan CommonOptions.specs false others).map
          (OptionSpec.withGiven [("json", "")]) := rfl
    rw [List.cons_append, hjson, hfront]
    rfl
  · simpa [eager?, OptionSpec.withGiven] using hasked
  · simp [CommonOptions.ofScanned, OptionSpec.withGiven, Scanned.has]
  · have hdry : OptionSpec.scan Command.generateSpecs true ("--dry-run" :: rest) =
        (OptionSpec.scan Command.generateSpecs true rest).map
          (OptionSpec.withGiven [("dry-run", "")]) := rfl
    rw [hdry, hscan']
    rfl
  · simpa [eager?, OptionSpec.withGiven] using hasked'
  · simpa [Command.hasZeroOutput, OptionSpec.withGiven, Scanned.value?, List.lookup_append,
      List.lookup_cons] using hzero
  · simp [OptionSpec.withGiven, Scanned.value?, List.lookup_append, List.lookup_cons, Scanned.has]

end ClientGen
