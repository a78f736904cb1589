import OrderOfGrowth.Proofs.ChosenSettings
import OrderOfGrowth.Proofs.Items
import OrderOfGrowth.Proofs.Reach
import OrderOfGrowth.Proofs.RefusedPatterns
import OrderOfGrowth.Proofs.SettingsFile

/-! # Exit codes — which faults end a run, and which only cost a line

    A run passes three gates: the chosen settings file is loaded, then standard input is read if
    there are no paths, or the patterns are compiled if there are.  A fault at a gate ends the run
    with code 1 and no output (`code_eq_one_iff`, `output_eq_nil_of_code`).  Of the gates:

    * `Settings.Chosen` — a settings file is chosen because it exists, not because it can be loaded,
      so a broken file is never passed over;
    * `GlobLibrary.Refuses` — patterns are refused if one of them cannot be read, or if the library
      does not compile all that was read together.

    Behind the gates nothing ends the run any more.  What it gives is put together item by item
    (`outcome_eq_of_items`), and an item without a text adds one line and no report, so without it
    everything else stays as it is (`outcome_of_oneLess`).  What cannot be listed is no item, so the
    files below it are lost without a line. -/

namespace OrderOfGrowth

namespace CommandLine

open Settings (Chosen Loadable Unloadable)

section Loading

variable {i : Invocation} {env : Environment}

theorem exists_chosen (i : Invocation) (env : Environment) :
    ∃ chosen, Chosen env.files env.configurationDirectory i.settings chosen := by
  cases i.settings with
  | some path => exact ⟨_, .named path⟩
  | none => exact ⟨_, (Settings.candidate?_eq_iff env.files env.configurationDirectory _).mp rfl⟩

theorem loadSettings_of_absent (h : Chosen env.files env.configurationDirectory i.settings none) :
    ∃ told, loadSettings i env = .ok (.standard, told) := by
  rw [loadSettings]
  generalize i.settings = named at h
  cases named with
  | some path => exact nomatch h
  | none =>
      have hnone := (Settings.candidate?_eq_iff env.files env.configurationDirectory none).mpr h
      rw [Settings.load, hnone]
      exact ⟨_, rfl⟩

/-- A run loads its settings from the chosen file, for better or worse. -/
theorem loadSettings_of_chosen {path : Path}
    (h : Chosen env.files env.configurationDirectory i.settings (some path)) :
    ∃ (told : Notice) (abort : Failure → Abort), loadSettings i env =
      match Settings.loadFile env.files path with
      | .ok s => .ok (s, told)
      | .error f => .error (abort f) := by
  rw [loadSettings]
  generalize i.settings = named at h
  cases named with
  | some _ =>
      cases h
      exact ⟨_, _, rfl⟩
  | none =>
      rw [Settings.load, (Settings.candidate?_eq_iff env.files env.configurationDirectory _).mpr h]
      exact ⟨_, _, rfl⟩

/-- Where the settings were loaded from is told in the log. -/
theorem exists_record_of_loadSettings {s : Settings} {told : Notice}
    (h : loadSettings i env = .ok (s, told)) : ∃ record, told = .log record := by
  unfold loadSettings at h
  split at h
  · split at h
    · exact ⟨_, (Prod.mk.inj (Except.ok.inj h)).2.symm⟩
    · exact nomatch h
  · split at h
    · exact ⟨_, (Prod.mk.inj (Except.ok.inj h)).2.symm⟩
    · exact nomatch h

end Loading

/-- The settings of a run: those of the chosen file, or the standard ones if there is no file. -/
inductive Configured (i : Invocation) (env : Environment) : Settings → Prop where
  | loaded {path : Path} {s : Settings} :
      Chosen env.files env.configurationDirectory i.settings (some path) →
      Loadable env.files path s → Configured i env s
  | standard :
      Chosen env.files env.configurationDirectory i.settings none → Configured i env .standard

theorem exists_loadSettings_iff (i : Invocation) (env : Environment) (s : Settings) :
    (∃ told, loadSettings i env = .ok (s, told)) ↔ Configured i env s := by
  constructor
  · rintro ⟨told, htold⟩
    obtain ⟨_ | path, hchosen⟩ := exists_chosen i env
    · obtain ⟨_, hload⟩ := loadSettings_of_absent hchosen
      obtain ⟨rfl, -⟩ := Prod.mk.inj (Except.ok.inj (hload.symm.trans htold))
      exact .standard hchosen
    · obtain ⟨_, _, hload⟩ := loadSettings_of_chosen hchosen
      rw [hload] at htold
      split at htold
      · next hfile =>
          obtain ⟨rfl, -⟩ := Prod.mk.inj (Except.ok.inj htold)
          exact .loaded hchosen ((Settings.loadFile_eq_ok_iff _ _ _).mp hfile)
      · exact nomatch htold
  · rintro (⟨hchosen, hfile⟩ | hchosen)
    · obtain ⟨told, _, hload⟩ := loadSettings_of_chosen hchosen
      exact ⟨told, by rw [hload, (Settings.loadFile_eq_ok_iff _ _ _).mpr hfile]⟩
    · exact loadSettings_of_absent hchosen

theorem exists_loadSettings_eq_error_iff (i : Invocation) (env : Environment) :
    (∃ a, loadSettings i env = .error a) ↔
      ∃ path, Chosen env.files env.configurationDirectory i.settings (some path) ∧
        Unloadable env.files path := by
  constructor
  · rintro ⟨a, ha⟩
    obtain ⟨_ | path, hchosen⟩ := exists_chosen i env
    · obtain ⟨_, hload⟩ := loadSettings_of_absent hchosen
      exact nomatch ha.symm.trans hload
    · obtain ⟨_, _, hload⟩ := loadSettings_of_chosen hchosen
      rw [hload] at ha
      split at ha
      · exact nomatch ha
      · next f hfile =>
          exact ⟨path, hchosen, (Settings.exists_loadFile_eq_error_iff _ _).mp ⟨f, hfile⟩⟩
  · rintro ⟨path, hchosen, hfile⟩
    obtain ⟨_, abort, hload⟩ := loadSettings_of_chosen hchosen
    obtain ⟨f, hf⟩ := (Settings.exists_loadFile_eq_error_iff _ _).mpr hfile
    exact ⟨abort f, by rw [hload, hf]⟩

/-! ## Exit codes -/

section Code

variable (globs : GlobLibrary)

theorem exists_analyse_eq_error_iff (i : Invocation) (env : Environment) (s : Settings) :
    (∃ a, analyse globs i env s = .error a) ↔
      (i.paths = [] ∧ ∀ t, env.input ≠ .ofText t) ∨ (i.paths ≠ [] ∧ globs.Refuses s.ignore) := by
  have hinput : (∀ t, env.input ≠ .ofText t) ↔ env.input.text? = none := by
    simp only [ne_eq, ← Contents.text?_eq_some_iff, Option.eq_none_iff_forall_not_mem,
      Option.mem_def]
  rw [← Settings.exists_matcher_eq_error_iff, hinput, analyse]
  by_cases hpaths : i.paths = []
  · cases env.input.text? with
    | none => simp [hpaths]
    | some source => simp [hpaths]
  · cases s.matcher globs with
    | ok matcher => simp [hpaths]
    | error f => simp [hpaths]

theorem configured_iff {i : Invocation} {env : Environment} {s : Settings} {told : Notice}
    (h : loadSettings i env = .ok (s, told)) (s' : Settings) :
    Configured i env s' ↔ s' = s := by
  rw [← exists_loadSettings_iff, h]
  simp [eq_comm]

/-- The faults that end a run: of the chosen settings file, of standard input if there are no paths,
    and of the patterns if there are. -/
theorem code_eq_one_iff (i : Invocation) (env : Environment) :
    (i.outcome globs env).code = 1 ↔
      (∃ path, Chosen env.files env.configurationDirectory i.settings (some path) ∧
        Unloadable env.files path) ∨
      (i.paths = [] ∧ ∀ t, env.input ≠ .ofText t) ∨
      (i.paths ≠ [] ∧ ∃ s, Configured i env s ∧ globs.Refuses s.ignore) := by
  rw [← exists_loadSettings_eq_error_iff, Invocation.outcome]
  cases hload : loadSettings i env with
  | error a => simp
  | ok loaded =>
      obtain ⟨s, told⟩ := loaded
      have hanalyse := exists_analyse_eq_error_iff globs i env s
      simp only [configured_iff hload, exists_eq_left, ← hanalyse]
      cases analyse globs i env s with
      | error a => simp
      | ok found => simp

variable {globs}

theorem output_eq_nil_of_code {i : Invocation} {env : Environment}
    (h : (i.outcome globs env).code = 1) : (i.outcome globs env).output = [] := by
  unfold Invocation.outcome at h ⊢
  split
  · rfl
  · next hload =>
      rw [hload] at h
      dsimp only at h ⊢
      split
      · rfl
      · next hanalyse =>
          rw [hanalyse] at h
          exact absurd h Nat.zero_ne_one

theorem code_le_one {i : Invocation} {env : Environment} : (i.outcome globs env).code ≤ 1 := by
  unfold Invocation.outcome
  dsimp only
  split
  · exact Nat.le_refl 1
  · split
    · exact Nat.le_refl 1
    · exact Nat.zero_le 1

/-- A run over paths that nothing stops ends with what its items add, one after the other. -/
theorem outcome_eq_of_items {i : Invocation} {env : Environment} {s : Settings} {told : Notice}
    {matcher : globs.Matcher} (hload : loadSettings i env = .ok (s, told)) (hpaths : i.paths ≠ [])
    (hmatcher : s.matcher globs = .ok matcher) :
    i.outcome globs env =
      ⟨0, present i.format env.color
          ((items env.files (globs.accepts matcher) i.paths).filterMap (·.report? s)),
        writeLines (told.lines (logFilter i env) env.color ++
          (items env.files (globs.accepts matcher) i.paths).flatMap
            (·.lines (logFilter i env) env.color s))⟩ := by
  have hanalyse : analyse globs i env s
      = .ok (analysePaths env.files s (globs.accepts matcher) i.paths) := by
    rw [analyse, if_neg (by simpa using hpaths), hmatcher]
  rw [Invocation.outcome, hload]
  dsimp only
  rw [hanalyse]
  dsimp only
  rw [reports_analysePaths, List.flatMap_cons, lines_analysePaths]

theorem writeLines_append (ls ms : List Text) :
    writeLines (ls ++ ms) = writeLines ls ++ writeLines ms :=
  List.flatMap_append

/-- An item without a text adds one line to the error text, and nothing else depends on it. -/
theorem outcome_of_oneLess {i : Invocation} {env : Environment} {s : Settings} {told : Notice}
    {matcher : globs.Matcher} (hload : loadSettings i env = .ok (s, told)) (hpaths : i.paths ≠ [])
    (hmatcher : s.matcher globs = .ok matcher) {paths' : List Path} {files' : FileView} {v : Item}
    {line : Text} (hless : OneLess (globs.accepts matcher) i.paths env.files paths' files' v)
    (hline : v.complaint? env.color = some line) (hpaths' : paths' ≠ [])
    (hsame : loadSettings i { env with files := files' } = loadSettings i env) :
    ∃ first last,
      (i.outcome globs env).errors = first ++ line ++ '\n' :: last ∧
      Invocation.outcome globs { i with paths := paths' } { env with files := files' }
        = ⟨0, (i.outcome globs env).output, first ++ last⟩ := by
  obtain ⟨before, after, hitems, hitems'⟩ := hless.exists_items
  have hload' : loadSettings { i with paths := paths' } { env with files := files' }
      = .ok (s, told) := hsame.trans hload
  rw [outcome_eq_of_items hload hpaths hmatcher, hitems,
    outcome_eq_of_items hload' hpaths' hmatcher]
  dsimp only
  rw [hitems']
  refine ⟨writeLines (told.lines (logFilter i env) env.color ++
      before.flatMap (·.lines (logFilter i env) env.color s)),
    writeLines (after.flatMap (·.lines (logFilter i env) env.color s)), ?_, ?_⟩
  · rw [List.flatMap_append, List.flatMap_cons,
      Item.lines_of_complaint? hline, ← List.append_assoc, writeLines_append,
      writeLines_append]
    simp [writeLines]
  · rw [List.filterMap_append, List.filterMap_append,
      List.filterMap_cons_none (Item.report?_of_complaint? hline s),
      List.flatMap_append, ← List.append_assoc, writeLines_append]
    rfl

end Code

/-- Settings whose patterns are refused together end a run over paths, though each pattern is taken
    by itself. -/
theorem code_of_refused_together {n room : Nat} (hone : n ≤ room) (htwo : room < n + n) :
    let globs := GlobLibrary.standardWithin room
    let pattern := List.replicate n '?'
    let s : Settings := { Settings.standard with ignore := [pattern, pattern] }
    let files : FileView := fun path =>
      if path = Text.bytes ".asymptote.json".toList then .ok (.file (.ok (.ofText s.write)))
      else .error .notFound
    let i : Invocation := ⟨[Text.bytes "d".toList], .json, none, false⟩
    let env : Environment := ⟨files, none, none, false, .empty⟩
    (i.outcome globs env).code = 1 ∧
      (¬ ∃ path, Chosen env.files env.configurationDirectory i.settings (some path) ∧
        Unloadable env.files path) ∧
      Configured i env s ∧ ∀ p ∈ s.ignore, ¬ globs.Refuses [p] := by
  intro globs pattern s files i env
  obtain ⟨htogether, halone⟩ := GlobLibrary.refuses_together hone htwo
  have hfile : env.files (Text.bytes ".asymptote.json".toList)
      = .ok (.file (.ok (.ofText s.write))) := by
    simp only [env, files, if_true]
  have hchosen : Chosen env.files env.configurationDirectory i.settings
      (some (Text.bytes ".asymptote.json".toList)) :=
    .first (List.nil_append _).symm nofun hfile
  have hconfigured : Configured i env s :=
    .loaded hchosen ⟨s.write, .file hfile, s.read_write, s.fault?_eq_none_iff.mp rfl⟩
  obtain ⟨told, hload⟩ := (exists_loadSettings_iff i env s).mpr hconfigured
  refine ⟨?_, ?_, hconfigured, ?_⟩
  · exact (code_eq_one_iff globs i env).mpr
      (.inr (.inr ⟨List.cons_ne_nil _ _, s, hconfigured, htogether⟩))
  · rw [← exists_loadSettings_eq_error_iff, hload]
    exact nofun
  · intro p hp
    have hpattern : p = pattern := by simpa [s] using hp
    exact hpattern ▸ halone

end CommandLine

end OrderOfGrowth
