import Mathlib.Tactic.SplitIfs
import OrderOfGrowth.Proofs.PrintedPath
import OrderOfGrowth.Proofs.SavedFile
import OrderOfGrowth.Settings.Load

/-! # Chosen settings — where settings come from, and what can be wrong with them

    Settings come from one file, and it is chosen before it is looked into: a file further down the
    list never stands in for a broken one.  Each step of loading has its own condition:

    * `Settings.Chosen` — which file it is, by what exists and by nothing else;
    * `FileView.Holds` — a text can be read there;
    * `Settings.Sound` — the settings that the text decodes to are accepted.

    The file is loaded just when all of them are met (`loadFile_eq_ok_iff`), and refused just when
    one is not (`exists_loadFile_eq_error_iff`). -/

namespace OrderOfGrowth

/-! ## What can be read -/

/-- The path leads to a file or a device, and what is read there is the text. -/
inductive FileView.Holds (files : FileView) (path : Path) (text : Text) : Prop where
  | file : files path = .ok (.file (.ok (.ofText text))) → Holds files path text
  | device : files path = .ok (.device (.ok (.ofText text))) → Holds files path text

theorem FileView.readText_eq_ok_iff {files : FileView} {path : Path} {text : Text} :
    files.readText path = .ok text ↔ files.Holds path text := by
  constructor
  · intro h
    unfold readText at h
    split at h
    · exact nomatch h
    · next t ht =>
        have hattempt := Attempt.text_eq_ok_iff.mp h
        cases t with
        | file a => exact .file (ht.trans (by rw [← hattempt]; rfl))
        | device a => exact .device (ht.trans (by rw [← hattempt]; rfl))
        | directory entries => exact nomatch hattempt
        | closed e => exact nomatch hattempt
  · rintro (h | h)
    · rw [readText, h]
      exact Attempt.text_eq_ok_iff.mpr rfl
    · rw [readText, h]
      exact Attempt.text_eq_ok_iff.mpr rfl

namespace Settings

/-! ## What is accepted -/

/-- There are sizes, all of them positive, and no keyword is empty. -/
structure Sound (s : Settings) : Prop where
  sizes : s.sizes ≠ []
  positive : 0 ∉ s.sizes
  loops : [] ∉ s.keywords.loops
  functions : [] ∉ s.keywords.functions
  allocations : [] ∉ s.keywords.allocations

theorem fault?_eq_none_iff (s : Settings) : s.fault? = none ↔ s.Sound := by
  have hwords : ∀ words : List Text, words.any List.isEmpty = false ↔ [] ∉ words := by
    intro words
    rw [List.any_eq_false]
    constructor
    · exact fun h hmem => h [] hmem rfl
    · exact fun h w hw hempty => h (List.isEmpty_iff.mp hempty ▸ hw)
  have hkeywords : s.keywords.all.any List.isEmpty = false ↔
      [] ∉ s.keywords.loops ∧ [] ∉ s.keywords.functions ∧ [] ∉ s.keywords.allocations := by
    rw [Keywords.all, List.any_append, List.any_append, Bool.or_eq_false_iff,
      Bool.or_eq_false_iff, hwords, hwords, hwords, and_assoc]
  rw [fault?]
  constructor
  · intro h
    split_ifs at h with hsizes hzero hempty
    obtain ⟨hloops, hfunctions, hallocations⟩ := hkeywords.mp (Bool.eq_false_iff.mpr hempty)
    exact ⟨by simpa using hsizes, by simpa using hzero, hloops, hfunctions, hallocations⟩
  · rintro ⟨hsizes, hzero, hloops, hfunctions, hallocations⟩
    rw [if_neg (by simpa using hsizes), if_neg (by simpa using hzero),
      hkeywords.mpr ⟨hloops, hfunctions, hallocations⟩]
    rfl

variable (files : FileView) (directory : Option Path)

/-! ## What is chosen -/

/-- Where a settings file is looked for: two names in the working directory, and then one below the
    directory for configuration files. -/
def places : List Path :=
  [Text.bytes ".asymptote.json".toList, Text.bytes "asymptote.json".toList] ++
    directory.toList.map
      (·.below [Text.bytes "asymptote".toList, Text.bytes "config.json".toList])

theorem candidates_eq_places : candidates directory = places directory := by
  have hnames : ∀ name ∈ [Text.bytes "asymptote".toList, Text.bytes "config.json".toList],
      Path.IsName name := by
    decide
  rw [candidates, places]
  refine congrArg _ (List.map_congr_left fun d _ => ?_)
  exact Path.foldl_join (List.cons_ne_nil _ _) hnames d

/-- The file that settings are taken from, if there is one: the named file, or the first place of the
    list at which there is anything.  What it holds plays no part, nor do the places after it. -/
inductive Chosen : (named chosen : Option Path) → Prop where
  | named (path : Path) : Chosen (some path) (some path)
  | first {before later : List Path} {path : Path} {t : FileTree} :
      places directory = before ++ path :: later → (∀ p ∈ before, ∀ t, files p ≠ .ok t) →
      files path = .ok t → Chosen none (some path)
  | absent : (∀ p ∈ places directory, ∀ t, files p ≠ .ok t) → Chosen none none

theorem has_eq_false_iff {path : Path} : files.has path = false ↔ ∀ t, files path ≠ .ok t := by
  rw [FileView.has]
  cases files path with
  | error e => simp
  | ok t => simp

theorem candidate?_eq_iff (chosen : Option Path) :
    candidate? files directory = chosen ↔ Chosen files directory none chosen := by
  rw [candidate?, candidates_eq_places]
  constructor
  · rintro rfl
    cases hfind : (places directory).find? files.has with
    | none =>
        refine .absent fun p hp => (has_eq_false_iff files).mp ?_
        exact Bool.eq_false_iff.mpr (List.find?_eq_none.mp hfind p hp)
    | some path =>
        obtain ⟨hhas, before, later, hsplit, hbefore⟩ := List.find?_eq_some_iff_append.mp hfind
        cases hpath : files path with
        | error e =>
            rw [FileView.has, hpath] at hhas
            exact nomatch hhas
        | ok t =>
            refine .first hsplit (fun p hp => (has_eq_false_iff files).mp ?_) hpath
            simpa using hbefore p hp
  · intro h
    cases h with
    | absent h =>
        refine List.find?_eq_none.mpr fun p hp => ?_
        exact Bool.eq_false_iff.mp ((has_eq_false_iff files).mpr (h p hp))
    | first hsplit hbefore hpath =>
        refine List.find?_eq_some_iff_append.mpr ⟨?_, _, _, hsplit, fun p hp => ?_⟩
        · rw [FileView.has, hpath]
        · rw [(has_eq_false_iff files).mpr (hbefore p hp)]
          rfl

/-! ## What is loaded -/

/-- A text can be read there and decoded, and the settings are sound. -/
def Loadable (path : Path) (s : Settings) : Prop :=
  ∃ text, files.Holds path text ∧ read text = .ok s ∧ s.Sound

/-- What is wrong with a settings file. -/
inductive Unloadable (path : Path) : Prop where
  | unread : (∀ text, ¬ files.Holds path text) → Unloadable path
  | undecoded {text : Text} {e : Json.Error} :
      files.Holds path text → read text = .error e → Unloadable path
  | unsound {text : Text} {s : Settings} :
      files.Holds path text → read text = .ok s → ¬ s.Sound → Unloadable path

theorem loadFile_eq_ok_iff (path : Path) (s : Settings) :
    loadFile files path = .ok s ↔ Loadable files path s := by
  simp only [loadFile, Loadable, ← FileView.readText_eq_ok_iff, ← fault?_eq_none_iff]
  cases files.readText path with
  | error e => simp
  | ok text =>
      simp only [Except.ok.injEq, exists_eq_left']
      cases read text with
      | error e => simp
      | ok t =>
          simp only [checked, Except.ok.injEq]
          cases hfault : t.fault? with
          | none => grind
          | some f => grind

theorem exists_loadFile_eq_error_iff (path : Path) :
    (∃ f, loadFile files path = .error f) ↔ Unloadable files path := by
  constructor
  · rintro ⟨f, hf⟩
    unfold loadFile at hf
    split at hf
    · next htext =>
        refine .unread fun text hholds => ?_
        exact nomatch htext.symm.trans (FileView.readText_eq_ok_iff.mpr hholds)
    · next text htext =>
        have hholds := FileView.readText_eq_ok_iff.mp htext
        split at hf
        · next hread => exact .undecoded hholds hread
        · next s hread =>
            unfold checked at hf
            split at hf
            · exact nomatch hf
            · next hfault =>
                refine .unsound hholds hread fun hsound => ?_
                exact nomatch hfault.symm.trans ((fault?_eq_none_iff s).mpr hsound)
  · rintro (hunread | ⟨hholds, hread⟩ | @⟨text, s, hholds, hread, hunsound⟩)
    · cases htext : files.readText path with
      | ok text => exact absurd (FileView.readText_eq_ok_iff.mp htext) (hunread text)
      | error e => simp [loadFile, htext]
    · simp [loadFile, FileView.readText_eq_ok_iff.mpr hholds, hread]
    · cases hfault : s.fault? with
      | none => exact absurd ((fault?_eq_none_iff s).mp hfault) hunsound
      | some f => simp [loadFile, FileView.readText_eq_ok_iff.mpr hholds, hread, checked, hfault]

end Settings

end OrderOfGrowth
