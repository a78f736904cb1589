import OrderOfGrowth.IgnoreSet
import OrderOfGrowth.Proofs.Items
import OrderOfGrowth.Proofs.Reach

/-! # Analysed files — what each argument adds to the reports

    A run over paths reports on each argument by itself, one after the other.  `Contributes` says
    what an argument adds, in terms of what it leads to and not of how that is found:

    * a file that was named adds its report, and nothing if it cannot be read as a text; no matcher
      is asked;
    * a directory adds one report for each text below it whose path the matcher does not accept, in
      the strict order of the names that lead to the texts.  What cannot be listed holds nothing;
    * anything else adds nothing.

    A report is on the text of its own file and named as the path is printed, so it does not depend
    on what else is analysed.  The matcher is asked about the bytes of the path, and not about how
    they are printed.  All this is read off the items that the argument leads to
    (`contributes_of_meets`). -/

namespace OrderOfGrowth

namespace CommandLine

variable (files : FileView) (settings : Settings) (ignored : Path → Bool)

/-- What an argument adds to the reports. -/
inductive Contributes (path : Path) : List Report → Prop where
  /-- A file that holds a text. -/
  | text {source : Text} :
      files path = .ok (.file (.ok (.ofText source))) →
      Contributes path [.ofSource { settings with name := path.shown } source]
  /-- A file that cannot be read, or that holds no text. -/
  | unread {a : Attempt} :
      files path = .ok (.file a) → (∀ source, a ≠ .ok (.ofText source)) → Contributes path []
  /-- A directory, with the texts found below it and the names that lead to them. -/
  | directory {entries : List (Name × FileTree)} {found : List (List Name × Text)} :
      files path = .ok (.directory entries) →
      found.Pairwise (fun f g => f.1 < g.1) →
      (∀ names source, (names, source) ∈ found ↔
        (FileTree.directory entries).get? names = some (.file (.ok (.ofText source))) ∧
          ignored (path.below names) = false) →
      Contributes path
        (found.map fun f => .ofSource { settings with name := (path.below f.1).shown } f.2)
  /-- A directory that cannot be listed. -/
  | closed {e : IoError} : files path = .ok (.closed e) → Contributes path []
  /-- Neither a file nor a directory. -/
  | neither : (∀ t, files path = .ok t → ∃ a, t = .device a) → Contributes path []

/-! ## From items to reports -/

theorem toOption_text_eq_some_iff {a : Attempt} {source : Text} :
    a.text.toOption = some source ↔ a = .ok (.ofText source) := by
  rw [← Attempt.text_eq_ok_iff]
  cases a.text with
  | error e => exact ⟨nofun, nofun⟩
  | ok t => simp [Except.toOption]

/-- The files that hold a text, with their texts. -/
def texts (found : List (List Name × Attempt)) : List (List Name × Text) :=
  found.filterMap fun f => f.2.text.toOption.map (f.1, ·)

theorem mem_texts_iff {found : List (List Name × Attempt)} {names : List Name} {source : Text} :
    (names, source) ∈ texts found ↔ (names, .ok (.ofText source)) ∈ found := by
  rw [texts, List.mem_filterMap]
  constructor
  · rintro ⟨⟨names', a⟩, hfile, hfound⟩
    obtain ⟨source', hsource, heq⟩ := Option.map_eq_some_iff.mp hfound
    obtain ⟨rfl, rfl⟩ := Prod.mk.inj heq
    exact toOption_text_eq_some_iff.mp hsource ▸ hfile
  · intro hfile
    exact ⟨_, hfile, by rw [toOption_text_eq_some_iff.mpr rfl]; rfl⟩

theorem pairwise_texts {found : List (List Name × Attempt)}
    (h : found.Pairwise fun f g => f.1 < g.1) : (texts found).Pairwise fun f g => f.1 < g.1 := by
  rw [texts, List.pairwise_filterMap]
  refine h.imp ?_
  intro f g hlt a ha b hb
  obtain ⟨source, -, rfl⟩ := Option.map_eq_some_iff.mp ha
  obtain ⟨source', -, rfl⟩ := Option.map_eq_some_iff.mp hb
  exact hlt

/-- The items below a path give the reports on the texts among them. -/
theorem filterMap_report? (path : Path) (found : List (List Name × Attempt)) :
    (found.map fun f => Item.file (path.below f.1) f.2).filterMap (Item.report? settings)
      = (texts found).map fun f =>
          .ofSource { settings with name := (path.below f.1).shown } f.2 := by
  rw [List.filterMap_map, texts, List.map_filterMap]
  refine List.filterMap_congr ?_
  intro f _
  rw [Option.map_map]
  rfl

/-- An argument contributes the reports on the items that it leads to. -/
theorem contributes_of_meets {path : Path} {found : List Item}
    (h : Meets files ignored path found) :
    Contributes files settings ignored path (found.filterMap (Item.report? settings)) := by
  cases h with
  | missing hneither => exact .neither hneither
  | @named a hfile =>
      show Contributes files settings ignored path ([Item.file path a].filterMap _)
      rw [List.filterMap_cons, Item.report?, Item.text?]
      cases htext : a.text with
      | error e =>
          refine .unread hfile ?_
          rintro source rfl
          rw [Attempt.text_eq_ok_iff.mpr rfl] at htext
          cases htext
      | ok source => exact .text (Attempt.text_eq_ok_iff.mp htext ▸ hfile)
  | directory hdirectory hsorted hfound =>
      rw [filterMap_report?]
      refine .directory hdirectory (pairwise_texts hsorted) fun names source => ?_
      rw [mem_texts_iff, hfound]
  | closed hclosed => exact .closed hclosed

/-! ## All arguments -/

/-- **Every argument is analysed by itself.**  For all settings, all matchers and all arguments that
    lead to proper trees, the reports are what the arguments contribute, one after the other: the
    report of a file that was named, if it can be read as a text; the reports of the texts below a
    directory that the matcher does not accept by their paths, each once and in the strict order of
    their names; and nothing for the rest.  The printed path that a report is named by is the path
    itself if that is a text. -/
theorem analysePaths_contributes (files : FileView) (settings : Settings) (ignored : Path → Bool)
    (paths : List Path) (h : ∀ path ∈ paths, ∀ t, files path = .ok t → t.Proper) :
    (∃ parts : List (List Report),
      (analysePaths files settings ignored paths).reports = parts.flatten ∧
      List.Forall₂ (Contributes files settings ignored) paths parts) ∧
    ∀ t : Text, Path.shown t.bytes = t := by
  obtain ⟨parts, hitems, hmeets⟩ := meets_items h
  refine ⟨⟨parts.map (List.filterMap (Item.report? settings)), ?_, ?_⟩, Path.shown_bytes⟩
  · rw [reports_analysePaths, hitems, List.filterMap_flatten]
  · rw [List.forall₂_map_right_iff]
    exact hmeets.imp fun _ _ => contributes_of_meets files settings ignored

/-- A directory in which `a`, `a.b` and `a/b` meet, a file that is no text, one that cannot be read,
    a name that is no text, a directory that cannot be listed, a path that leads nowhere, and a file
    that is passed over below the directory but not where it is named. -/
theorem analysePaths_contributes_nested :
    let name := fun s : String => Text.bytes s.toList
    let fs : FileSystem :=
      { root := .directory
          [(name "a.b", .file (.ok (.ofText "for (;;) \x7b\x7d".toList))),
            (name "a", .directory
              [(name "b", .file (.ok (.ofText []))), (name "c", .file (.ok ⟨#[255]⟩))]),
            ([255], .file (.ok (.ofText []))),
            (name "e", .closed .denied),
            (name "m", .directory
              [(name "d", .file (.ok (.ofText "new Map()".toList))),
                (name "f", .file (.error .denied))])]
        workingDirectory := [] }
    let ignored := IgnoreSet.accepts [⟨[.leading, .literal 'm', .trailing]⟩]
    let paths := [name ".", name "a/c", name "z", name "m/d", name "m/f"]
    (∀ path ∈ paths, ∀ t, fs.view path = .ok t → t.Proper) ∧
      ∃ parts : List (List Report),
        (analysePaths fs.view .standard ignored paths).reports = parts.flatten ∧
        List.Forall₂ (Contributes fs.view .standard ignored) paths parts := by
  intro name fs ignored paths
  have hroot : fs.root.Proper := by
    rw [FileTree.proper_directory_iff]
    refine ⟨by decide, ?_⟩
    simp only [List.forall_mem_cons]
    refine ⟨FileTree.proper_file _, ?_, FileTree.proper_file _, FileTree.proper_closed _, ?_,
      nofun⟩
    · rw [FileTree.proper_directory_iff]
      exact ⟨by decide, by simp [FileTree.proper_file]⟩
    · rw [FileTree.proper_directory_iff]
      exact ⟨by decide, by simp [FileTree.proper_file]⟩
  have hpaths : ∀ path ∈ paths, ∀ t, fs.view path = .ok t → t.Proper :=
    fun _ _ _ ht => FileSystem.proper_of_view hroot ht
  exact ⟨hpaths, (analysePaths_contributes fs.view .standard ignored paths hpaths).1⟩

/-- **A text below a directory can go without a report though its path as it is printed is not
    accepted.**  The matcher is asked about the bytes of the path: `**/?.js` accepts a name whose
    one byte is no text, and not the character that is printed in its place.  And below a path that
    is almost too long, a directory cannot be listed, so its files go without a word. -/
theorem analysePaths_loses_texts :
    let named := fun s : String => Text.bytes s.toList
    let text : FileTree := .file (.ok (.ofText []))
    (let settings : Settings := { Settings.standard with ignore := ["**/?.js".toList] }
      let name : Name := 255 :: named ".js"
      let fs : FileSystem :=
        { root := .directory [(named "d", .directory [(name, text)])], workingDirectory := [] }
      ∃ matcher, settings.matcher .standard = .ok matcher ∧
        let ignored := GlobLibrary.standard.accepts matcher
        fs.root.get? [named "d", name] = some text ∧
          ignored (Text.bytes (Path.shown (named "d/" ++ name))) = false ∧
          (analysePaths fs.view settings ignored [named "d"]).reports = []) ∧
    let long := (List.replicate 2047 (named "./")).flatten ++ named "d"
    let fs : FileSystem :=
      { root := .directory [(named "d", .directory [(named "sub",
          .directory [(named "b.js", text)])])]
        workingDirectory := [] }
    fs.root.get? [named "d", named "sub", named "b.js"] = some text ∧
      (analysePaths fs.view .standard (fun _ => false) [long]).reports = [] := by
  intro named text
  constructor
  · intro settings name fs
    have hlost : (settings.matcher .standard).toOption.any (fun matcher =>
        let ignored := GlobLibrary.standard.accepts matcher
        !ignored (Text.bytes (Path.shown (named "d/" ++ name))) &&
          (analysePaths fs.view settings ignored [named "d"]).reports.isEmpty) = true := by
      decide +kernel
    cases hmatcher : settings.matcher .standard with
    | error f =>
        simp [hmatcher, Except.toOption] at hlost
    | ok matcher =>
        rw [hmatcher] at hlost
        simp only [Except.toOption, Option.any_some, Bool.and_eq_true, Bool.not_eq_true',
          List.isEmpty_iff] at hlost
        exact ⟨matcher, rfl, rfl, hlost⟩
  · intro long fs
    have hview : fs.view long = .ok (.directory [(named "sub", .closed .nameTooLong)]) :=
      FileSystem.view_roundabout rfl (by decide) (by decide) rfl (by decide) (by decide)
    refine ⟨rfl, ?_⟩
    rw [reports_analysePaths, items_of_closed hview]
    rfl

end CommandLine

end OrderOfGrowth
