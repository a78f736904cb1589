import Mathlib.Data.List.Forall2
import OrderOfGrowth.CommandLine.Run
import OrderOfGrowth.Proofs.FileWalk

/-! # Items — what a run over paths looks at

    A run over paths looks at one item after the other: the files that are named, the files below
    directories, and paths that lead to neither.  All that it finds is put together from its items
    (`reports_analysePaths`, `lines_analysePaths`), and what an item adds depends on the settings
    and on that item alone: a report and what is logged about it, or one line if there is no text.

    Two relations say, without speaking of the walk, which items there are:

    * `Meets` — what an argument leads a run to look at.  A directory that cannot be listed is no
      item, and nothing below it is one (`meets_itemsOf`);
    * `OneLess` — what it takes to be rid of one item: an argument is left out, or a file below a
      directory is gone.  Then all other items stay as they are (`OneLess.exists_items`). -/

namespace OrderOfGrowth.CommandLine

/-- One thing that a run over paths looks at. -/
inductive Item where
  /-- A path that leads to neither a file nor a directory. -/
  | missing (path : Path)
  /-- A file, with what comes of reading it. -/
  | file (path : Path) (attempt : Attempt)

namespace Item

/-- The path of the item. -/
def path : Item → Path
  | missing path => path
  | file path _ => path

/-- The text of the item, if it is a file that holds one. -/
def text? : Item → Option Text
  | missing _ => none
  | file _ a => a.text.toOption

/-- The report on the item, if it has a text. -/
def report? (settings : Settings) (v : Item) : Option Report :=
  v.text?.map (Report.ofSource { settings with name := v.path.shown })

/-- The line about an item without a text: a warning about the path, or that the file is skipped. -/
def complaint? (color : Bool) : Item → Option Text
  | missing path =>
    some (Style.yellow.paint color "Warning:".toList ++ [' '] ++ path.shown ++
      " is not a file or directory".toList)
  | file path a =>
    match a.text with
    | .ok _ => none
    | .error e =>
      some (Style.yellow.paint color "Skipping:".toList ++ [' '] ++ "Failed to read ".toList ++
        path.shown ++ ": ".toList ++ e.message)

/-- The lines of the log about the text of an item that are kept. -/
def logged (filter : Log.Filter) (settings : Settings) (v : Item) : List Text :=
  match v.text? with
  | none => []
  | some source =>
    ((Log.ofStudy (Study.ofSource settings.lineRules source)).filter filter.keeps).map
      Log.Record.write

/-- The lines that an item adds to the error text. -/
def lines (filter : Log.Filter) (color : Bool) (settings : Settings) (v : Item) : List Text :=
  (v.complaint? color).toList ++ v.logged filter settings

/-- An item with a text is not complained about. -/
theorem text?_of_complaint? {v : Item} {color : Bool} {line : Text}
    (h : v.complaint? color = some line) : v.text? = none := by
  cases v with
  | missing path => rfl
  | file path a =>
      rw [complaint?] at h
      rw [text?]
      cases htext : a.text with
      | error e => rfl
      | ok source =>
          rw [htext] at h
          exact nomatch h

theorem report?_of_complaint? {v : Item} {color : Bool} {line : Text}
    (h : v.complaint? color = some line) (settings : Settings) : v.report? settings = none := by
  rw [report?, text?_of_complaint? h]
  rfl

theorem lines_of_complaint? {v : Item} {color : Bool} {line : Text}
    (h : v.complaint? color = some line) (filter : Log.Filter) (settings : Settings) :
    v.lines filter color settings = [line] := by
  rw [lines, h, logged, text?_of_complaint? h]
  rfl

end Item

/-! ## What is met -/

section Items

variable (files : FileView) (ignored : Path → Bool)

/-- What an argument leads a run to look at. -/
def itemsOf (path : Path) : List Item :=
  match files path with
  | .ok (.file a) => [.file path a]
  | .ok (.device _) => [.missing path]
  | .ok t => (walkedFiles ignored path t).map fun f => .file f.1 f.2
  | .error _ => [.missing path]

/-- What a run over paths looks at. -/
def items (paths : List Path) : List Item := paths.flatMap (itemsOf files ignored)

/-- What an argument leads a run to look at, in terms of what is there. -/
inductive Meets (path : Path) : List Item → Prop where
  /-- Neither a file nor a directory. -/
  | missing : (∀ t, files path = .ok t → ∃ a, t = .device a) → Meets path [.missing path]
  /-- A file, whatever the matcher says. -/
  | named {a : Attempt} : files path = .ok (.file a) → Meets path [.file path a]
  /-- The files below a directory that are not passed over, each once and in the strict order of the
      names that lead to them. -/
  | directory {entries : List (Name × FileTree)} {found : List (List Name × Attempt)} :
      files path = .ok (.directory entries) →
      found.Pairwise (fun f g => f.1 < g.1) →
      (∀ names a, (names, a) ∈ found ↔
        (FileTree.directory entries).get? names = some (.file a) ∧
          ignored (path.below names) = false) →
      Meets path (found.map fun f => .file (path.below f.1) f.2)
  /-- A directory that cannot be listed. -/
  | closed {e : IoError} : files path = .ok (.closed e) → Meets path []

variable {files ignored}

/-- What cannot be listed holds no files. -/
theorem walkedFiles_closed (path : Path) (e : IoError) :
    walkedFiles ignored path (.closed e) = [] := by
  rw [walkedFiles, FileTree.walk]
  rfl

/-- A directory with nothing in it but one that cannot be listed leads a run to nothing. -/
theorem items_of_closed {path : Path} {name : Name} {e : IoError}
    (h : files path = .ok (.directory [(name, .closed e)])) : items files ignored [path] = [] := by
  rw [items, List.flatMap_singleton, itemsOf, h]
  dsimp only
  rw [walkedFiles, FileTree.walk_eq_map_files, FileTree.files_directory_closed]
  rfl

/-- In proper trees, an argument leads to what is there. -/
theorem meets_itemsOf {path : Path} (h : ∀ t, files path = .ok t → t.Proper) :
    Meets files ignored path (itemsOf files ignored path) := by
  rw [itemsOf]
  cases hpath : files path with
  | error e => exact .missing fun t ht => nomatch hpath.symm.trans ht
  | ok t =>
      cases t with
      | file a => exact .named hpath
      | device a =>
          refine .missing fun t ht => ⟨a, ?_⟩
          exact (Except.ok.inj (hpath.symm.trans ht)).symm
      | closed e =>
          dsimp only
          rw [walkedFiles_closed]
          exact .closed hpath
      | directory entries =>
          have hproper := h _ hpath
          dsimp only
          rw [walkedFiles, FileTree.walk_directory hproper, List.filter_map, List.map_map]
          refine .directory hpath ((FileTree.pairwise_files hproper).filter _) ?_
          intro names a
          rw [List.mem_filter, FileTree.mem_files_iff hproper]
          simp

/-- A run looks at what its arguments lead it to, in their order. -/
theorem meets_items {paths : List Path} (h : ∀ path ∈ paths, ∀ t, files path = .ok t → t.Proper) :
    ∃ parts : List (List Item), items files ignored paths = parts.flatten ∧
      List.Forall₂ (Meets files ignored) paths parts := by
  refine ⟨paths.map (itemsOf files ignored), rfl, ?_⟩
  rw [List.forall₂_map_right_iff, List.forall₂_same]
  exact fun path hpath => meets_itemsOf (h path hpath)

end Items

/-! ## What a run finds, item by item -/

section Findings

variable (filter : Log.Filter) (color : Bool) (settings : Settings) (ignored : Path → Bool)

/-- A file adds the report on its text, if it holds one. -/
theorem reports_analyseFile (path : Path) (a : Attempt) :
    (analyseFile settings path a).reports
      = (a.text.toOption.map (Report.ofSource { settings with name := path.shown })).toList := by
  rw [analyseFile]
  cases a.text with
  | error e => rfl
  | ok source => rfl

theorem lines_log (records : List Log.Record) :
    (records.map Notice.log).flatMap (Notice.lines filter color)
      = (records.filter filter.keeps).map Log.Record.write := by
  induction records with
  | nil => rfl
  | cons r records ih =>
      rw [List.map_cons, List.flatMap_cons, ih, Notice.lines]
      by_cases hkeeps : filter.keeps r = true
      · rw [if_pos hkeeps, List.filter_cons_of_pos hkeeps]
        rfl
      · rw [if_neg hkeeps, List.filter_cons_of_neg hkeeps]
        rfl

theorem lines_noSuchPath (path : Path) :
    Notice.lines filter color (.noSuchPath path)
      = Item.lines filter color settings (.missing path) := rfl

theorem lines_analyseFile (path : Path) (a : Attempt) :
    (analyseFile settings path a).notices.flatMap (Notice.lines filter color)
      = Item.lines filter color settings (.file path a) := by
  rw [analyseFile, Item.lines, Item.complaint?, Item.logged, Item.text?]
  cases a.text with
  | ok source =>
      have hrules : Settings.lineRules { settings with name := path.shown } = settings.lineRules :=
        rfl
      dsimp only [analyseText, Except.toOption]
      rw [lines_log, hrules, Option.toList_none, List.nil_append]
  | error e =>
      have hmessage : (Failure.source path e).message
          = "Failed to read ".toList ++ path.shown ++ ": ".toList ++ e.message := rfl
      dsimp only [Except.toOption]
      rw [List.flatMap_singleton, Notice.lines, hmessage]
      simp only [Option.toList_some, List.append_nil, List.append_assoc]

theorem reports_analysePath (files : FileView) (path : Path) :
    (analysePath files settings ignored path).reports
      = (itemsOf files ignored path).filterMap (Item.report? settings) := by
  have hwalked : ∀ t, (Findings.concat ((walkedFiles ignored path t).map fun f =>
      analyseFile settings f.1 f.2)).reports
        = ((walkedFiles ignored path t).map fun f => Item.file f.1 f.2).filterMap
            (Item.report? settings) := by
    intro t
    rw [List.filterMap_eq_flatMap_toList, List.flatMap_map]
    dsimp only [Findings.concat]
    rw [List.flatMap_map]
    exact List.flatMap_congr fun f _ => reports_analyseFile settings f.1 f.2
  rw [analysePath, itemsOf]
  rcases files path with e | (a | a | entries | e)
  · rfl
  · rw [reports_analyseFile, List.filterMap_eq_flatMap_toList, List.flatMap_singleton]
    rfl
  · rfl
  · exact hwalked _
  · exact hwalked _

theorem lines_analysePath (files : FileView) (path : Path) :
    (analysePath files settings ignored path).notices.flatMap (Notice.lines filter color)
      = (itemsOf files ignored path).flatMap (Item.lines filter color settings) := by
  have hwalked : ∀ t, (Findings.concat ((walkedFiles ignored path t).map fun f =>
      analyseFile settings f.1 f.2)).notices.flatMap (Notice.lines filter color)
        = ((walkedFiles ignored path t).map fun f => Item.file f.1 f.2).flatMap
            (Item.lines filter color settings) := by
    intro t
    dsimp only [Findings.concat]
    rw [List.flatMap_map, List.flatMap_map, List.flatMap_assoc]
    exact List.flatMap_congr fun f _ => lines_analyseFile filter color settings f.1 f.2
  rw [analysePath, itemsOf]
  rcases files path with e | (a | a | entries | e)
  · rw [List.flatMap_singleton, List.flatMap_singleton]
    exact lines_noSuchPath filter color settings path
  · rw [lines_analyseFile, List.flatMap_singleton]
  · rw [List.flatMap_singleton, List.flatMap_singleton]
    exact lines_noSuchPath filter color settings path
  · exact hwalked _
  · exact hwalked _

theorem reports_analysePaths (files : FileView) (paths : List Path) :
    (analysePaths files settings ignored paths).reports
      = (items files ignored paths).filterMap (Item.report? settings) := by
  dsimp only [analysePaths, Findings.concat]
  rw [items, List.filterMap_flatMap, List.flatMap_map]
  exact List.flatMap_congr fun path _ => reports_analysePath settings ignored files path

theorem lines_analysePaths (files : FileView) (paths : List Path) :
    (analysePaths files settings ignored paths).notices.flatMap (Notice.lines filter color)
      = (items files ignored paths).flatMap (Item.lines filter color settings) := by
  dsimp only [analysePaths, Findings.concat]
  rw [items, List.flatMap_assoc, List.flatMap_map, List.flatMap_assoc]
  exact List.flatMap_congr fun path _ => lines_analysePath filter color settings ignored files path

end Findings

/-! ## One item less -/

/-- The second paths and files lead to one item less than the first: an argument that leads to no
    directory is left out, or a file below a directory is gone. -/
inductive OneLess (ignored : Path → Bool) (paths : List Path) (files : FileView) :
    (paths' : List Path) → (files' : FileView) → Item → Prop where
  | missing {before after : List Path} {path : Path} :
      paths = before ++ path :: after → (∀ t, files path = .ok t → ∃ a, t = .device a) →
      OneLess ignored paths files (before ++ after) files (.missing path)
  | named {before after : List Path} {path : Path} {a : Attempt} :
      paths = before ++ path :: after → files path = .ok (.file a) →
      OneLess ignored paths files (before ++ after) files (.file path a)
  | below {before after : List Path} {path : Path} {files' : FileView}
      {entries entries' : List (Name × FileTree)} {names : List Name} {a : Attempt} :
      paths = before ++ path :: after →
      files path = .ok (.directory entries) → (FileTree.directory entries).Proper →
      files' path = .ok (.directory entries') → (FileTree.directory entries').Proper →
      (FileTree.directory entries).Lacks (.directory entries') names a →
      ignored (path.below names) = false →
      (∀ p ∈ before ++ after, files' p = files p) →
      OneLess ignored paths files paths files' (.file (path.below names) a)

section OneLess

variable {ignored : Path → Bool} {paths paths' : List Path} {files files' : FileView} {v : Item}

theorem items_append (before after : List Path) :
    items files ignored (before ++ after)
      = items files ignored before ++ items files ignored after :=
  List.flatMap_append

theorem items_cons (path : Path) (after : List Path) :
    items files ignored (path :: after)
      = itemsOf files ignored path ++ items files ignored after :=
  List.flatMap_cons

theorem items_congr (h : ∀ p ∈ paths, files' p = files p) :
    items files' ignored paths = items files ignored paths := by
  refine List.flatMap_congr ?_
  intro p hp
  rw [itemsOf, itemsOf, h p hp]

theorem itemsOf_missing {path : Path} (h : ∀ t, files path = .ok t → ∃ a, t = .device a) :
    itemsOf files ignored path = [.missing path] := by
  rw [itemsOf]
  cases hpath : files path with
  | error e => rfl
  | ok t =>
      obtain ⟨a, rfl⟩ := h t hpath
      rfl

/-- Without a file, the walk below a path finds all others as before. -/
theorem exists_itemsOf {path : Path} {entries entries' : List (Name × FileTree)}
    {names : List Name} {a : Attempt} (hdirectory : files path = .ok (.directory entries))
    (hproper : (FileTree.directory entries).Proper)
    (hdirectory' : files' path = .ok (.directory entries'))
    (hproper' : (FileTree.directory entries').Proper)
    (hlacks : (FileTree.directory entries).Lacks (.directory entries') names a)
    (hkept : ignored (path.below names) = false) :
    ∃ before after,
      itemsOf files ignored path = before ++ .file (path.below names) a :: after ∧
      itemsOf files' ignored path = before ++ after := by
  obtain ⟨before, after, hfiles, hfiles'⟩ := hlacks.files hproper hproper'
  rw [itemsOf, itemsOf, hdirectory, hdirectory']
  dsimp only
  rw [walkedFiles, walkedFiles, FileTree.walk_directory hproper, FileTree.walk_directory hproper',
    hfiles, hfiles', List.map_append, List.map_append, List.map_cons, List.filter_append,
    List.filter_append, List.filter_cons_of_pos (by simp [hkept]), List.map_append,
    List.map_append, List.map_cons]
  exact ⟨_, _, rfl, rfl⟩

theorem OneLess.exists_items (h : OneLess ignored paths files paths' files' v) :
    ∃ before after, items files ignored paths = before ++ v :: after ∧
      items files' ignored paths' = before ++ after := by
  cases h with
  | missing hpaths hmissing =>
      rw [hpaths, items_append, items_append, items_cons, itemsOf_missing hmissing]
      exact ⟨_, _, rfl, rfl⟩
  | named hpaths hfile =>
      rw [hpaths, items_append, items_append, items_cons, itemsOf, hfile]
      exact ⟨_, _, rfl, rfl⟩
  | @below before after _ _ _ _ _ _ hpaths hdirectory hproper hdirectory' hproper' hlacks hkept
      hothers =>
      obtain ⟨first, last, hitems, hitems'⟩ :=
        exists_itemsOf hdirectory hproper hdirectory' hproper' hlacks hkept
      obtain ⟨hbefore, hafter⟩ := List.forall_mem_append.mp hothers
      refine ⟨items files ignored before ++ first, last ++ items files ignored after, ?_, ?_⟩
      · rw [hpaths, items_append, items_cons, hitems]
        simp only [List.append_assoc, List.cons_append]
      · rw [hpaths, items_append, items_cons, hitems', items_congr hbefore, items_congr hafter]
        simp only [List.append_assoc]

end OneLess

end OrderOfGrowth.CommandLine
