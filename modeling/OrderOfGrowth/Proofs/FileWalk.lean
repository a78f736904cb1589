import Mathlib.Data.List.Sort
import OrderOfGrowth.FileTree.Edit
import OrderOfGrowth.FileTree.Walk
import OrderOfGrowth.Proofs.PrintedPath
import OrderOfGrowth.Proofs.SavedFile

/-! # The walk over a file tree — every file once, in the order of its path

    The walk sorts each directory by itself and never compares two paths.  In a proper tree, one in
    which no directory has two entries of one name, that is enough for the whole:

    * `walk_eq_map_files` — the walk is the listing `files`, with names joined to the path;
    * `mem_files_iff` — a file is listed under some names just when the names lead to it;
    * `pairwise_files` — the files come in strictly increasing order of their names, component by
      component and each component by its bytes, so no file is listed twice.  Two paths that part in
      a directory are ordered by the names they part with, whatever follows.

    The last two together fix the listing, so a tree that lacks one file is walked as before but for
    that file (`Lacks.files`). -/

namespace OrderOfGrowth

namespace FileTree

/-- What holds of all that is no directory, and of a directory whenever it holds of all that is in
    it, holds of every tree. -/
@[elab_as_elim]
theorem entryInduction {motive : FileTree → Prop} (file : ∀ a, motive (.file a))
    (device : ∀ a, motive (.device a)) (closed : ∀ e, motive (.closed e))
    (directory : ∀ entries : List (Name × FileTree), (∀ e ∈ entries, motive e.2) →
      motive (.directory entries)) (t : FileTree) : motive t := by
  match t with
  | .file a => exact file a
  | .device a => exact device a
  | .closed e => exact closed e
  | .directory entries =>
      refine directory entries ?_
      rintro ⟨name, u⟩ he
      have hlt : sizeOf u < 1 + sizeOf entries := by
        have hentry := List.sizeOf_lt_of_mem he
        rw [Prod.mk.sizeOf_spec] at hentry
        omega
      exact entryInduction file device closed directory u
termination_by sizeOf t

/-! ## Proper trees -/

/-- No two entries have one name, and all names are names. -/
structure ProperEntries (entries : List (Name × FileTree)) : Prop where
  nodup : (entries.map Prod.fst).Nodup
  names : ∀ e ∈ entries, Path.IsName e.1

instance (entries : List (Name × FileTree)) : Decidable (ProperEntries entries) :=
  decidable_of_iff ((entries.map Prod.fst).Nodup ∧ ∀ e ∈ entries, Path.IsName e.1)
    ⟨fun h => ⟨h.1, h.2⟩, fun h => ⟨h.1, h.2⟩⟩

/-- All directories of the tree have proper entries. -/
def Proper (t : FileTree) : Prop :=
  ∀ place entries, t.get? place = some (directory entries) → ProperEntries entries

/-- Where no name comes twice, an entry is what is found under its name. -/
theorem child?_eq_some_iff {entries : List (Name × FileTree)} (h : (entries.map Prod.fst).Nodup)
    (name : Name) (t : FileTree) : child? entries name = some t ↔ (name, t) ∈ entries := by
  induction entries with
  | nil => exact ⟨nofun, nofun⟩
  | cons e entries ih =>
      rw [List.map_cons, List.nodup_cons] at h
      rw [child?_cons, List.mem_cons]
      by_cases hname : e.1 = name
      · rw [if_pos hname]
        constructor
        · intro ht
          exact Or.inl (Prod.ext hname.symm (Option.some.inj ht).symm)
        · rintro (rfl | hmem)
          · rfl
          · exact absurd (hname ▸ List.mem_map_of_mem hmem) h.1
      · rw [if_neg hname, ih h.2]
        refine ⟨Or.inr, ?_⟩
        rintro (rfl | hmem)
        · exact absurd rfl hname
        · exact hmem

theorem Proper.entries {entries : List (Name × FileTree)} (h : (directory entries).Proper) :
    ProperEntries entries := h [] entries rfl

/-- What lies below a proper tree is proper. -/
theorem Proper.get {t u : FileTree} (h : t.Proper) {place : List Name}
    (hu : t.get? place = some u) : u.Proper := by
  intro more entries hentries
  refine h (place ++ more) entries ?_
  rw [get?_append, hu]
  exact hentries

theorem Proper.entry {entries : List (Name × FileTree)} (h : (directory entries).Proper)
    {e : Name × FileTree} (he : e ∈ entries) : e.2.Proper := by
  have hget : (FileTree.directory entries).get? [e.1] = some e.2 := by
    rw [get?_cons, (child?_eq_some_iff h.entries.nodup e.1 e.2).mpr he]
    rfl
  exact h.get hget

/-- A directory is proper just when its entries are and all that is in it is. -/
theorem proper_directory_iff (entries : List (Name × FileTree)) :
    (directory entries).Proper ↔ ProperEntries entries ∧ ∀ e ∈ entries, e.2.Proper := by
  constructor
  · exact fun h => ⟨h.entries, fun e he => h.entry he⟩
  · rintro ⟨hproper, hentries⟩ place below hbelow
    cases place with
    | nil =>
        obtain rfl := directory.inj (Option.some.inj hbelow)
        exact hproper
    | cons name place =>
        obtain ⟨u, hu, hget⟩ := Option.bind_eq_some_iff.mp hbelow
        exact hentries _ ((child?_eq_some_iff hproper.nodup _ _).mp hu) place below hget

/-- What is no directory is proper. -/
theorem proper_of_ne_directory {t : FileTree} (h : ∀ es, t ≠ directory es) : t.Proper :=
  fun place es hes => absurd hes (get?_ne_directory h place es)

theorem proper_file (a : Attempt) : (file a).Proper := proper_of_ne_directory nofun

theorem proper_device (a : Attempt) : (device a).Proper := proper_of_ne_directory nofun

theorem proper_closed (e : IoError) : (closed e).Proper := proper_of_ne_directory nofun

/-- In a proper tree, the names that lead anywhere are names. -/
theorem Proper.isName {t u : FileTree} (h : t.Proper) {names : List Name}
    (hu : t.get? names = some u) : ∀ name ∈ names, Path.IsName name := by
  induction names generalizing t with
  | nil => exact nofun
  | cons name names ih =>
      cases t with
      | directory entries =>
          obtain ⟨child, hchild, hget⟩ := Option.bind_eq_some_iff.mp (get?_cons .. ▸ hu)
          have hmem := (child?_eq_some_iff h.entries.nodup _ _).mp hchild
          exact List.forall_mem_cons.mpr ⟨h.entries.names _ hmem, ih (h.entry hmem) hget⟩
      | _ => exact nomatch hu

/-! ## The files of a tree -/

mutual

/-- The files of a tree in the order of the walk, each with the names that lead to it. -/
def files : FileTree → List (List Name × Attempt)
  | file a => [([], a)]
  | device _ => []
  | closed _ => []
  | directory entries =>
    let sorted := (entryFiles entries).mergeSort fun a b => decide (a.1 ≤ b.1)
    sorted.flatMap fun (name, found) => found.map fun (names, a) => (name :: names, a)

/-- The files of every entry of a directory. -/
def entryFiles : List (Name × FileTree) → List (Name × List (List Name × Attempt))
  | [] => []
  | (name, t) :: rest => (name, t.files) :: entryFiles rest

end

theorem entryFiles_eq_map (entries : List (Name × FileTree)) :
    entryFiles entries = entries.map fun e => (e.1, e.2.files) := by
  induction entries with
  | nil => rw [entryFiles]; rfl
  | cons e entries ih => rw [entryFiles, ih]; rfl

theorem walkEntries_eq_map (path : Path) (entries : List (Name × FileTree)) :
    walkEntries path entries = entries.map fun e => (e.1, e.2.walk (path.join e.1)) := by
  induction entries with
  | nil => rw [walkEntries]; rfl
  | cons e entries ih => rw [walkEntries, ih]; rfl

/-- The files of every entry of a directory, in the order of the walk. -/
def sortedFiles (entries : List (Name × FileTree)) : List (Name × List (List Name × Attempt)) :=
  (entryFiles entries).mergeSort fun a b => decide (a.1 ≤ b.1)

theorem files_directory (entries : List (Name × FileTree)) :
    (directory entries).files
      = (sortedFiles entries).flatMap fun e => e.2.map fun f => (e.1 :: f.1, f.2) := by
  rw [files]
  rfl

/-- What cannot be listed leaves its directory without files. -/
theorem files_directory_closed (name : Name) (e : IoError) :
    (directory [(name, closed e)]).files = [] := by
  rw [files_directory, sortedFiles, entryFiles, entryFiles, files, List.mergeSort_singleton]
  rfl

/-- The walk lists the files, with the names joined to the path. -/
theorem walk_eq_map_files (path : Path) (t : FileTree) :
    t.walk path = t.files.map fun f => (f.1.foldl Path.join path, f.2) := by
  induction t using entryInduction generalizing path with
  | file a => rw [walk, files]; rfl
  | device a => rw [walk, files]; rfl
  | closed e => rw [walk, files]; rfl
  | directory entries ih =>
      have hentries : walkEntries path entries = (entryFiles entries).map fun e =>
          (e.1, e.2.map fun f => ((e.1 :: f.1).foldl Path.join path, f.2)) := by
        rw [walkEntries_eq_map, entryFiles_eq_map, List.map_map]
        refine List.map_congr_left ?_
        intro e he
        exact Prod.ext rfl (ih e he (path.join e.1))
      -- sorting looks at the names only, and these are the same
      have hsorted : (walkEntries path entries).mergeSort (fun a b => decide (a.1 ≤ b.1))
          = (sortedFiles entries).map fun e =>
              (e.1, e.2.map fun f => ((e.1 :: f.1).foldl Path.join path, f.2)) := by
        rw [hentries, sortedFiles, List.map_mergeSort]
        intro a _ b _
        rfl
      rw [walk, hsorted, files_directory, List.flatMap_map, List.map_flatMap]
      simp only [List.map_map, Function.comp_def]

theorem mem_sortedFiles {entries : List (Name × FileTree)}
    {e : Name × List (List Name × Attempt)} :
    e ∈ sortedFiles entries ↔ ∃ u, (e.1, u) ∈ entries ∧ e.2 = u.files := by
  rw [sortedFiles, (List.mergeSort_perm _ _).mem_iff, entryFiles_eq_map, List.mem_map]
  constructor
  · rintro ⟨u, hu, rfl⟩
    exact ⟨u.2, hu, rfl⟩
  · rintro ⟨u, hu, heq⟩
    exact ⟨(e.1, u), hu, Prod.ext rfl heq.symm⟩

/-- The names of a directory come in strictly increasing order. -/
theorem pairwise_sortedFiles {entries : List (Name × FileTree)}
    (h : (entries.map Prod.fst).Nodup) :
    (sortedFiles entries).Pairwise fun a b => a.1 < b.1 := by
  have hsorted : (sortedFiles entries).Pairwise fun a b => decide (a.1 ≤ b.1) = true := by
    refine List.pairwise_mergeSort ?_ ?_ _
    · intro a b c hab hbc
      exact decide_eq_true (List.le_trans (of_decide_eq_true hab) (of_decide_eq_true hbc))
    · intro a b
      rw [Bool.or_eq_true, decide_eq_true_eq, decide_eq_true_eq]
      exact List.le_total a.1 b.1
  have hnames : ((sortedFiles entries).map Prod.fst).Nodup := by
    have hperm := (List.mergeSort_perm (entryFiles entries) fun a b => decide (a.1 ≤ b.1)).map
      Prod.fst
    rw [sortedFiles, hperm.nodup_iff, entryFiles_eq_map, List.map_map]
    exact h
  refine (hsorted.and (List.pairwise_map.mp hnames)).imp ?_
  rintro a b ⟨hle, hne⟩
  exact (List.le_iff_lt_or_eq.mp (of_decide_eq_true hle)).resolve_right hne

/-- A file is listed under some names just when they lead to it. -/
theorem mem_files_iff {t : FileTree} (h : t.Proper) (names : List Name) (a : Attempt) :
    (names, a) ∈ t.files ↔ t.get? names = some (file a) := by
  induction t using entryInduction generalizing names with
  | file a' =>
      rw [files, List.mem_singleton]
      cases names with
      | nil => simp [get?, eq_comm]
      | cons name names => simp [get?]
  | device a' =>
      rw [files]
      cases names with
      | nil => simp [get?]
      | cons name names => simp [get?]
  | closed e =>
      rw [files]
      cases names with
      | nil => simp [get?]
      | cons name names => simp [get?]
  | directory entries ih =>
      rw [files_directory, List.mem_flatMap]
      cases names with
      | nil => simp [get?]
      | cons name names =>
          rw [get?_cons, Option.bind_eq_some_iff]
          constructor
          · rintro ⟨e, he, hfile⟩
            obtain ⟨u, hu, hfiles⟩ := mem_sortedFiles.mp he
            obtain ⟨f, hf, heq⟩ := List.mem_map.mp hfile
            obtain ⟨hnames, rfl⟩ := Prod.mk.inj heq
            obtain ⟨rfl, rfl⟩ := List.cons.inj hnames
            refine ⟨u, (child?_eq_some_iff h.entries.nodup _ _).mpr hu, ?_⟩
            exact (ih _ hu (h.entry hu) _).mp (hfiles ▸ hf)
          · rintro ⟨u, hu, hfile⟩
            have hmem := (child?_eq_some_iff h.entries.nodup _ _).mp hu
            refine ⟨(name, u.files), mem_sortedFiles.mpr ⟨u, hmem, rfl⟩, ?_⟩
            exact List.mem_map.mpr ⟨(names, a), (ih _ hmem (h.entry hmem) _).mpr hfile, rfl⟩

/-- The files are listed in strictly increasing order of their names. -/
theorem pairwise_files {t : FileTree} (h : t.Proper) :
    t.files.Pairwise fun a b => a.1 < b.1 := by
  induction t using entryInduction with
  | file a => rw [files]; exact List.pairwise_singleton _ _
  | device a => rw [files]; exact List.Pairwise.nil
  | closed e => rw [files]; exact List.Pairwise.nil
  | directory entries ih =>
      rw [files_directory, List.pairwise_flatMap]
      constructor
      · -- two paths with one first name are in the order of what follows it
        intro e he
        obtain ⟨u, hu, hfiles⟩ := mem_sortedFiles.mp he
        rw [hfiles, List.pairwise_map]
        refine (ih _ hu (h.entry hu)).imp ?_
        intro a b hab
        exact List.cons_lt_cons_iff.mpr (Or.inr ⟨rfl, hab⟩)
      · refine (pairwise_sortedFiles h.entries.nodup).imp ?_
        intro a b hab x hx y hy
        obtain ⟨f, -, rfl⟩ := List.mem_map.mp hx
        obtain ⟨g, -, rfl⟩ := List.mem_map.mp hy
        exact List.cons_lt_cons_iff.mpr (Or.inl hab)

/-- The walk over a proper directory meets each file under the path that its names make. -/
theorem walk_directory {entries : List (Name × FileTree)} (h : (directory entries).Proper)
    (path : Path) :
    (directory entries).walk path
      = (directory entries).files.map fun f => (path.below f.1, f.2) := by
  rw [walk_eq_map_files]
  refine List.map_congr_left ?_
  rintro ⟨names, a⟩ hf
  have hget := (mem_files_iff h names a).mp hf
  have hne : names ≠ [] := by
    rintro rfl
    exact nomatch hget
  exact Prod.ext (Path.foldl_join hne (h.isName hget) path) rfl

/-! ## One file less -/

/-- The second tree holds the files of the first but for one. -/
structure Lacks (t t' : FileTree) (names : List Name) (a : Attempt) : Prop where
  file : t.get? names = some (.file a)
  others : ∀ place b, t'.get? place = some (.file b) ↔
    place ≠ names ∧ t.get? place = some (.file b)

theorem child?_setEntry_none (entries : List (Name × FileTree)) (name other : Name) :
    child? (setEntry entries name none) other
      = if other = name then none else child? entries other := by
  rw [setEntry]
  induction entries with
  | nil => simp [child?]
  | cons e entries ih =>
      by_cases he : e.1 = name
      · rw [List.filter_cons_of_neg (by simp [he]), ih, child?_cons, he]
        by_cases hother : other = name
        · rw [if_pos hother, if_pos hother]
        · rw [if_neg hother, if_neg hother, if_neg (Ne.symm hother)]
      · rw [List.filter_cons_of_pos (by simp [he]), child?_cons, child?_cons, ih]
        by_cases hother : other = name
        · rw [if_pos hother, if_pos hother, if_neg (hother ▸ he)]
        · rw [if_neg hother, if_neg hother]

/-- A directory from which a file is removed lacks that file. -/
theorem lacks_setEntry_none {entries : List (Name × FileTree)} {name : Name} {a : Attempt}
    (h : child? entries name = some (.file a)) :
    (directory entries).Lacks (directory (setEntry entries name none)) [name] a := by
  refine ⟨by rw [get?_cons, h]; rfl, ?_⟩
  intro place b
  cases place with
  | nil => simp [get?]
  | cons other place =>
      rw [get?_cons, get?_cons, child?_setEntry_none]
      by_cases hother : other = name
      · rw [if_pos hother, hother, h]
        cases place with
        | nil => simp
        | cons more place => simp [get?]
      · rw [if_neg hother]
        simp [hother]

/-- Without a file, the walk meets all others as before. -/
theorem Lacks.files {t t' : FileTree} {names : List Name} {a : Attempt} (h : t.Lacks t' names a)
    (ht : t.Proper) (ht' : t'.Proper) :
    ∃ before after, t.files = before ++ (names, a) :: after ∧ t'.files = before ++ after := by
  obtain ⟨before, after, hsplit⟩ := List.append_of_mem ((mem_files_iff ht names a).mpr h.file)
  refine ⟨before, after, hsplit, ?_⟩
  have hsorted := pairwise_files ht
  rw [hsplit] at hsorted
  have hless := hsorted.sublist ((List.sublist_cons_self (names, a) after).append_left before)
  -- the paths are strictly ordered, so the file is met at this one place
  have hnames : ∀ f ∈ before ++ after, f.1 ≠ names := by
    intro f hf heq
    obtain ⟨-, hafter, hbefore⟩ := List.pairwise_append.mp hsorted
    rcases List.mem_append.mp hf with hf | hf
    · have hlt := hbefore f hf _ List.mem_cons_self
      rw [heq] at hlt
      exact List.lt_irrefl _ hlt
    · have hlt := List.rel_of_pairwise_cons hafter hf
      rw [heq] at hlt
      exact List.lt_irrefl _ hlt
  have hmem : ∀ f, f ∈ t'.files ↔ f ∈ before ++ after := by
    rintro ⟨place, b⟩
    rw [mem_files_iff ht', h.others, ← mem_files_iff ht, hsplit, List.mem_append, List.mem_cons,
      List.mem_append]
    constructor
    · rintro ⟨hplace, hf | hf | hf⟩
      · exact Or.inl hf
      · exact absurd (congrArg Prod.fst hf) hplace
      · exact Or.inr hf
    · intro hf
      exact ⟨hnames _ (List.mem_append.mpr hf), hf.imp_right Or.inr⟩
  have : Std.Irrefl fun f g : List Name × Attempt => f.1 < g.1 := ⟨fun _ => List.lt_irrefl _⟩
  have : Std.Antisymm fun f g : List Name × Attempt => f.1 < g.1 :=
    ⟨fun _ _ hfg hgf => absurd hgf (List.lt_asymm hfg)⟩
  exact (pairwise_files ht').eq_of_mem_iff hless hmem

end FileTree

end OrderOfGrowth
