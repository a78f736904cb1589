import Mathlib.Data.List.DropRight
import OrderOfGrowth.FileTree.Edit

/-! # Saved files — what was written is what a path then leads to

    Writing a file changes one entry of one directory.  The directories that lead there are kept,
    with all the names in them, so the same path is followed to the same place afterwards.

    * `FileTree.Keeps` — no directory is lost, and no name in one; `keeps_set` shows it of a tree in
      which one entry that is no directory has been replaced, by induction on the way to the entry;
    * `FileSystem.LooksUp` — a path's last component is a name that is looked up in a directory.
      `save_cases` says once what saving does, in these terms;
    * `FileSystem.view_save` — the path then leads to a file with the new contents, unless it leads
      to a device, which keeps nothing. -/

namespace OrderOfGrowth

namespace FileTree

/-! ## Entries -/

theorem child?_cons (e : Name × FileTree) (entries : List (Name × FileTree)) (name : Name) :
    child? (e :: entries) name = if e.1 = name then some e.2 else child? entries name := by
  by_cases h : e.1 = name
  · rw [if_pos h, child?, List.find?_cons_of_pos (by simpa using h)]
    rfl
  · rw [if_neg h, child?, List.find?_cons_of_neg (by simpa using h)]
    rfl

theorem child?_append (entries more : List (Name × FileTree)) (name : Name) :
    child? (entries ++ more) name = (child? entries name).or (child? more name) := by
  rw [child?, List.find?_append, Option.map_or]
  rfl

/-- Replacing an entry changes what is looked up under its name only. -/
theorem child?_replace (entries : List (Name × FileTree)) (name other : Name) (t : FileTree) :
    child? (entries.map fun e => if e.1 == name then (name, t) else e) other
      = (child? entries other).map fun old => if other = name then t else old := by
  induction entries with
  | nil => rfl
  | cons e entries ih =>
      rw [List.map_cons, child?_cons, child?_cons, ih]
      -- The name of the entry is kept, so it is found after the change if it was found before.
      by_cases hname : e.1 = name
      · by_cases hother : name = other
        · simp [hname, hother]
        · simp [hname, hother]
      · by_cases hother : e.1 = other
        · subst hother
          simp [hname]
        · simp [hname, hother]

/-- What is looked up after an entry has been set. -/
theorem child?_setEntry (entries : List (Name × FileTree)) (name other : Name) (t : FileTree) :
    child? (setEntry entries name (some t)) other
      = if other = name then some t else child? entries other := by
  rw [setEntry]
  split
  · next hsome =>
      rw [child?_replace]
      split
      · next hother =>
          obtain ⟨old, hold⟩ := Option.isSome_iff_exists.mp hsome
          rw [hother, hold]
          rfl
      · exact Option.map_id'
  · next hnone =>
      rw [child?_append]
      split
      · next hother =>
          rw [hother, Option.not_isSome_iff_eq_none.mp hnone]
          simp [child?]
      · next hother =>
          have hmiss : child? [(name, t)] other = none := by simp [child?, Ne.symm hother]
          rw [hmiss, Option.or_none]

theorem child?_setEntry_self (entries : List (Name × FileTree)) (name : Name) (t : FileTree) :
    child? (setEntry entries name (some t)) name = some t := by
  rw [child?_setEntry, if_pos rfl]

theorem child?_setEntry_of_ne (entries : List (Name × FileTree)) {name other : Name}
    (h : other ≠ name) (t : FileTree) :
    child? (setEntry entries name (some t)) other = child? entries other := by
  rw [child?_setEntry, if_neg h]

/-- An entry that is set is there, and so is what was there before. -/
theorem isSome_child?_setEntry {entries : List (Name × FileTree)} {other : Name}
    (h : (child? entries other).isSome) (name : Name) (t : FileTree) :
    (child? (setEntry entries name (some t)) other).isSome := by
  by_cases hname : other = name
  · rw [hname, child?_setEntry_self]
    rfl
  · rwa [child?_setEntry_of_ne entries hname]

/-! ## Trees -/

theorem get?_cons (entries : List (Name × FileTree)) (name : Name) (names : List Name) :
    (directory entries).get? (name :: names) = (child? entries name).bind (·.get? names) := rfl

/-- Below a file or a device there is nothing. -/
theorem get?_ne_directory {t : FileTree} (h : ∀ es, t ≠ directory es) (names : List Name)
    (es : List (Name × FileTree)) : t.get? names ≠ some (directory es) := by
  cases names with
  | nil => exact fun heq => h es (Option.some.inj heq)
  | cons name names =>
      cases t with
      | directory es' => exact absurd rfl (h es')
      | _ => exact fun heq => nomatch heq

theorem get?_append (t : FileTree) (names more : List Name) :
    t.get? (names ++ more) = (t.get? names).bind (·.get? more) := by
  induction names generalizing t with
  | nil => rfl
  | cons name names ih =>
      cases t with
      | directory entries =>
          rw [List.cons_append, get?_cons, get?_cons, Option.bind_assoc]
          exact congrArg _ (funext ih)
      | _ => rfl

theorem set_cons {entries : List (Name × FileTree)} {name : Name} {child : FileTree}
    (hchild : child? entries name = some child) {names : List Name} (hnames : names ≠ [])
    (new : Option FileTree) :
    (directory entries).set (name :: names) new
      = directory (setEntry entries name (some (child.set names new))) := by
  rw [set, hchild]
  exact hnames

/-- The second tree has all directories of the first, with at least the same names in them. -/
def Keeps (t t' : FileTree) : Prop :=
  ∀ names es, t.get? names = some (directory es) →
    ∃ es', t'.get? names = some (directory es') ∧
      ∀ name, (child? es name).isSome → (child? es' name).isSome

theorem Keeps.directory {entries : List (Name × FileTree)} {name : Name} {t : FileTree} 
    (h : ∀ child, child? entries name = some child → child.Keeps t) :
    (directory entries).Keeps (directory (setEntry entries name (some t))) := by
  intro names es hes
  cases names with
  | nil =>
      obtain rfl : entries = es := by cases hes; rfl
      exact ⟨_, rfl, fun other hother => isSome_child?_setEntry hother name t⟩
  | cons n names =>
      rw [get?_cons] at hes ⊢
      obtain ⟨child, hchild, hget⟩ := Option.bind_eq_some_iff.mp hes
      by_cases hn : n = name
      · subst hn
        rw [child?_setEntry_self]
        exact h child hchild names es hget
      · rw [child?_setEntry_of_ne entries hn, hchild]
        exact ⟨es, hget, fun _ => id⟩

/-- A directory in which one entry is set, as seen along the way that leads to it. -/
theorem get?_set {t : FileTree} {place : List Name} {es : List (Name × FileTree)}
    (h : t.get? place = some (directory es)) (last : Name) (new : FileTree) :
    (t.set (place ++ [last]) (some new)).get? place
      = some (directory (setEntry es last (some new))) := by
  induction place generalizing t with
  | nil =>
      obtain rfl : t = directory es := Option.some.inj h
      rfl
  | cons name place ih =>
      cases t with
      | directory entries =>
          obtain ⟨child, hchild, hget⟩ := Option.bind_eq_some_iff.mp (get?_cons .. ▸ h)
          rw [List.cons_append, set_cons hchild (by simp), get?_cons, child?_setEntry_self]
          exact ih hget
      | _ => cases h

/-- Setting an entry that is no directory loses nothing. -/
theorem keeps_set {t : FileTree} {place : List Name} {es : List (Name × FileTree)}
    (h : t.get? place = some (directory es)) {last : Name}
    (hlast : ∀ es', child? es last ≠ some (directory es')) (new : FileTree) :
    t.Keeps (t.set (place ++ [last]) (some new)) := by
  induction place generalizing t with
  | nil =>
      obtain rfl : t = directory es := Option.some.inj h
      refine Keeps.directory fun child hchild names es' hes' => ?_
      have hnot : ∀ es', child ≠ directory es' := by
        rintro es' rfl
        exact hlast es' hchild
      exact absurd hes' (get?_ne_directory hnot names es')
  | cons name place ih =>
      cases t with
      | directory entries =>
          obtain ⟨child, hchild, hget⟩ := Option.bind_eq_some_iff.mp (get?_cons .. ▸ h)
          rw [List.cons_append, set_cons hchild (by simp)]
          refine Keeps.directory fun child' hchild' => ?_
          obtain rfl : child' = child := Option.some.inj (hchild'.symm.trans hchild)
          exact ih hget
      | _ => cases h

end FileTree

namespace FileSystem

/-! ## Paths -/

/-- Where nothing is lost, a step still leads to the same place. -/
theorem step_of_keeps {fs fs' : FileSystem} (h : fs.root.Keeps fs'.root) {place next : List Name}
    {component : Name} (hstep : fs.step place component = .ok next) :
    fs'.step place component = .ok next := by
  unfold step at hstep
  split at hstep
  · cases hstep
  · next entries hget =>
      obtain ⟨entries', hget', hnames⟩ := h place entries hget
      rw [step, hget']
      dsimp only
      split_ifs at hstep ⊢ with hhere hup hnew
      · exact hstep
      · exact hstep
      · exact hstep
      · exact absurd (hnames component ‹_›) hnew
  · cases hstep
  · cases hstep

/-- Where nothing is lost, components still lead to the same place. -/
theorem foldlM_step_of_keeps {fs fs' : FileSystem} (h : fs.root.Keeps fs'.root)
    {components place next : List Name} (hfold : components.foldlM fs.step place = .ok next) :
    components.foldlM fs'.step place = .ok next := by
  induction components generalizing place with
  | nil => exact hfold
  | cons component components ih =>
      rw [List.foldlM_cons] at hfold ⊢
      cases hstep : fs.step place component with
      | error e => rw [hstep] at hfold; cases hfold
      | ok middle =>
          rw [hstep] at hfold
          rw [step_of_keeps h hstep]
          exact ih hfold

/-- The path's last component is a name, and the other components lead to a directory, in which it
    is looked up. -/
structure LooksUp (fs : FileSystem) (path : Path) (place : List Name) (last : Name)
    (entries : List (Name × FileTree)) : Prop where
  nonempty : path ≠ []
  short : path.length ≤ fs.longestPath
  components : ∃ names, (fs.start path).2 = names ++ [last] ∧
    names.foldlM fs.step (fs.start path).1 = .ok place
  directory : fs.root.get? place = some (.directory entries)
  proper : last ≠ [] ∧ last ≠ [dot] ∧ last ≠ [dot, dot]

/-- A path that looks up a name leads to the entry with that name. -/
theorem LooksUp.view {fs : FileSystem} {path : Path} {place : List Name} {last : Name}
    {entries : List (Name × FileTree)} (h : fs.LooksUp path place last entries) {t : FileTree}
    (ht : FileTree.child? entries last = some t) :
    fs.view path = .ok (t.within fs.longestPath path) := by
  obtain ⟨names, hnames, hfold⟩ := h.components
  obtain ⟨hempty, hdot, hdots⟩ := h.proper
  have hstep : fs.step place last = .ok (place ++ [last]) := by
    simp [step, h.directory, hempty, hdot, hdots, ht]
  have hlocate : fs.locate path = .ok (place ++ [last]) := by
    rw [locate, if_neg (by simpa using h.nonempty), if_neg (Nat.not_lt.mpr h.short)]
    dsimp only
    rw [hnames, List.foldlM_append, hfold]
    dsimp only [bind, Except.bind]
    rw [List.foldlM_cons, hstep]
    rfl
  have hget : fs.root.get? (place ++ [last]) = some t := by
    rw [FileTree.get?_append, h.directory, Option.bind_some, FileTree.get?_cons, ht]
    rfl
  rw [FileSystem.view, hlocate]
  dsimp only
  rw [hget]

/-- Without slashes behind it, the last component is the last of all. -/
theorem components_of_parent {fs : FileSystem} {path : Path} {last : Name} {place : List Name}
    (h : fs.parent path = .ok (place, last, false)) :
    ∃ names, (fs.start path).2 = names ++ [last] ∧
      names.foldlM fs.step (fs.start path).1 = .ok place := by
  unfold parent at h
  dsimp only at h
  split at h
  · cases h
  · next last' hlast =>
      cases hfold : List.foldlM fs.step (fs.start path).1
          ((fs.start path).2.reverse.dropWhile List.isEmpty).reverse.dropLast with
      | error e =>
          rw [hfold] at h
          cases h
      | ok place' =>
          rw [hfold] at h
          obtain ⟨rfl, rfl, hslashed⟩ : place' = place ∧ last' = last ∧ _ := by
            simpa [bind, Except.bind, pure, Except.pure] using h
          -- No component has been dropped from the end.
          have hall : ((fs.start path).2.reverse.dropWhile List.isEmpty).reverse
              = (fs.start path).2 :=
            (List.rdropWhile_prefix _ _).eq_of_length_le
              (by simpa [List.rdropWhile] using hslashed)
          rw [hall] at hlast hfold
          exact ⟨_, (List.dropLast_append_getLast? last' hlast).symm, hfold⟩

/-- What saving does: nothing if the path looks up a device, and otherwise the entry that it looks
    up, which must not be a directory, becomes a file with the contents. -/
theorem save_cases {fs fs' : FileSystem} {path : Path} {c : Contents}
    (h : fs.save path c = .ok fs') :
    ∃ place last entries, fs.LooksUp path place last entries ∧
      ((∃ a, FileTree.child? entries last = some (.device a)) ∧ fs' = fs ∨
        (∀ es, FileTree.child? entries last ≠ some (.directory es)) ∧
          fs' = { fs with root := fs.root.set (place ++ [last]) (some (.file (.ok c))) }) := by
  unfold save at h
  by_cases hempty : path.isEmpty
  · rw [if_pos hempty] at h
    cases h
  rw [if_neg hempty] at h
  by_cases hlong : fs.longestPath < path.length
  · rw [if_pos hlong] at h
    cases h
  rw [if_neg hlong] at h
  cases hparent : fs.parent path with
  | error e =>
      rw [hparent] at h
      cases h
  | ok v =>
      obtain ⟨place, last, slashed⟩ := v
      rw [hparent] at h
      dsimp only [bind, Except.bind] at h
      split at h
      · next entries hget =>
          by_cases hlast : slashed ∨ last = [] ∨ last = [dot] ∨ last = [dot, dot]
          · rw [if_pos hlast] at h
            cases h
          rw [if_neg hlast] at h
          simp only [not_or, Bool.not_eq_true] at hlast
          obtain ⟨rfl, hproper⟩ := hlast
          refine ⟨place, last, entries, ⟨by simpa using hempty, Nat.not_lt.mp hlong,
            components_of_parent hparent, hget, hproper⟩, ?_⟩
          split at h
          · cases h
          · cases h
          · cases h
          · next hdevice =>
              cases h
              exact .inl ⟨⟨_, hdevice⟩, rfl⟩
          · next hdirectory _ _ _ =>
              cases h
              exact .inr ⟨hdirectory, rfl⟩
      · cases h
      · cases h

/-- A saved file is what its path leads to. -/
theorem view_save {fs fs' : FileSystem} {path : Path} {c : Contents}
    (h : fs.save path c = .ok fs') (hdevice : ∀ a, fs.view path ≠ .ok (.device a)) :
    fs'.view path = .ok (.file (.ok c)) := by
  obtain ⟨place, last, entries, hlook, ⟨⟨a, hentry⟩, -⟩ | ⟨hnot, rfl⟩⟩ := save_cases h
  · exact absurd (hlook.view hentry) (hdevice _)
  · have hkeeps := FileTree.keeps_set hlook.directory hnot (.file (.ok c))
    obtain ⟨names, hnames, hfold⟩ := hlook.components
    have hlook' : LooksUp { fs with root := fs.root.set (place ++ [last]) (some (.file (.ok c))) }
        path place last (FileTree.setEntry entries last (some (.file (.ok c)))) :=
      { nonempty := hlook.nonempty
        short := hlook.short
        components := ⟨names, hnames, foldlM_step_of_keeps hkeeps hfold⟩
        directory := FileTree.get?_set hlook.directory last _
        proper := hlook.proper }
    rw [hlook'.view (FileTree.child?_setEntry_self entries last _), FileTree.within,
      if_pos hlook.short]

end FileSystem

/-! ## Texts -/

namespace Contents

/-- The contents of a text are read as that text. -/
theorem text?_ofText (t : Text) : (ofText t).text? = some t := by
  have hread : String.fromUTF8? (String.ofList t).toUTF8 = some (String.ofList t) :=
    dif_pos (String.ofList t).isValidUTF8
  rw [text?, ofText, hread, Option.map_some, String.toList_ofList]

/-- Contents are read as a text just when they are the contents of that text. -/
theorem text?_eq_some_iff {c : Contents} {t : Text} : c.text? = some t ↔ c = ofText t := by
  constructor
  · intro h
    obtain ⟨s, hs, rfl⟩ := Option.map_eq_some_iff.mp h
    rw [ofText, String.ofList_toList]
    unfold String.fromUTF8? at hs
    split at hs
    · exact congrArg String.toUTF8 (Option.some.inj hs)
    · exact nomatch hs
  · rintro rfl
    exact text?_ofText t

end Contents

/-- A text was read just when there were the contents of that text. -/
theorem Attempt.text_eq_ok_iff {a : Attempt} {t : Text} : a.text = .ok t ↔ a = .ok (.ofText t) := by
  cases a with
  | error e => exact ⟨nofun, nofun⟩
  | ok c =>
      rw [Except.ok.injEq, ← Contents.text?_eq_some_iff, text]
      cases c.text? with
      | none => simp
      | some t' => simp

/-- A text that has been saved is read again. -/
theorem FileView.readText_of_view {files : FileView} {path : Path} {t : Text}
    (h : files path = .ok (.file (.ok (.ofText t)))) : files.readText path = .ok t := by
  rw [readText, h]
  exact Attempt.text_eq_ok_iff.mpr rfl

end OrderOfGrowth
