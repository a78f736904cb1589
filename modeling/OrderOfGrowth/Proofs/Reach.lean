import OrderOfGrowth.Proofs.FileWalk

/-! # Reach — what is seen through a path, and what its length hides

    A system takes no path of more than so many bytes.  A walk makes its paths longer from name to
    name, so it comes to an end where they get too long, whatever lies there:

    * `FileTree.get?_within_iff` — below a path, a file can be read just when it is there and its
      own path is not too long.  A directory that is hidden hides no file that could be read;
    * `FileSystem.view_roundabout` — a path can be made long without leading anywhere else, by turns
      through the working directory, until a directory below it cannot be listed any more. -/

namespace OrderOfGrowth

namespace FileTree

/-! ## Trees -/

theorem entriesWithin_eq_map (longest : Nat) (path : Path) (entries : List (Name × FileTree)) :
    entriesWithin longest path entries
      = entries.map fun e => (e.1, e.2.within longest (path.join e.1)) := by
  induction entries with
  | nil => rw [entriesWithin]; rfl
  | cons e entries ih => rw [entriesWithin, ih]; rfl

theorem child?_entriesWithin (longest : Nat) (path : Path) (entries : List (Name × FileTree))
    (name : Name) :
    child? (entriesWithin longest path entries) name
      = (child? entries name).map (·.within longest (path.join name)) := by
  induction entries with
  | nil => rw [entriesWithin]; rfl
  | cons e entries ih =>
      rw [entriesWithin, child?_cons, child?_cons, ih]
      by_cases hname : e.1 = name
      · rw [if_pos hname, if_pos hname, hname]
        rfl
      · rw [if_neg hname, if_neg hname]

/-- What can be reached of a proper tree is proper. -/
theorem Proper.within {t : FileTree} (h : t.Proper) (longest : Nat) (path : Path) :
    (t.within longest path).Proper := by
  induction t using entryInduction generalizing path with
  | file a =>
      rw [FileTree.within]
      exact proper_file _
  | device a =>
      rw [FileTree.within]
      exact proper_device _
  | closed e =>
      rw [FileTree.within]
      exact proper_closed e
  | directory entries ih =>
      rw [FileTree.within]
      split
      · rw [entriesWithin_eq_map, proper_directory_iff]
        refine ⟨⟨?_, ?_⟩, ?_⟩
        · rw [List.map_map]
          exact h.entries.nodup
        · intro _ hmem
          obtain ⟨e, he, rfl⟩ := List.mem_map.mp hmem
          exact h.entries.names e he
        · intro _ hmem
          obtain ⟨e, he, rfl⟩ := List.mem_map.mp hmem
          exact ih e he (h.entry he) _
      · exact proper_closed _

theorem length_le_foldl_join (path : Path) (names : List Name) :
    path.length ≤ (names.foldl Path.join path).length := by
  induction names generalizing path with
  | nil => exact Nat.le_refl _
  | cons name names ih =>
      refine Nat.le_trans ?_ (ih (path.join name))
      rw [Path.join_eq, List.append_assoc, List.length_append]
      exact Nat.le_add_right _ _

/-- Below a path, the files that can be read are those whose own path is not too long.  A directory
    with too long a path hides only such files as have too long a path themselves. -/
theorem get?_within_iff (t : FileTree) (longest : Nat) (path : Path) (names : List Name)
    (c : Contents) :
    (t.within longest path).get? names = some (.file (.ok c)) ↔
      t.get? names = some (.file (.ok c)) ∧ (names.foldl Path.join path).length ≤ longest := by
  induction names generalizing t path with
  | nil =>
      cases t with
      | file a =>
          by_cases hshort : path.length ≤ longest
          · simp [FileTree.within, get?, hshort]
          · simp [FileTree.within, get?, hshort]
      | directory entries =>
          rw [FileTree.within]
          split
          · simp [get?]
          · simp [get?]
      | device a => simp [FileTree.within, get?]
      | closed e => simp [FileTree.within, get?]
  | cons name names ih =>
      cases t with
      | directory entries =>
          rw [FileTree.within, List.foldl_cons, get?_cons]
          by_cases hshort : path.length ≤ longest
          · rw [if_pos hshort, get?_cons, child?_entriesWithin, Option.bind_map]
            cases child? entries name with
            | none => simp
            | some u => exact ih u (path.join name)
          · have hlong : ¬ (names.foldl Path.join (path.join name)).length ≤ longest := by
              have hle := length_le_foldl_join path (name :: names)
              rw [List.foldl_cons] at hle
              omega
            rw [if_neg hshort]
            simp [get?, hlong]
      | file a => simp [FileTree.within, get?]
      | device a => simp [FileTree.within, get?]
      | closed e => simp [FileTree.within, get?]

end FileTree

/-! ## File systems -/

namespace FileSystem

/-- Every path of a proper file system leads to a proper tree. -/
theorem proper_of_view {fs : FileSystem} (h : fs.root.Proper) {path : Path} {t : FileTree}
    (ht : fs.view path = .ok t) : t.Proper := by
  unfold view at ht
  split at ht
  · exact nomatch ht
  · split at ht
    · next hu =>
        obtain rfl := Except.ok.inj ht
        exact (h.get hu).within _ _
    · exact nomatch ht

/-- A file is seen below a path just when it is below the place that the path leads to, and its own
    path is not too long. -/
theorem get?_view_iff {fs : FileSystem} {path : Path} {t : FileTree} (ht : fs.view path = .ok t) :
    ∃ place, fs.locate path = .ok place ∧ ∀ names c,
      t.get? names = some (.file (.ok c)) ↔
        fs.root.get? (place ++ names) = some (.file (.ok c)) ∧
          (names.foldl Path.join path).length ≤ fs.longestPath := by
  unfold view at ht
  split at ht
  · exact nomatch ht
  · next place hplace =>
      refine ⟨place, hplace, fun names c => ?_⟩
      split at ht
      · next u hu =>
          obtain rfl := Except.ok.inj ht
          rw [FileTree.get?_append, hu]
          exact FileTree.get?_within_iff u _ path names c
      · exact nomatch ht

/-- A path that is too long leads nowhere. -/
theorem view_of_longestPath_lt {fs : FileSystem} {path : Path}
    (h : fs.longestPath < path.length) : fs.view path = .error .nameTooLong := by
  have hnonempty : ¬ path.isEmpty = true := by
    rw [List.isEmpty_iff]
    rintro rfl
    exact absurd h (Nat.not_lt_zero _)
  rw [view, locate, if_neg hnonempty, if_pos h]

end FileSystem

/-! ## Turns through a directory -/

namespace Path

/-- The path of something in a directory, by so many turns through that directory. -/
def roundabout (turns : Nat) (name : Name) : Path :=
  (List.replicate turns [dot, slash]).flatten ++ name

theorem roundabout_zero (name : Name) : roundabout 0 name = name := rfl

theorem roundabout_succ (turns : Nat) (name : Name) :
    roundabout (turns + 1) name = [dot] ++ slash :: roundabout turns name := by
  rw [roundabout, List.replicate_succ, List.flatten_cons]
  rfl

theorem length_roundabout (turns : Nat) (name : Name) :
    (roundabout turns name).length = 2 * turns + name.length := by
  induction turns with
  | zero => rw [roundabout_zero]; omega
  | succ turns ih =>
      rw [roundabout_succ, List.singleton_append, List.length_cons, List.length_cons, ih]
      omega

theorem splitOn_roundabout {name : Name} (h : slash ∉ name) (turns : Nat) :
    (roundabout turns name).splitOn slash = List.replicate turns [dot] ++ [name] := by
  induction turns with
  | zero => rw [roundabout_zero, List.splitOn_eq_singleton h]; rfl
  | succ turns ih =>
      rw [roundabout_succ, List.splitOn_append_cons_self_of_not_mem (by decide), ih]
      rfl

theorem head?_roundabout_ne {name : Name} (h : IsName name) (turns : Nat) :
    (roundabout turns name).head? ≠ some slash := by
  cases turns with
  | zero => exact fun hslash => h.no_slash (List.mem_of_head? hslash)
  | succ turns =>
      rw [roundabout_succ]
      simp [dot, slash]

end Path

namespace FileSystem

/-- However many turns a path takes, it looks up the same name, if it is not too long. -/
theorem looksUp_roundabout {fs : FileSystem} {entries : List (Name × FileTree)} {name : Name}
    (hdirectory : fs.root.get? fs.workingDirectory = some (.directory entries))
    (hname : Path.IsName name) (hdots : name ≠ [dot] ∧ name ≠ [dot, dot]) {turns : Nat}
    (hshort : 2 * turns + name.length ≤ fs.longestPath) :
    fs.LooksUp (Path.roundabout turns name) fs.workingDirectory name entries where
  nonempty := fun hnil => by simp [Path.roundabout, hname.ne_nil] at hnil
  short := by rwa [Path.length_roundabout]
  components := by
    have hstay : fs.step fs.workingDirectory [dot] = .ok fs.workingDirectory := by
      simp [step, hdirectory]
    refine ⟨List.replicate turns [dot], ?_, ?_⟩
    · rw [start, if_neg (Path.head?_roundabout_ne hname turns),
        Path.splitOn_roundabout hname.no_slash]
    · rw [start, if_neg (Path.head?_roundabout_ne hname turns)]
      clear hshort
      induction turns with
      | zero => rfl
      | succ turns ih =>
          rw [List.replicate_succ, List.foldlM_cons, hstay]
          exact ih
  directory := hdirectory
  proper := ⟨hname.ne_nil, hdots⟩

/-- Below a path that is almost too long, a directory cannot be listed. -/
theorem view_roundabout {fs : FileSystem} {entries below : List (Name × FileTree)}
    {name sub : Name} (hdirectory : fs.root.get? fs.workingDirectory = some (.directory entries))
    (hname : Path.IsName name) (hdots : name ≠ [dot] ∧ name ≠ [dot, dot])
    (hentry : FileTree.child? entries name = some (.directory [(sub, .directory below)]))
    {turns : Nat} (hshort : 2 * turns + name.length ≤ fs.longestPath)
    (hlong : fs.longestPath < 2 * turns + name.length + sub.length) :
    fs.view (Path.roundabout turns name)
      = .ok (.directory [(sub, .closed .nameTooLong)]) := by
  have hsub : ¬ ((Path.roundabout turns name).join sub).length ≤ fs.longestPath := by
    rw [Path.join_eq, List.length_append, List.length_append, Path.length_roundabout]
    omega
  rw [(looksUp_roundabout hdirectory hname hdots hshort).view hentry, FileTree.within,
    if_pos (by rwa [Path.length_roundabout]), FileTree.entriesWithin, FileTree.entriesWithin,
    FileTree.within, if_neg hsub]

end FileSystem

end OrderOfGrowth
