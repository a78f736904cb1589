import OrderOfGrowth.CommandLine.Run
import OrderOfGrowth.IgnoreSet
import OrderOfGrowth.Proofs.FileWalk
import OrderOfGrowth.Proofs.GlobMarks
import OrderOfGrowth.Proofs.Lines

/-! # Ignored directories — which files the standard globs pass over

    Each standard pattern is a name between two double stars.  Its way from the pattern to the files
    has three parts:

    * the pattern is read as `anywhere name`, whatever the name, as long as no character of it has a
      meaning of its own (`parse_anywhere`), and the glob is never too deep
      (`isTooDeep_anywhere`);
    * a part of a list that has the separator behind it, and the separator or nothing in front of
      it, is a piece of the list other than its last (`mem_dropLast_splitOn_iff`);
    * the byte of a slash stands for a slash only, so if a path is a text, cutting its bytes at
      slashes is cutting the text (`splitOn_bytes`).

    So a path is accepted just when one of its directories has the name (`accepts_anywhere_iff`). -/

namespace OrderOfGrowth

/-! ## Pieces of a list -/

/-- The pieces of a list, less the last one, are the parts without a separator that have one behind
    them, and one or nothing in front of them. -/
theorem Text.mem_dropLast_splitOn_iff {α : Type} [DecidableEq α] {sep : α} {piece : List α}
    (hpiece : sep ∉ piece) (l : List α) :
    piece ∈ (l.splitOn sep).dropLast ↔
      ∃ front back, l = front ++ (piece ++ sep :: back) ∧
        (front = [] ∨ ∃ outer, front = outer ++ [sep]) := by
  induction l using Text.pieceInduction sep with
  | last l hl =>
      rw [List.splitOn_eq_singleton hl]
      refine ⟨nofun, ?_⟩
      rintro ⟨front, back, rfl, -⟩
      exact absurd (by simp) hl
  | more first rest hfirst ih =>
      rw [List.splitOn_append_cons_self_of_not_mem hfirst,
        List.dropLast_cons_of_ne_nil (List.splitOn_ne_nil sep rest), List.mem_cons, ih]
      constructor
      · rintro (rfl | ⟨front, back, rfl, hfront⟩)
        · exact ⟨[], rest, rfl, .inl rfl⟩
        · refine ⟨first ++ sep :: front, back, by simp, .inr ?_⟩
          rcases hfront with rfl | ⟨outer, rfl⟩
          · exact ⟨first, rfl⟩
          · exact ⟨first ++ sep :: outer, by simp⟩
      · rintro ⟨_, back, heq, rfl | ⟨outer, rfl⟩⟩
        · exact .inl (append_cons_inj hpiece hfirst heq.symm).1
        · -- the separator in front of the piece is the first one of the list, or a later one
          rw [List.append_assoc, List.singleton_append] at heq
          rcases List.append_eq_append_iff.mp heq with ⟨more, rfl, hrest⟩ | ⟨more, rfl, hrest⟩
          · cases more with
            | nil => exact .inr ⟨[], back, (List.cons.inj hrest).2, .inl rfl⟩
            | cons b more =>
                obtain ⟨rfl, rfl⟩ := List.cons.inj hrest
                exact .inr ⟨more ++ [sep], back, by simp, .inr ⟨more, rfl⟩⟩
          · cases more with
            | nil => exact .inr ⟨[], back, (List.cons.inj hrest).2.symm, .inl rfl⟩
            | cons b more =>
                obtain ⟨rfl, -⟩ := List.cons.inj hrest
                exact absurd (by simp) hfirst

/-! ## Slashes and bytes -/

namespace Text

theorem ofNat_eq_ofNat_iff {m n : Nat} (hm : m < 256) (hn : n < 256) :
    UInt8.ofNat m = UInt8.ofNat n ↔ m = n := by
  rw [← UInt8.toNat_inj, UInt8.toNat_ofNat_of_lt' hm, UInt8.toNat_ofNat_of_lt' hn]

/-- The byte of a slash stands for a slash only. -/
theorem slash_mem_encodeChar_iff (c : Char) : slash ∈ String.utf8EncodeChar c ↔ c = '/' := by
  constructor
  · have hhigh : ∀ n : Nat, n < 256 → 128 ≤ n → slash ≠ UInt8.ofNat n := by
      intro n hn hlow h
      have : 47 = n := (ofNat_eq_ofNat_iff (by decide) hn).mp h
      omega
    have hlarge : c.val.toNat < 0x110000 := by
      rcases c.valid with hsmall | hlarge
      · exact Nat.lt_trans hsmall (by decide)
      · exact hlarge.2
    unfold String.utf8EncodeChar
    dsimp only
    split_ifs <;> simp only [List.mem_cons, List.not_mem_nil, or_false] <;> intro h
    · have : 47 = c.val.toNat := (ofNat_eq_ofNat_iff (by decide) (by omega)).mp h
      exact Char.toNat_inj.mp this.symm
    -- in a code of several bytes all of them are above those of ASCII
    all_goals
      simp (disch := omega) only [hhigh, or_self] at h
  · rintro rfl
    decide

theorem slash_mem_bytes_iff (t : Text) : slash ∈ t.bytes ↔ '/' ∈ t := by
  rw [bytes, List.mem_flatMap]
  simp only [slash_mem_encodeChar_iff]
  constructor
  · rintro ⟨c, hc, rfl⟩
    exact hc
  · exact fun h => ⟨_, h, rfl⟩

/-- Cutting the bytes of a text at slashes is cutting the text. -/
theorem splitOn_bytes (t : Text) : t.bytes.splitOn slash = (t.splitOn '/').map bytes := by
  induction t using pieceInduction '/' with
  | last piece hpiece =>
      rw [List.splitOn_eq_singleton hpiece,
        List.splitOn_eq_singleton (mt (slash_mem_bytes_iff piece).mp hpiece)]
      rfl
  | more piece rest hpiece ih =>
      have hbytes : bytes (piece ++ '/' :: rest) = bytes piece ++ slash :: bytes rest :=
        List.flatMap_append
      rw [hbytes, List.splitOn_append_cons_self_of_not_mem hpiece,
        List.splitOn_append_cons_self_of_not_mem (mt (slash_mem_bytes_iff piece).mp hpiece), ih]
      rfl

end Text

/-- The names of the directories on a path: its components, the last one apart. -/
def Path.directories (path : Path) : List Name := (path.splitOn slash).dropLast

theorem Path.directories_piece (piece rest : Path) (h : slash ∉ piece) :
    directories (piece ++ slash :: rest) = piece :: directories rest := by
  rw [directories, List.splitOn_append_cons_self_of_not_mem h,
    List.dropLast_cons_of_ne_nil (List.splitOn_ne_nil _ rest), directories]

/-- The directories on a path that is a text. -/
theorem Text.mem_directories_bytes_iff (name t : Text) :
    name.bytes ∈ Path.directories t.bytes ↔ name ∈ (t.splitOn '/').dropLast := by
  rw [Path.directories, splitOn_bytes, ← List.map_dropLast, List.mem_map]
  constructor
  · rintro ⟨name', hname, heq⟩
    rwa [← bytes_injective heq]
  · exact fun hname => ⟨name, hname, rfl⟩

/-! ## A name between double stars -/

namespace Glob

/-- Has the character a meaning of its own in a pattern, outside of braces? -/
def isSpecial (c : Char) : Bool := ['?', '*', '[', '\x7b', '\x7d', '\\'].contains c

/-- A character without a meaning of its own is a literal. -/
theorem parseFrom_literal {c : Char} (h : isSpecial c = false) (fuel : Nat) (row : List Token)
    (before : Option Char) (rest : Text) :
    parseFrom (fuel + 1) ⟨⟨[], row⟩, []⟩ before (c :: rest)
      = parseFrom fuel ⟨⟨[], .literal c :: row⟩, []⟩ (some c) rest := by
  simp only [isSpecial, List.contains_cons, List.contains_nil, Bool.or_false, Bool.or_eq_false_iff,
    beq_eq_false_iff_ne] at h
  obtain ⟨hask, hstar, hclass, hopen, hclose, hescape⟩ := h
  have hcomma : ¬ (c = ',' ∧ State.inGroup ⟨⟨[], row⟩, []⟩ = true) := fun h => nomatch h.2
  rw [parseFrom.eq_def]
  dsimp only
  rw [if_neg hask, if_neg hstar, if_neg hclass, if_neg hopen, if_neg hclose,
    if_neg hcomma, if_neg hescape]
  rfl

/-- A run over characters without a meaning of their own. -/
theorem parseFrom_literals {name : Text} (h : ∀ c ∈ name, isSpecial c = false) (fuel : Nat)
    (row : List Token) (before : Option Char) (rest : Text) :
    ∃ before', parseFrom (fuel + name.length) ⟨⟨[], row⟩, []⟩ before (name ++ rest)
      = parseFrom fuel ⟨⟨[], (name.map .literal).reverse ++ row⟩, []⟩ before' rest := by
  induction name generalizing row before with
  | nil => exact ⟨before, rfl⟩
  | cons c name ih =>
      obtain ⟨before', hrest⟩ :=
        ih (fun d hd => h d (List.mem_cons_of_mem c hd)) (.literal c :: row) (some c)
      refine ⟨before', ?_⟩
      rw [List.length_cons, ← Nat.add_assoc, List.cons_append,
        parseFrom_literal (h c List.mem_cons_self), hrest, List.map_cons, List.reverse_cons,
        List.append_assoc]
      rfl

theorem parseFrom_doubleStar (fuel : Nat) (s : State) (before : Option Char) (rest : Text) :
    parseFrom (fuel + 1) s before ('*' :: '*' :: rest)
      = parseFrom fuel (doubleStar s before rest).1 (doubleStar s before rest).2.1
          (doubleStar s before rest).2.2 := by
  rw [parseFrom.eq_def]
  dsimp only
  rw [if_neg (by decide), if_pos rfl]
  rfl

/-- The pattern for a name as a directory anywhere on a path. -/
def anywherePattern (name : Text) : Text := "**/".toList ++ (name ++ "/**".toList)

theorem parse_anywhere {name : Text} (h : ∀ c ∈ name, isSpecial c = false) :
    parse (anywherePattern name) = .ok ⟨anywhere name⟩ := by
  have hlength : (anywherePattern name).length + 1 = 6 + name.length + 1 := by
    simp only [anywherePattern, List.length_append]
    show 3 + (name.length + 3) + 1 = _
    omega
  obtain ⟨before, hname⟩ := parseFrom_literals h 6 [.leading] (some '/') "/**".toList
  have hspelled : parseFrom (6 + name.length + 1) .empty none (anywherePattern name)
      = .ok (anywhere name) := by
    -- the first double star takes its slash with it
    rw [show anywherePattern name = '*' :: '*' :: '/' :: (name ++ "/**".toList) from rfl,
      parseFrom_doubleStar]
    show parseFrom (6 + name.length) ⟨⟨[], [.leading]⟩, []⟩ (some '/') (name ++ "/**".toList) = _
    -- the slash behind the name becomes part of the second one
    rw [hname, show "/**".toList = ['/', '*', '*'] from rfl, parseFrom_literal (by decide),
      parseFrom_doubleStar]
    show Except.ok (Token.trailing :: ((name.map Token.literal).reverse ++ [.leading])).reverse = _
    simp [anywhere]
  rw [parse, hlength, hspelled]
  rfl

theorem row_anywhere (name : Text) : Glob.row ⟨anywhere name⟩ = anywhere name := by
  cases name <;> rfl

/-- The glob has no deep expression. -/
theorem isTooDeep_anywhere (name : Text) : isTooDeep ⟨anywhere name⟩ = false := by
  have hliterals : (rowShape (name.map .literal ++ [.trailing])).depth = 1 := by
    induction name with
    | nil => rfl
    | cons c name ih =>
        rw [List.map_cons, List.cons_append, rowShape, Shape.beside, ih]
        rfl
  rw [isTooDeep, row_anywhere, anywhere, rowShape, Shape.beside, hliterals]
  rfl

/-- Tokens that end in a double star spell no text. -/
theorem spell_append_trailing (test : Text → Bool) (ts : List Token) :
    spell test (ts ++ [.trailing]) = false := by
  have hnone : literals? (ts ++ [.trailing]) = none := by
    induction ts with
    | nil => rfl
    | cons t ts ih =>
        cases t with
        | literal c => rw [List.cons_append, literals?, ih]; rfl
        | _ => rfl
  rw [spell, hnone]
  rfl

/-- The glob has to go through its tokens, and asks for no name. -/
theorem asksForName_anywhere (name : Text) : (Glob.plan ⟨anywhere name⟩).asksForName = false := by
  have hname : isName (anywhere name) = false := spell_append_trailing _ _
  have hextension : isExtension (anywhere name) = false := by
    cases name <;> rfl
  have hrequired : endsInExtension (anywhere name).reverse = false := by
    simp [anywhere, endsInExtension]
  rw [plan]
  simp only [hname, hextension, hrequired, Bool.false_eq_true, if_false]
  split_ifs <;> rfl

/-- A name between double stars accepts a path just when a directory of the path has the name. -/
theorem accepts_anywhere_iff {name : Text} (h : '/' ∉ name) (path : Path) :
    Glob.accepts ⟨anywhere name⟩ path = true ↔ name.bytes ∈ path.directories := by
  rw [accepts, asksForName_anywhere, Bool.not_false, Bool.true_or, Bool.true_and, row_anywhere,
    rowAccepts_anywhere_iff, Path.directories,
    Text.mem_dropLast_splitOn_iff (mt (Text.slash_mem_bytes_iff name).mp h)]

end Glob

/-! ## The standard globs -/

/-- The names of the directories whose files are passed over. -/
def ignoredNames : List Text :=
  ["node_modules".toList, "target".toList, "build".toList, "dist".toList, ".git".toList]

namespace IgnoreSet

theorem readAll_map_anywhere {names : List Text}
    (h : ∀ name ∈ names, ∀ c ∈ name, Glob.isSpecial c = false) :
    GlobLibrary.standard.readAll (names.map Glob.anywherePattern)
      = .ok (names.map fun name => ⟨Glob.anywhere name⟩) := by
  induction names with
  | nil => rfl
  | cons name names ih =>
      have hread : GlobLibrary.standard.read (Glob.anywherePattern name)
          = .ok (show Glob from ⟨Glob.anywhere name⟩) := by
        simp only [GlobLibrary.standard, Glob.parse_anywhere (h name List.mem_cons_self)]
      rw [List.map_cons, GlobLibrary.readAll, hread,
        ih fun name' hname => h name' (List.mem_cons_of_mem name hname)]
      rfl

/-- The standard patterns are accepted. -/
theorem matcher_standard_eq :
    Settings.standard.matcher .standard
      = .ok (ignoredNames.map fun name => ⟨Glob.anywhere name⟩) := by
  have hpatterns : Settings.standard.ignore = ignoredNames.map Glob.anywherePattern := rfl
  have hall : (ignoredNames.all fun name => name.all fun c => !Glob.isSpecial c) = true := rfl
  have hplain : ∀ name ∈ ignoredNames, ∀ c ∈ name, Glob.isSpecial c = false := by
    intro name hname c hc
    have hchars := List.all_eq_true.mp hall name hname
    simpa using List.all_eq_true.mp hchars c hc
  have hfault : fault? (ignoredNames.map fun name => ⟨Glob.anywhere name⟩) = none := by
    refine fault?_eq_none ?_
    intro g hg
    obtain ⟨name, -, rfl⟩ := List.mem_map.mp hg
    exact Glob.isTooDeep_anywhere name
  rw [Settings.matcher, hpatterns, readAll_map_anywhere hplain]
  dsimp only [GlobLibrary.standard]
  rw [hfault]

/-- The standard globs accept a path just when one of its directories has one of the names. -/
theorem accepts_anywhere_iff (path : Path) :
    accepts (ignoredNames.map fun name => ⟨Glob.anywhere name⟩) path = true ↔
      ∃ name ∈ ignoredNames, name.bytes ∈ path.directories := by
  have hslash : ∀ name ∈ ignoredNames, '/' ∉ name := by decide
  rw [accepts, List.any_map, List.any_eq_true]
  refine exists_congr fun name => and_congr_right fun hname => ?_
  exact Glob.accepts_anywhere_iff (hslash name hname) path

/-- A first component that is none of the names makes no difference. -/
theorem accepts_behind (piece : Name) (hslash : slash ∉ piece)
    (hname : ∀ name ∈ ignoredNames, name.bytes ≠ piece) (path : Path) :
    accepts (ignoredNames.map fun name => ⟨Glob.anywhere name⟩) (piece ++ slash :: path)
      = accepts (ignoredNames.map fun name => ⟨Glob.anywhere name⟩) path := by
  rw [Bool.eq_iff_iff, accepts_anywhere_iff, accepts_anywhere_iff,
    Path.directories_piece piece path hslash]
  refine exists_congr fun name => and_congr_right fun hmem => ?_
  rw [List.mem_cons]
  exact or_iff_right (hname name hmem)

end IgnoreSet

/-- **Ignored directories.**  The standard patterns are accepted, and for every path their globs
    accept it just when one of its directories, a component other than the last, is one of the five
    names, be the path a text or any row of bytes; so a leading `/` or `./` makes no difference.  Of
    the files below a directory, whatever the tree and the path, the walk passes over exactly those
    with such a directory on their path. -/
theorem Settings.ignoreSet_standard :
    ∃ s : IgnoreSet, Settings.standard.matcher .standard = .ok s ∧
      (∀ path : Text, s.accepts path.bytes = true ↔
        ∃ name ∈ (path.splitOn '/').dropLast, name ∈ ignoredNames) ∧
      (∀ path : Path, s.accepts path = true ↔
        ∃ name ∈ ignoredNames, name.bytes ∈ (path.splitOn slash).dropLast) ∧
      (∀ path : Path, s.accepts (slash :: path) = s.accepts path ∧
        s.accepts (dot :: slash :: path) = s.accepts path) ∧
      ∀ (path : Path) (t : FileTree),
        CommandLine.walkedFiles s.accepts path t
          = (t.files.map fun f => (f.1.foldl Path.join path, f.2)).filter fun f =>
              decide (∀ name ∈ ignoredNames, name.bytes ∉ (f.1.splitOn slash).dropLast) := by
  refine ⟨_, IgnoreSet.matcher_standard_eq, ?_, IgnoreSet.accepts_anywhere_iff, ?_, ?_⟩
  · intro path
    rw [IgnoreSet.accepts_anywhere_iff]
    refine exists_congr fun name => ?_
    rw [Text.mem_directories_bytes_iff, and_comm]
  · intro path
    exact ⟨IgnoreSet.accepts_behind [] (by decide) (by decide) path,
      IgnoreSet.accepts_behind [dot] (by decide) (by decide) path⟩
  · intro path t
    rw [CommandLine.walkedFiles, FileTree.walk_eq_map_files]
    refine List.filter_congr fun f _ => ?_
    rw [Bool.eq_iff_iff, Bool.not_eq_true', ← Bool.not_eq_true, IgnoreSet.accepts_anywhere_iff,
      decide_eq_true_eq]
    simp only [Path.directories, not_exists, not_and]

end OrderOfGrowth
