import Mathlib.Algebra.Ring.Nat
import Mathlib.Data.List.Forall2
import OrderOfGrowth.Failure
import OrderOfGrowth.IgnoreSet

/-! # Refused patterns — when there is no matcher for the patterns of some settings

    Patterns go to the library in two steps, and each step can fail (`GlobLibrary.Refuses`): they
    are read one by one, and what was read is compiled together.  So it does not come down to the
    single patterns whether there is a matcher.  A library with limited room takes each of two
    patterns by itself and refuses both (`GlobLibrary.refuses_together`). -/

namespace OrderOfGrowth

namespace GlobLibrary

/-- The library does not take the patterns. -/
inductive Refuses (globs : GlobLibrary) (patterns : List Text) : Prop where
  /-- One of them cannot be read. -/
  | unread {p message : Text} :
      p ∈ patterns → globs.read p = .error message → Refuses globs patterns
  /-- All of them can be read, but not compiled together. -/
  | uncompiled {qs : List globs.Pattern} {message : Text} :
      List.Forall₂ (fun p q => globs.read p = .ok q) patterns qs →
      globs.compile qs = .error message → Refuses globs patterns

theorem readAll_eq_ok_iff (globs : GlobLibrary) (patterns : List Text) (qs : List globs.Pattern) :
    globs.readAll patterns = .ok qs ↔
      List.Forall₂ (fun p q => globs.read p = .ok q) patterns qs := by
  induction patterns generalizing qs with
  | nil =>
      rw [readAll, List.forall₂_nil_left_iff]
      simp [eq_comm]
  | cons p patterns ih =>
      rw [readAll, List.forall₂_cons_left_iff]
      simp only [← ih]
      cases globs.read p with
      | error message => simp
      | ok q =>
          cases globs.readAll patterns with
          | error f => simp [Except.map]
          | ok others => simp [Except.map, eq_comm]

theorem exists_readAll_eq_error_iff (globs : GlobLibrary) (patterns : List Text) :
    (∃ f, globs.readAll patterns = .error f) ↔
      ∃ p ∈ patterns, ∃ message, globs.read p = .error message := by
  induction patterns with
  | nil => simp [readAll]
  | cons p patterns ih =>
      simp only [List.mem_cons, or_and_right, exists_or, exists_eq_left, ← ih]
      rw [readAll]
      cases globs.read p with
      | error message => simp
      | ok q =>
          cases globs.readAll patterns with
          | error f => simp [Except.map]
          | ok others => simp [Except.map]

end GlobLibrary

/-- There is no matcher for the patterns of the settings just when the library refuses them. -/
theorem Settings.exists_matcher_eq_error_iff (globs : GlobLibrary) (s : Settings) :
    (∃ f, s.matcher globs = .error f) ↔ globs.Refuses s.ignore := by
  have hok := globs.readAll_eq_ok_iff s.ignore
  have herror := globs.exists_readAll_eq_error_iff s.ignore
  rw [matcher]
  cases hread : globs.readAll s.ignore with
  | error f =>
      obtain ⟨p, hp, message, hmessage⟩ := herror.mp ⟨f, hread⟩
      exact ⟨fun _ => .unread hp hmessage, fun _ => ⟨f, rfl⟩⟩
  | ok qs =>
      dsimp only
      constructor
      · rintro ⟨f, hf⟩
        cases hcompile : globs.compile qs with
        | error message => exact .uncompiled ((hok qs).mp hread) hcompile
        | ok m =>
            rw [hcompile] at hf
            exact nomatch hf
      · rintro (⟨hp, hmessage⟩ | ⟨hqs, hcompile⟩)
        · obtain ⟨f, hf⟩ := herror.mpr ⟨_, hp, _, hmessage⟩
          exact nomatch hread.symm.trans hf
        · obtain rfl := Except.ok.inj (hread.symm.trans ((hok _).mpr hqs))
          exact ⟨_, by rw [hcompile]⟩

/-! ## Limited room -/

namespace Glob

/-- Question marks are read one by one. -/
theorem parseFrom_questions (n : Nat) (row : List Token) (before : Option Char) :
    parseFrom (n + 1) ⟨⟨[], row⟩, []⟩ before (List.replicate n '?')
      = .ok (row.reverse ++ List.replicate n .anyByte) := by
  induction n generalizing row before with
  | zero =>
      rw [List.replicate_zero, List.replicate_zero, List.append_nil]
      rfl
  | succ n ih =>
      rw [List.replicate_succ, parseFrom.eq_def]
      show parseFrom (n + 1) ⟨⟨[], .anyByte :: row⟩, []⟩ _ _ = _
      rw [ih, List.reverse_cons, List.append_assoc, List.replicate_succ]
      rfl

/-- The glob has no deep expression. -/
theorem isTooDeep_questions (n : Nat) : isTooDeep ⟨List.replicate n .anyByte⟩ = false := by
  have hrow : Glob.row ⟨List.replicate n .anyByte⟩ = List.replicate n .anyByte := by
    cases n <;> rfl
  have hdepth : (rowShape (List.replicate n .anyByte)).depth = 0 := by
    clear hrow
    induction n with
    | zero => rfl
    | succ n ih =>
        rw [List.replicate_succ, rowShape, Shape.beside, ih]
        rfl
  rw [isTooDeep, hrow, hdepth]
  rfl

end Glob

namespace GlobLibrary

/-- A library with limited room: patterns that are too large together are refused. -/
def limited (globs : GlobLibrary) (size : globs.Pattern → Nat) (room : Nat) : GlobLibrary :=
  { globs with
    compile := fun patterns =>
      if (patterns.map size).sum ≤ room then globs.compile patterns
      else .error "compiled patterns exceed the size limit".toList }

/-- The library that a run is given, with room for so many tokens. -/
def standardWithin (room : Nat) : GlobLibrary :=
  standard.limited (fun g : Glob => g.tokens.length) room

theorem read_questions (n room : Nat) :
    (standardWithin room).read (List.replicate n '?')
      = .ok (show Glob from ⟨List.replicate n .anyByte⟩) := by
  have hparse : Glob.parse (List.replicate n '?') = .ok ⟨List.replicate n .anyByte⟩ := by
    rw [Glob.parse, List.length_replicate, Glob.State.empty, Glob.parseFrom_questions]
    rfl
  simp only [standardWithin, limited, standard, hparse]

theorem compile_questions {n room : Nat} (h : n ≤ room) :
    (standardWithin room).compile [show Glob from ⟨List.replicate n .anyByte⟩]
      = .ok (show IgnoreSet from [⟨List.replicate n .anyByte⟩]) := by
  have hroom :
      ([(⟨List.replicate n .anyByte⟩ : Glob)].map fun g => g.tokens.length).sum ≤ room := by
    simpa using h
  have hfault : IgnoreSet.fault? [⟨List.replicate n .anyByte⟩] = none := by
    refine IgnoreSet.fault?_eq_none ?_
    simp [Glob.isTooDeep_questions]
  simp only [standardWithin, limited, standard, if_pos hroom, hfault]

/-- What a library with limited room takes one by one, it may refuse together. -/
theorem refuses_together {n room : Nat} (hone : n ≤ room) (htwo : room < n + n) :
    (standardWithin room).Refuses [List.replicate n '?', List.replicate n '?'] ∧
      ¬ (standardWithin room).Refuses [List.replicate n '?'] := by
  have hread := read_questions n room
  constructor
  · refine .uncompiled (.cons hread (.cons hread .nil)) (if_neg (Nat.not_le.mpr ?_))
    show room < (List.replicate n Glob.Token.anyByte).length
      + ((List.replicate n Glob.Token.anyByte).length + 0)
    simpa using htwo
  · rintro (⟨hp, hmessage⟩ | ⟨hqs, hcompile⟩)
    · obtain rfl := List.mem_singleton.mp hp
      exact nomatch hread.symm.trans hmessage
    · obtain ⟨q, _, hq, hnil, rfl⟩ := List.forall₂_cons_left_iff.mp hqs
      obtain rfl := List.forall₂_nil_left_iff.mp hnil
      obtain rfl := Except.ok.inj (hread.symm.trans hq)
      exact nomatch (compile_questions hone).symm.trans hcompile

end GlobLibrary

end OrderOfGrowth
