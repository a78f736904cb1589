import OrderOfGrowth.Glob.Expression
import OrderOfGrowth.Glob.Library
import OrderOfGrowth.Glob.Marks
import OrderOfGrowth.Glob.Parser

/-! # Ignore sets — the globs of the files to pass over

    This is the library that a run is given.  All patterns are read first.  Then the globs that need
    an expression are looked at: those that require an extension, and after them the general ones,
    which go by their place among themselves.  Of what can be too much for an expression, only its
    depth is looked at, and not its size. -/

namespace OrderOfGrowth

/-- The globs of the files to pass over. -/
abbrev IgnoreSet := List Glob

namespace IgnoreSet

/-- Why globs are refused. -/
inductive Fault where
  /-- A glob that requires an extension has too deep an expression. -/
  | tooDeepRequired (expression : Text)
  /-- A general glob has too deep an expression. -/
  | tooDeepGeneral (place : Nat)
deriving DecidableEq

/-- The wording of a fault. -/
def Fault.message : Fault → Text
  | .tooDeepRequired expression =>
    "error parsing glob '".toList ++ expression ++ "': error parsing pattern 0".toList
  | .tooDeepGeneral place => "error parsing pattern ".toList ++ Text.ofNat place

/-- The globs with the given plan. -/
def withPlan (plan : Glob.Plan) (s : IgnoreSet) : List Glob := s.filter (·.plan == plan)

/-- The first fault of the globs. -/
def fault? (s : IgnoreSet) : Option Fault :=
  match (s.withPlan .required).find? Glob.isTooDeep with
  | some g => some (.tooDeepRequired g.expression)
  | none => ((s.withPlan .general).findIdx? Glob.isTooDeep).map .tooDeepGeneral

/-- Globs that are not too deep have no fault. -/
theorem fault?_eq_none {s : IgnoreSet} (h : ∀ g ∈ s, g.isTooDeep = false) : s.fault? = none := by
  have hplan : ∀ plan, ∀ g ∈ s.withPlan plan, g.isTooDeep = false :=
    fun plan g hg => h g (List.mem_filter.mp hg).1
  have hrequired : (s.withPlan .required).find? Glob.isTooDeep = none := by
    simpa using hplan .required
  rw [fault?, hrequired]
  dsimp only
  rw [Option.map_eq_none_iff, List.findIdx?_eq_none_iff]
  exact hplan .general

/-- Is the path to be passed over? -/
def accepts (s : IgnoreSet) (path : Path) : Bool := s.any (·.accepts path)

end IgnoreSet

/-- The library that a run is given. -/
def GlobLibrary.standard : GlobLibrary where
  Pattern := Glob
  Matcher := IgnoreSet
  read := fun p =>
    match Glob.parse p with
    | .ok g => .ok g
    | .error e => .error ("error parsing glob '".toList ++ p ++ "': ".toList ++ e.message)
  compile := fun s =>
    match IgnoreSet.fault? s with
    | none => .ok s
    | some e => .error e.message
  accepts := IgnoreSet.accepts

end OrderOfGrowth
