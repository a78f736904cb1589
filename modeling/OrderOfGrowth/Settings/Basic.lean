import OrderOfGrowth.Line.Tags

/-! # Settings — what an analysis can be told -/

namespace OrderOfGrowth

/-- The settings of an analysis. -/
structure Settings where
  /-- The name put on every report. -/
  name : Text
  /-- The input sizes that curves are sampled at. -/
  sizes : List UInt64
  /-- The tables that lines are read by. -/
  keywords : Keywords
  /-- Are calls recorded, so that a function can be seen to call itself? -/
  tracksCalls : Bool
  /-- Globs for the files to pass over when a directory is walked. -/
  ignore : List Text
deriving DecidableEq

namespace Settings

/-- The settings used unless others are given. -/
def standard : Settings where
  name := "User Code".toList
  sizes := [10, 20, 50, 100, 200, 500, 1000]
  keywords := .standard
  tracksCalls := false
  ignore :=
    ["**/node_modules/**".toList, "**/target/**".toList, "**/build/**".toList, "**/dist/**".toList,
      "**/.git/**".toList]

/-- The rules that lines are read by. -/
def lineRules (s : Settings) : LineRules := ⟨s.keywords, s.tracksCalls⟩

/-- Why settings are refused. -/
inductive Fault where
  | noSizes
  | zeroSize
  | emptyKeyword
deriving DecidableEq

/-- The wording of a fault. -/
def Fault.message : Fault → Text
  | .noSizes => "input_sizes must not be empty".toList
  | .zeroSize => "input_sizes must be positive".toList
  | .emptyKeyword => "keywords must not contain empty strings".toList

/-- The first fault of the settings, if there is one. -/
def fault? (s : Settings) : Option Fault :=
  if s.sizes.isEmpty then some .noSizes
  else if s.sizes.contains 0 then some .zeroSize
  else if s.keywords.all.any List.isEmpty then some .emptyKeyword
  else none

end Settings

end OrderOfGrowth
