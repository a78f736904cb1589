import OrderOfGrowth.Text.Basic

/-! # Keywords — the tables that lines are read by -/

namespace OrderOfGrowth

/-- What a line has to start with, or to hold, to carry a tag. -/
structure Keywords where
  /-- A line that starts with one of these opens a loop. -/
  loops : List Text
  /-- A line that starts with one of these opens a function. -/
  functions : List Text
  /-- A line that holds one of these allocates. -/
  allocations : List Text
deriving DecidableEq

namespace Keywords

/-- The tables used unless others are given. -/
def standard : Keywords where
  loops := ["for".toList]
  functions := ["function".toList]
  allocations := ["Array.from".toList, "Array(".toList, "new".toList]

/-- Every word of the three tables. -/
def all (k : Keywords) : List Text := k.loops ++ k.functions ++ k.allocations

end Keywords

end OrderOfGrowth
