import OrderOfGrowth.Label
import OrderOfGrowth.Tally

/-! # Estimates — time and space labels from a tally -/

namespace OrderOfGrowth

/-- Something for the best, the average and the worst case. -/
structure Cases (α : Type) where
  best : α
  average : α
  worst : α
deriving DecidableEq

namespace Cases

/-- The same in all three cases. -/
def all {α : Type} (a : α) : Cases α := ⟨a, a, a⟩

/-- Each case on its own. -/
def map {α β : Type} (f : α → β) (c : Cases α) : Cases β := ⟨f c.best, f c.average, f c.worst⟩

end Cases

/-- Labels for the three cases. -/
abbrev TimeLabels := Cases Label

/-- The labels of a recursive program: the best case is logarithmic, the others get a logarithmic
    factor. -/
def TimeLabels.recursive (t : TimeLabels) : TimeLabels :=
  ⟨.logarithmic, t.average.withLogFactor, t.worst.withLogFactor⟩

/-- The estimated growth of a program. -/
structure Estimate where
  time : TimeLabels
  space : Label
  tally : Tally
deriving DecidableEq

namespace Tally

/-- Time follows from the loop depth, and from recursion. -/
def time (t : Tally) : TimeLabels :=
  let uniform := Cases.all (Label.ofLoopDepth t.deepest)
  if t.recursive then TimeLabels.recursive uniform else uniform

/-- Space follows from recursion, or else from the number of allocations. -/
def space (t : Tally) : Label :=
  if t.recursive then .logarithmic
  else if t.allocations = 0 then .constant
  else .power t.allocations

end Tally

/-- The estimate for an outline. -/
def Outline.estimate (t : Outline) : Estimate :=
  let tally := t.tally
  ⟨tally.time, tally.space, tally⟩

end OrderOfGrowth
