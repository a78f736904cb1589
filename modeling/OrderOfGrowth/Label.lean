import OrderOfGrowth.Text.Basic

/-! # Labels — Big-O classes as texts

    A label is compared and shown, and never read back into a growth model.  Loop nests of depth up
    to three have names of their own; deeper ones, and all space estimates, spell the exponent out. -/

namespace OrderOfGrowth

/-- A Big-O class, by its written form. -/
structure Label where
  text : Text
deriving DecidableEq

namespace Label

/-- Constant growth. -/
def constant : Label := ⟨"O(1)".toList⟩

/-- Logarithmic growth. -/
def logarithmic : Label := ⟨"O(log n)".toList⟩

/-- Linear growth. -/
def linear : Label := ⟨"O(n)".toList⟩

/-- Linearithmic growth. -/
def linearithmic : Label := ⟨"O(n log n)".toList⟩

/-- Quadratic growth. -/
def quadratic : Label := ⟨"O(n²)".toList⟩

/-- Cubic growth. -/
def cubic : Label := ⟨"O(n³)".toList⟩

/-- The power `n^k` written out, also for `k = 1`. -/
def power (k : Nat) : Label := ⟨"O(n^".toList ++ Text.ofNat k ++ [')']⟩

/-- The label of a loop nest of the given depth. -/
def ofLoopDepth : Nat → Label
  | 0 => constant
  | 1 => linear
  | 2 => quadratic
  | 3 => cubic
  | k => power k

/-- The whole label inside a logarithmic factor, without simplifying. -/
def withLogFactor (l : Label) : Label := ⟨"O(".toList ++ l.text ++ " log n)".toList⟩

end Label

end OrderOfGrowth
