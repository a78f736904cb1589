import OrderOfGrowth.Label

/-! # Curves — sampling a label's growth

    Five labels have a curve of their own.  Every other one, the cubic and the composed ones
    included, is drawn as a straight line. -/

namespace OrderOfGrowth

/-- A growth curve. -/
inductive Curve where
  | constant
  | logarithmic
  | linear
  | linearithmic
  | quadratic
deriving DecidableEq

namespace Curve

/-- The curve that belongs to a label. -/
def ofLabel? (l : Label) : Option Curve :=
  if l = .constant then some constant
  else if l = .logarithmic then some logarithmic
  else if l = .linear then some linear
  else if l = .linearithmic then some linearithmic
  else if l = .quadratic then some quadratic
  else none

/-- The curve drawn for a label. -/
def ofLabel (l : Label) : Curve := (ofLabel? l).getD linear

/-- The height of a curve. -/
def height : Curve → Float → Float
  | constant, _ => 1
  | logarithmic, n => n.log2
  | linear, n => n
  | linearithmic, n => n * n.log2
  | quadratic, n => n * n

/-- The curve at some input sizes, one sample each. -/
def samples (c : Curve) (sizes : List UInt64) : List Float := sizes.map fun n => c.height n.toFloat

end Curve

end OrderOfGrowth
