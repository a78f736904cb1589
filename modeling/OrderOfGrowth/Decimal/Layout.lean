import OrderOfGrowth.Text.Basic
import OrderOfGrowth.Decimal.Shortest

/-! # Decimal layout — where the point and the exponent go -/

namespace OrderOfGrowth

/-- How a decimal is written. -/
structure DecimalLayout where
  /-- The least power of ten of a first digit that is written without an exponent. -/
  leastPositional : Int
  /-- The greatest power of ten of a first digit that is written without an exponent. -/
  greatestPositional : Int

namespace DecimalLayout

/-- Numbers from `0.00001` up to sixteen digits before the point have no exponent. -/
def standard : DecimalLayout := ⟨-5, 15⟩

/-- Digits without an exponent, the first of them in the place of the given power of ten.  There is
    always a point with a digit behind it. -/
def positional (digits : Text) (power : Int) : Text :=
  if power < 0 then
    "0.".toList ++ List.replicate (-power - 1).toNat '0' ++ digits
  else
    let whole := power.toNat + 1
    let tail := digits.drop whole
    digits.take whole ++ List.replicate (whole - digits.length) '0' ++ ['.'] ++
      (if tail.isEmpty then ['0'] else tail)

/-- Digits with an exponent: a point only if a digit follows it, and always a sign. -/
def scientific (digits : Text) (power : Int) : Text :=
  digits.take 1 ++ (if digits.length ≤ 1 then [] else '.' :: digits.drop 1) ++
    ['e', if power < 0 then '-' else '+'] ++ Text.ofNat power.natAbs

/-- The written form of a decimal without its sign. -/
def write (l : DecimalLayout) (d : Decimal) : Text :=
  let digits := Text.ofNat d.digits
  let power := d.exponent + digits.length - 1
  if l.leastPositional ≤ power && power ≤ l.greatestPositional then positional digits power
  else scientific digits power

/-- The written form of a finite double: the shortest decimal, after a minus sign if it is negative
    (the negative zero included). -/
def writeFloat? (l : DecimalLayout) (x : Float) : Option Text :=
  (Decimal.ofFloat? x).map fun (negative, d) => (if negative then ['-'] else []) ++ l.write d

end DecimalLayout

end OrderOfGrowth
