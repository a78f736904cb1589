/-! # Shortest decimals — the fewest digits that read back as the same double

    A double is a whole number of units of a power of two.  The reals that round to it form an
    interval around it, whose ends belong to it when the mantissa is even.  Going from coarse decimal
    grids to fine ones, the first grid with a point in the interval gives the fewest digits; of the
    value's two neighbours on that grid the nearer one is taken, and of two equally near ones the
    even one. -/

namespace OrderOfGrowth

/-- The decimal `digits * 10 ^ exponent`. -/
structure Decimal where
  digits : Nat
  exponent : Int
deriving DecidableEq

/-- A positive double in units of `2 ^ exponent`, with the ends of the interval that rounds to it. -/
structure RoundingInterval where
  value : Nat
  lower : Nat
  upper : Nat
  exponent : Int
  /-- Do the ends round to the value too? -/
  closed : Bool

/-- The leading bit of a mantissa, which is not stored: `2 ^ 52`. -/
def hiddenBit : Nat := 4503599627370496

namespace RoundingInterval

/-- The interval of the double with the given mantissa field and exponent field. -/
def ofFields (fraction exponent : Nat) : RoundingInterval :=
  let mantissa := if exponent = 0 then fraction else fraction + hiddenBit
  -- Below a power of two the doubles lie twice as close together.
  let below := if fraction = 0 && 1 < exponent then 1 else 2
  { value := 4 * mantissa
    lower := 4 * mantissa - below
    upper := 4 * mantissa + 2
    exponent := (max exponent 1 : Int) - 1077
    closed := mantissa % 2 = 0 }

/-- Is the decimal in the interval? -/
def has (r : RoundingInterval) (d : Decimal) : Bool :=
  let point := d.digits * Nat.pow 10 d.exponent.toNat * Nat.pow 2 (-r.exponent).toNat
  let unit := Nat.pow 10 (-d.exponent).toNat * Nat.pow 2 r.exponent.toNat
  if r.closed then r.lower * unit ≤ point && point ≤ r.upper * unit
  else r.lower * unit < point && point < r.upper * unit

/-- The multiples of `10 ^ exponent` next to the value, the first not above it, and whether the
    second is nearer.  Of two equally near ones the even one counts as nearer. -/
def neighbours (r : RoundingInterval) (exponent : Int) : Decimal × Decimal × Bool :=
  let step := Nat.pow 10 exponent.toNat * Nat.pow 2 (-r.exponent).toNat
  let value := r.value * (Nat.pow 10 (-exponent).toNat * Nat.pow 2 r.exponent.toNat)
  let d := value / step
  let rest := value % step
  (⟨d, exponent⟩, ⟨d + 1, exponent⟩, step < 2 * rest || (step == 2 * rest && d % 2 == 1))

/-- The nearest decimal of the interval on the coarsest grid that has one, among the given number of
    grids from `10 ^ exponent` on. -/
def shortestFrom (r : RoundingInterval) : (grids : Nat) → (exponent : Int) → Decimal
  | 0, exponent => (r.neighbours exponent).1
  | grids + 1, exponent =>
    let (low, high, highNearer) := r.neighbours exponent
    match r.has low, r.has high with
    | true, true => if highNearer then high else low
    | true, false => low
    | false, true => high
    | false, false => shortestFrom r grids (exponent - 1)

/-- The shortest decimal of the interval.  Seventeen digits always suffice, and the logarithm to base
    two tells the place of the first digit to within one. -/
def shortest (r : RoundingInterval) : Decimal :=
  shortestFrom r 22 (Int.fdiv ((r.value.log2 + r.exponent) * 30103) 100000 + 2)

end RoundingInterval

/-- The sign and the shortest decimal of a finite double. -/
def Decimal.ofFloat? (x : Float) : Option (Bool × Decimal) :=
  let bits := x.toBits.toNat
  let negative := 2048 ≤ bits / hiddenBit
  let exponent := bits / hiddenBit % 2048
  let fraction := bits % hiddenBit
  if exponent = 2047 then none
  else if exponent = 0 && fraction = 0 then some (negative, ⟨0, 0⟩)
  else some (negative, (RoundingInterval.ofFields fraction exponent).shortest)

end OrderOfGrowth
