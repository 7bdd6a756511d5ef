import Lindenmayer.Numeral.Binary
import Lindenmayer.Text.Integer

/-!
# Decimals of binary numbers

Every number of a binary format has a finite decimal expansion: dividing by a power of two is
multiplying by the same power of five and moving the point. So both ways of choosing the digits to
write work on one natural number, the expansion without its point.

* `Magnitude.roundTo` rounds the expansion at a given decimal place, and `Magnitude.significant`
  keeps a given number of digits.
* `Magnitude.shortest` takes the coarsest decimal grid with a point that reads back as the same
  number. A grid is tested at the two points around the number only: if any point of a grid reads
  back, so does one of these. The expansion itself is the finest grid tried, so the search ends.
-/

namespace Lindenmayer.Numeral

open Text (natural)

/-- The power of ten with a given exponent. -/
def powerOfTen (n : Nat) : Nat :=
  Nat.pow 10 n

/-- A natural number times a power of ten. -/
structure Decimal where
  /-- The digits, as one number. -/
  coefficient : Nat
  /-- The power of ten they are scaled by. -/
  exponent : Int
deriving DecidableEq, Repr

/-- The power of ten of the leading digit. -/
def Decimal.order (d : Decimal) : Int :=
  (natural d.coefficient).length - 1 + d.exponent

namespace Magnitude

variable (m : Magnitude)

/-! ## The expansion -/

/-- The number of places behind the point in the expansion. -/
def places : Nat :=
  (-m.exponent).toNat

/-- One unit of the significand, in units of the last place. -/
def unit : Nat :=
  Nat.pow 5 m.places <<< m.exponent.toNat

/-- The expansion, as a number of units of the last place. -/
def expansion : Nat :=
  m.significand * m.unit

/-- The whole expansion. -/
def exact : Decimal :=
  ⟨m.expansion, -m.places⟩

/-! ## Rounding at a place -/

/-- The multiple of `10 ^ place` nearest to the number. -/
def roundTo (tie : Tie) (place : Int) : Decimal :=
  let shift := place + m.places
  ⟨roundDiv tie (m.expansion * powerOfTen (-shift).toNat) (powerOfTen shift.toNat), place⟩

/-- The number rounded to `n` digits; a carry gives one more. -/
def significant (tie : Tie) (n : Nat) : Decimal :=
  m.roundTo tie (m.exact.order + 1 - n)

/-! ## Shortest digits -/

/-- Whether a number of units of the last place reads back as `m`: it lies between the midpoints to
the neighbours of `m`. A midpoint itself reads back as the neighbour with the even significand. -/
def holds (units : Nat) : Bool :=
  let lower := (4 * m.significand - if m.narrowBelow then 1 else 2) * m.unit
  let upper := (4 * m.significand + 2) * m.unit
  if m.significand % 2 = 0 then lower ≤ 4 * units && 4 * units ≤ upper
  else lower < 4 * units && 4 * units < upper

/-- The first grid, from `10 ^ drop` units downward, with a point that reads back as `m`. -/
def shortestFrom (tie : Tie) : Nat → Decimal
  | 0 => m.exact
  | drop + 1 =>
    let grid := powerOfTen (drop + 1)
    let below := m.expansion / grid
    let exponent : Int := (drop + 1 : Nat) - m.places
    match m.holds (below * grid), m.holds ((below + 1) * grid) with
    | true, true => ⟨roundDiv tie m.expansion grid, exponent⟩
    | true, false => ⟨below, exponent⟩
    | false, true => ⟨below + 1, exponent⟩
    | false, false => shortestFrom tie drop

/-- The fewest digits that read back as `m`, and among those the nearest to it. -/
def shortest (tie : Tie) : Decimal :=
  m.shortestFrom tie ((natural m.expansion).length - 1)

end Magnitude

end Lindenmayer.Numeral
