/-!
# The shortest decimal that reads back

A finite binary number stands for every real number that rounds to it. Among the decimals in that
interval the one on the coarsest decimal grid has the fewest digits. On that grid at most the two
neighbours of the exact value come into question; the nearer one is chosen, and of two equally near
ones the even one.

All arithmetic is exact, on natural numbers. A positive number is given as `significand * 2 ^
exponent`, and so is the interval around it, in quarters of a unit of its last place.
-/

namespace ChannelBus

/-- A positive decimal number `digits * 10 ^ exponent`. -/
structure Decimal where
  /-- The digits as a number that is no multiple of ten. -/
  digits : Nat
  /-- The power of ten. -/
  exponent : Int
deriving DecidableEq

namespace Decimal

/-- A positive binary number with the reals that round to it. -/
structure Binary where
  /-- The integer significand. -/
  significand : Nat
  /-- The power of two. -/
  exponent : Int
  /-- Whether the next smaller number is only half as far away as the next larger one. -/
  closeBelow : Bool

namespace Binary

/-- Four times the significand: the number in quarters of a unit. -/
def quarters (number : Binary) : Nat :=
  4 * number.significand

/-- The lower end of the interval, in quarters of a unit. -/
def lowerQuarters (number : Binary) : Nat :=
  number.quarters - if number.closeBelow then 1 else 2

/-- The upper end of the interval, in quarters of a unit. -/
def upperQuarters (number : Binary) : Nat :=
  number.quarters + 2

/-- The ends belong to the interval exactly if the significand is even, because a real half-way
between two numbers rounds to the even one. -/
def includesEnds (number : Binary) : Bool :=
  number.significand % 2 == 0

/-- A power with a possibly negative exponent, as numerator and denominator. -/
def power (base : Nat) (exponent : Int) : Nat × Nat :=
  (Nat.pow base exponent.toNat, Nat.pow base (-exponent).toNat)

/-- The quotient of quarters of a unit by grid steps of `10 ^ grid`, as numerator and denominator:
`count` quarters are `count * scale.1 / scale.2` steps. -/
def scale (number : Binary) (grid : Int) : Nat × Nat :=
  let units := power 2 (number.exponent - 2)
  let steps := power 10 grid
  (units.1 * steps.2, units.2 * steps.1)

/-- Whether `steps` steps of the grid lie in the interval. -/
def contains (number : Binary) (grid : Int) (steps : Nat) : Bool :=
  let (numerator, denominator) := number.scale grid
  let point := steps * denominator
  let lower := number.lowerQuarters * numerator
  let upper := number.upperQuarters * numerator
  if number.includesEnds then lower ≤ point && point ≤ upper else lower < point && point < upper

/-- The multiple of `10 ^ grid` that is nearest to the number, if it lies in the interval. -/
def onGrid? (number : Binary) (grid : Int) : Option Nat :=
  let (numerator, denominator) := number.scale grid
  let below := number.quarters * numerator / denominator
  let remainder := number.quarters * numerator % denominator
  let above := below + 1
  match number.contains grid below, number.contains grid above with
  | true, true =>
    if 2 * remainder < denominator then some below
    else if denominator < 2 * remainder then some above
    else if below % 2 = 0 then some below else some above
  | true, false => some below
  | false, true => some above
  | false, false => none

/-- The finest grid that a double needs. -/
def finestGrid : Int := -325

/-- Tries the grids from the coarsest, `10 ^ (finestGrid + count)`, down to the finest. -/
def searchGrids (number : Binary) : Nat → Option Decimal
  | 0 => none
  | count + 1 =>
    let grid := finestGrid + count
    match number.onGrid? grid with
    | some digits => some { digits, exponent := grid }
    | none => number.searchGrids count

/-- The shortest decimal that reads back as the number. -/
def shortest? (number : Binary) : Option Decimal :=
  number.searchGrids 636

end Binary

end Decimal

end ChannelBus
