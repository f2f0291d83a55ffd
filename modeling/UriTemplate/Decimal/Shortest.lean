import UriTemplate.Decimal.Binary64

/-!
The shortest decimal of a floating-point number.

Every finite number stands for an interval of reals, those that round to it.  Of
the decimals in the interval the one with the fewest digits is chosen; of several
with as many digits the nearest, and of two equally near ones the even.  All
comparisons are between naturals.
-/

namespace UriTemplate

/-- The number `digits * 10 ^ exponent`. -/
structure Decimal where
  digits : Nat
  exponent : Int
deriving DecidableEq, Repr

namespace Decimal

/-- Compares `count * 10 ^ tens` with `other * 2 ^ twos`. -/
def compareScaled (count : Nat) (tens : Int) (other : Nat) (twos : Int) : Ordering :=
  compare (count * Nat.pow 10 tens.toNat * Nat.pow 2 (-twos).toNat)
    (other * Nat.pow 2 twos.toNat * Nat.pow 10 (-tens).toNat)

/-- Whether a decimal rounds to a finite positive number: it lies between the midpoints to
the neighbours, the midpoints included if the significand is even. -/
def roundsTo (number : Binary64) (decimal : Decimal) : Bool :=
  let below := if number.isNarrowBelow then 4 * number.significand - 1
    else 4 * number.significand - 2
  let above := 4 * number.significand + 2
  let closed := number.significand % 2 = 0
  let low := compareScaled decimal.digits decimal.exponent below (number.scale - 2)
  let high := compareScaled decimal.digits decimal.exponent above (number.scale - 2)
  (low = .gt || (closed && low = .eq)) && (high = .lt || (closed && high = .eq))

/-- The least exponent from `start` on whose power of ten exceeds a finite number, if it is
among the next few. -/
def leastPowerAbove (number : Binary64) (start : Int) : Nat → Int
  | 0 => start
  | tries + 1 =>
      if compareScaled 1 start number.significand number.scale = .gt then start
      else leastPowerAbove number (start + 1) tries

/-- The number of digits before the decimal point of a finite positive number; negative if
zeros follow the point. -/
def magnitude (number : Binary64) : Int :=
  let binary := (number.significand.log2 : Int) + number.scale
  leastPowerAbove number (Int.fdiv (binary * 30103) 100000 - 1) 5

/-- The multiple of `10 ^ grid` at or below a finite number. -/
def floorOn (number : Binary64) (grid : Int) : Nat :=
  (number.significand * Nat.pow 2 number.scale.toNat * Nat.pow 10 (-grid).toNat)
    / (Nat.pow 2 (-number.scale).toNat * Nat.pow 10 grid.toNat)

/-- The neighbour of a number on the grid `10 ^ grid` that rounds to it, the nearer one if
both do. -/
def onGrid? (number : Binary64) (grid : Int) : Option Decimal :=
  let floor := floorOn number grid
  let lower : Decimal := ⟨floor, grid⟩
  let upper : Decimal := ⟨floor + 1, grid⟩
  match lower.roundsTo number, upper.roundsTo number with
  | false, false => none
  | true, false => some lower
  | false, true => some upper
  | true, true =>
      match compareScaled (2 * floor + 1) grid (2 * number.significand) number.scale with
      | .gt => some lower
      | .lt => some upper
      | .eq => some (if floor % 2 = 0 then lower else upper)

def exact (number : Binary64) : Decimal :=
  ⟨number.significand * Nat.pow 2 number.scale.toNat * Nat.pow 5 (-number.scale).toNat,
    min number.scale 0⟩

/-- Searches ever finer grids, from `10 ^ grid` down. -/
def search (number : Binary64) (grid : Int) : Nat → Decimal
  | 0 => exact number
  | tries + 1 =>
      match onGrid? number grid with
      | some decimal => decimal
      | none => search number (grid - 1) tries

/-- The same number without trailing zeros among its digits. -/
def strip (decimal : Decimal) : Decimal :=
  if positive : 0 < decimal.digits ∧ decimal.digits % 10 = 0 then
    strip ⟨decimal.digits / 10, decimal.exponent + 1⟩
  else
    decimal
termination_by decimal.digits
decreasing_by omega

def shortest (number : Binary64) : Decimal :=
  if number.significand = 0 then ⟨0, 0⟩
  else strip (search number (magnitude number - 1) 17)

end Decimal

end UriTemplate
