/-!
Binary floating-point numbers of 64 bits, seen through their bits.

A finite number is a signed multiple of a power of two.  The view is exact, so
comparisons with integers and the choice of decimal digits need no rounding.
-/

namespace UriTemplate

/-- A floating-point number, by its sign bit, eleven exponent bits and 52 fraction bits. -/
structure Binary64 where
  bits : UInt64
deriving DecidableEq, Repr

namespace Binary64

/-- The number that a machine float holds. -/
def ofFloat (float : Float) : Binary64 :=
  ⟨float.toBits⟩

/-- The undefined numbers, told apart by their fractions. -/
def undefined (number : Nat) : Binary64 :=
  ⟨0x7FF8000000000000 + UInt64.ofNat number⟩

def signWeight : Nat := 0x8000000000000000

/-- The number of values of the fraction field, and the weight of the exponent field. -/
def fractionCount : Nat := 0x10000000000000

/-- A natural number, which must have no more than 53 binary digits. -/
def ofNat (number : Nat) : Binary64 :=
  if number = 0 then ⟨0⟩
  else
    ⟨UInt64.ofNat ((number.log2 + 1022) * fractionCount + number * Nat.pow 2 (52 - number.log2))⟩

def exponentCount : Nat := 2048

def isNegative (number : Binary64) : Bool :=
  signWeight ≤ number.bits.toNat

def exponentField (number : Binary64) : Nat :=
  number.bits.toNat / fractionCount % exponentCount

def fractionField (number : Binary64) : Nat :=
  number.bits.toNat % fractionCount

def isFinite (number : Binary64) : Bool :=
  number.exponentField ≠ 2047

def isInfinite (number : Binary64) : Bool :=
  number.exponentField = 2047 && number.fractionField = 0

/-- The significand of the absolute value of a finite number. -/
def significand (number : Binary64) : Nat :=
  if number.exponentField = 0 then number.fractionField
  else fractionCount + number.fractionField

/-- The power of two that the significand is multiplied by. -/
def scale (number : Binary64) : Int :=
  if number.exponentField = 0 then -1074 else (number.exponentField : Int) - 1075

/-- The integer that a finite number has before its point. -/
def truncated? (number : Binary64) : Option Int :=
  if number.isFinite then
    let whole := number.significand * Nat.pow 2 number.scale.toNat / Nat.pow 2 (-number.scale).toNat
    some (if number.isNegative then -whole else whole)
  else none

/-- Whether the gap to the next smaller absolute value is half the gap to the next larger. -/
def isNarrowBelow (number : Binary64) : Bool :=
  number.fractionField = 0 && 1 < number.exponentField

/-- Whether a finite number is exactly the given integer. -/
def equalsInt (number : Binary64) (integer : Int) : Bool :=
  number.isFinite &&
    (if number.isNegative then -(number.significand : Int) else number.significand)
        * (Nat.pow 2 number.scale.toNat : Nat)
      == integer * (Nat.pow 2 (-number.scale).toNat : Nat)

/-- Numerical equality: zeros are equal whatever their sign, and an undefined number equals none. -/
def equals (left right : Binary64) : Bool :=
  (left.isFinite || left.isInfinite) &&
    (left.bits == right.bits ||
      (left.isFinite && right.isFinite && left.significand == 0 && right.significand == 0))

end Binary64

end UriTemplate
