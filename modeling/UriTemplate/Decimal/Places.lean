import UriTemplate.Decimal.Notation

/-!
Numbers with a given number of places.

An integer is first rounded to one that 64 bits can hold, and any other number is
a decimal as it is.  It is then written with a number of digits after the point, or
with a number of digits in all and an exponent.  Half a unit goes to the even
neighbour.
-/

namespace UriTemplate.Decimal

/-- A quotient rounded to the nearest whole number. -/
def roundedQuotient (number divisor : Nat) : Nat :=
  let quotient := number / divisor
  let twice := 2 * (number % divisor)
  if divisor < twice ∨ (twice = divisor ∧ quotient % 2 = 1) then quotient + 1 else quotient

/-- The nearest number that a floating-point number of 64 bits can be; there is none if the number
is too large. -/
def nearestReal? (number : Nat) : Option Nat :=
  let unit := Nat.pow 2 (Nat.log2 number - 52)
  let rounded := roundedQuotient number unit * unit
  if rounded < Nat.pow 2 1024 then some rounded else none

def digitsOf (number : Nat) : List Char :=
  (toString number).toList

/-- The first digits of a number, as many as asked for, and the exponent of the first. -/
def leadingDigits (count number : Nat) : List Char × Nat :=
  let size := (digitsOf number).length
  let digits :=
    if size ≤ count then digitsOf number ++ List.replicate (count - size) '0'
    else digitsOf (roundedQuotient number (Nat.pow 10 (size - count)))
  (digits.take count, if count < digits.length then size else size - 1)

/-- Digits before and after a point, which stands alone only if it is to be kept. -/
def pointed (keepsPoint : Bool) (whole fraction : List Char) : List Char :=
  if fraction.isEmpty && !keepsPoint then whole else whole ++ '.' :: fraction

def dropEndZeros (digits : List Char) : List Char :=
  (digits.reverse.dropWhile (· == '0')).reverse

/-- A decimal with digits after the point; its exponent is not positive. -/
def fixedNotation (keepsPoint : Bool) (places : Nat) (decimal : Decimal) : List Char :=
  let scale := (-decimal.exponent).toNat
  let units :=
    if scale ≤ places then decimal.digits * Nat.pow 10 (places - scale)
    else roundedQuotient decimal.digits (Nat.pow 10 (scale - places))
  let digits := digitsOf units
  let padded := List.replicate (places + 1 - digits.length) '0' ++ digits
  pointed keepsPoint (padded.take (padded.length - places)) (padded.drop (padded.length - places))

/-- A decimal with one digit before the point and others after it, and an exponent. -/
def scientificNotation (keepsPoint : Bool) (places : Nat) (decimal : Decimal) : List Char :=
  let (digits, exponent) := leadingDigits (places + 1) decimal.digits
  pointed keepsPoint (digits.take 1) (digits.drop 1) ++
    (exponentNotation (exponent + decimal.exponent)).toList

/-- A decimal with so many digits in all: positionally if they reach to the point and are not far
behind it, and otherwise with an exponent.  Zeros at the end of the fraction are left out unless
the point is kept. -/
def generalNotation (keepsPoint : Bool) (count : Nat) (decimal : Decimal) : List Char :=
  let count := max count 1
  let (digits, place) := leadingDigits count decimal.digits
  let exponent := place + decimal.exponent
  let trim (fraction : List Char) := if keepsPoint then fraction else dropEndZeros fraction
  if -4 ≤ exponent ∧ exponent < count then
    if 0 ≤ exponent then
      let whole := exponent.toNat + 1
      pointed keepsPoint (digits.take whole) (trim (digits.drop whole))
    else
      pointed keepsPoint ['0'] (trim (List.replicate (-exponent - 1).toNat '0' ++ digits))
  else
    pointed keepsPoint (digits.take 1) (trim (digits.drop 1)) ++
      (exponentNotation exponent).toList

end UriTemplate.Decimal
