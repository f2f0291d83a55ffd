import UriTemplate.Decimal.Binary64
import UriTemplate.Numeral.Digit
import UriTemplate.Text.Basic

/-!
Reading numerals.

White space around a numeral is passed over and a sign may stand before it.  The
numeral of an integer in base two, eight or sixteen may start with the mark of
its base.  The numeral of a floating-point number is rounded to the nearest number
that 64 bits can hold.
-/

namespace UriTemplate.Numeral

def trim (text : Text) : Text :=
  ((text.dropWhile CodePoint.isSpace).reverse.dropWhile CodePoint.isSpace).reverse

/-- Splits a sign off; the first part says whether it is a minus sign. -/
def splitSign : Text → Bool × Text
  | .scalar '-' :: rest => (true, rest)
  | .scalar '+' :: rest => (false, rest)
  | text => (false, text)

def signed (negative : Bool) (number : Nat) : Int :=
  if negative then -number else number

/-- The value of digits in a base, on top of what has been read. -/
def digitsFrom (base value : Nat) : Text → Option Nat
  | [] => some value
  | point :: rest =>
      match point.digit? with
      | some digit => if digit < base then digitsFrom base (value * base + digit) rest else none
      | none => none

/-- The value of a non-empty text of digits. -/
def digits? (base : Nat) (text : Text) : Option Nat :=
  if text.isEmpty then none else digitsFrom base 0 text

/-- The letter that marks a base. -/
def mark? (base : Nat) : Option Char :=
  if base = 2 then some 'b'
  else if base = 8 then some 'o'
  else if base = 16 then some 'x'
  else none

def dropMark (base : Nat) : Text → Text
  | .scalar '0' :: .scalar letter :: rest =>
      if mark? base = some letter.toLower then rest else .scalar '0' :: .scalar letter :: rest
  | text => text

def integer? (base : Nat) (text : Text) : Option Int :=
  let (negative, rest) := splitSign (trim text)
  (digits? base (dropMark base rest)).map (signed negative)

def isDecimal (point : CodePoint) : Bool :=
  point.decimalDigit?.isSome

/-- The number of decimal digits that a numeral starts with, after white space and a sign. -/
def digitCount (text : Text) : Nat :=
  ((splitSign (trim text)).2.takeWhile isDecimal).length

def isZero (point : CodePoint) : Bool :=
  point.decimalDigit? = some 0

/-- The floating-point number nearest to a decimal.  The number of its digits, zeros at the front
left out, bounds its size. -/
def nearest (digits count : Nat) (exponent : Int) : Float :=
  if digits = 0 ∨ exponent + count < -400 then 0
  else if 400 < exponent + count then 1 / 0
  else if exponent < 0 then OfScientific.ofScientific digits true exponent.natAbs
  else OfScientific.ofScientific digits false exponent.natAbs

/-- The exponent at the end of a numeral; none stands for zero. -/
def exponent? : Text → Option Int
  | [] => some 0
  | .scalar letter :: rest =>
      if letter = 'e' ∨ letter = 'E' then
        let (negative, digits) := splitSign rest
        (digits? 10 digits).map (signed negative)
      else none
  | .surrogate _ :: _ => none

/-- The digits after a decimal point, and the rest. -/
def splitFraction : Text → Text × Text
  | .scalar '.' :: rest => (rest.takeWhile isDecimal, rest.dropWhile isDecimal)
  | text => ([], text)

/-- The floating-point number that an unsigned numeral denotes. -/
def magnitude? (text : Text) : Option Float :=
  let lower := text.map fun point =>
    match point with
    | .scalar char => .scalar char.toLower
    | .surrogate offset => .surrogate offset
  if lower = Text.ofString "inf" ∨ lower = Text.ofString "infinity" then some (1 / 0)
  else if lower = Text.ofString "nan" then some (0 / 0)
  else do
    let whole := text.takeWhile isDecimal
    let (fraction, rest) := splitFraction (text.dropWhile isDecimal)
    let digits ← digits? 10 (whole ++ fraction)
    let exponent ← exponent? rest
    let significant := (whole ++ fraction).dropWhile isZero
    return nearest digits significant.length (exponent - fraction.length)

def real? (text : Text) : Option Float :=
  let (negative, rest) := splitSign (trim text)
  (magnitude? rest).map fun number => if negative then -number else number

end UriTemplate.Numeral
