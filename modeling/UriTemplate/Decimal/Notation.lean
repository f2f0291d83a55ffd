import UriTemplate.Decimal.Shortest

/-!
The notation of floating-point numbers.

A number is written with its shortest digits: positionally if the leading digit
has an exponent from -4 to 15, with at least one digit on either side of the
point, and otherwise with an exponent that has a sign and at least two digits.
-/

namespace UriTemplate

namespace Decimal

/-- An exponent with its sign and at least two digits. -/
def exponentNotation (exponent : Int) : String :=
  let digits := toString exponent.natAbs
  (if exponent < 0 then "e-" else "e+") ++ (if digits.length < 2 then "0" ++ digits else digits)

def zeros (count : Nat) : String :=
  String.ofList (List.replicate count '0')

def layout (decimal : Decimal) : String :=
  let digits := toString decimal.digits
  let chars := digits.toList
  let leading := decimal.exponent + chars.length - 1
  if -4 ≤ leading ∧ leading < 16 then
    if 0 ≤ decimal.exponent then digits ++ zeros decimal.exponent.toNat ++ ".0"
    else if 0 ≤ leading then
      String.ofList (chars.take (leading.toNat + 1)) ++ "." ++
        String.ofList (chars.drop (leading.toNat + 1))
    else "0." ++ zeros (-leading - 1).toNat ++ digits
  else
    match chars with
    | [] => ""
    | [first] => String.ofList [first] ++ exponentNotation leading
    | first :: rest =>
        String.ofList (first :: '.' :: rest) ++ exponentNotation leading

end Decimal

namespace Binary64

def written (number : Binary64) : String :=
  if number.isFinite then
    (if number.isNegative then "-" else "") ++ (Decimal.shortest number).layout
  else if number.isInfinite then
    if number.isNegative then "-inf" else "inf"
  else
    "nan"

end Binary64

end UriTemplate
