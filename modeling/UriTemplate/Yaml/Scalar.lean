import UriTemplate.Base64
import UriTemplate.Numeral.Reading
import UriTemplate.Text.Lower
import UriTemplate.Value.Datum
import UriTemplate.Yaml.Fault
import UriTemplate.Yaml.Tag

/-!
What tagged scalars denote.

Underscores in numerals are passed over.  Integers may be written in base two,
eight or sixteen, and numbers of any kind in base sixty with colons between the
digits.
-/

namespace UriTemplate.Yaml.Scalar

/-- The integer that a numeral denotes in a base.  Decimal digits are counted before what follows
them is looked at. -/
def integerIn (base : Nat) (numeral : Text) : Except Fault Int :=
  let count := Numeral.digitCount numeral
  if base = 10 ∧ Datum.maxDigits < count then .error (.tooManyDigits count)
  else
    match Numeral.integer? base numeral with
    | none => .error (.notInteger base numeral)
    | some number => .ok number

def sexagesimal (digits : List Int) : Int :=
  digits.foldl (fun value digit => value * 60 + digit) 0

/-- The absolute value of an integer, written without underscores and sign. -/
def unsignedInteger (numeral : Text) : Except Fault Int :=
  match numeral with
  | [] => .error .emptyNumeral
  | .scalar '0' :: .scalar 'b' :: rest => integerIn 2 rest
  | .scalar '0' :: .scalar 'x' :: rest => integerIn 16 rest
  | [.scalar '0'] => .ok 0
  | .scalar '0' :: _ => integerIn 8 numeral
  | _ =>
      if .scalar ':' ∈ numeral then do
        return sexagesimal (← (List.splitOn (.scalar ':') numeral).mapM (integerIn 10))
      else
        integerIn 10 numeral

def dropUnderscores (text : Text) : Text :=
  text.filter (· ≠ .scalar '_')

def integer (text : Text) : Except Fault Int := do
  let (negative, rest) := Numeral.splitSign (dropUnderscores text)
  let number ← unsignedInteger rest
  return if negative then -number else number

def realIn (numeral : Text) : Except Fault Float :=
  match Numeral.real? numeral with
  | none => .error (.notReal numeral)
  | some number => .ok number

/-- The value of digits in base sixty, the last one first, added up from the smallest.  The
weight of a digit must be near a floating-point number. -/
def sexagesimalReal (value : Float) (weight : Nat) : List Float → Except Fault Float
  | [] => .ok value
  | digit :: rest =>
      if Nat.pow 2 1024 ≤ weight then .error .tooLarge
      else sexagesimalReal (value + digit * weight.toFloat) (weight * 60) rest

/-- The absolute value of a floating-point number, written without underscores and sign. -/
def unsignedReal (numeral : Text) : Except Fault Float :=
  if numeral = Text.ofString ".inf" then .ok (1 / 0)
  else if .scalar ':' ∈ numeral then do
    let digits ← (List.splitOn (.scalar ':') numeral).mapM realIn
    sexagesimalReal 0 1 digits.reverse
  else
    realIn numeral

/-- The floating-point number that a scalar denotes.  The word `.nan` always denotes the same
undefined number; in any other way a scalar denotes one of its own, told by its place. -/
def real (place : Nat) (text : Text) : Except Fault Binary64 :=
  match Text.lower (dropUnderscores text) with
  | [] => .error .emptyNumeral
  | numeral =>
      let (negative, rest) := Numeral.splitSign numeral
      if rest = Text.ofString ".nan" then .ok (.undefined 0)
      else do
        let number ← unsignedReal rest
        if number.isNaN then return .undefined (place + 1)
        else return .ofFloat (if negative then -number else number)

def truth (text : Text) : Except Fault Bool :=
  let word := Text.lower text
  if [Text.ofString "yes", "true", "on"].contains word then .ok true
  else if [Text.ofString "no", "false", "off"].contains word then .ok false
  else .error (.notTruth word)

def moment (written : Timestamp) : Except Calendar.Impossible Datum :=
  match written.clock with
  | none => do return .day (← Calendar.Day.ofNumbers written.year written.month written.day)
  | some clock => do
      return .moment (← Calendar.Moment.ofNumbers written.year written.month written.day
        clock.hour clock.minute clock.second clock.microsecond clock.offset)

def timestamp (text : Text) : Except Fault Datum :=
  match (text.scalars?.map Tag.form).bind Timestamp.read? with
  | none => .error .notMoment
  | some written =>
      match moment written with
      | .ok datum => .ok datum
      | .error cause => .error (.impossible cause)

def octets (text : Text) : Except Fault Datum :=
  match text.scalars? with
  | none => .error .malformed
  | some chars =>
      match (if chars.all fun char => char.toNat < 128 then Base64.decode? chars else none) with
      | some octets => .ok (.octets octets)
      | none => .error .malformed

/-- What a scalar at a place denotes; only the tags of scalars are good for that. -/
def datum (place : Nat) (tag : Tag) (text : Text) : Except Fault Datum :=
  match tag with
  | .null => .ok .null
  | .truth => do return .truth (← truth text)
  | .integer => do return .integer (← integer text)
  | .real => do return .real (← real place text)
  | .timestamp => timestamp text
  | .octets => octets text
  | .string => .ok (.text text)
  | _ => .error .malformed

end UriTemplate.Yaml.Scalar
