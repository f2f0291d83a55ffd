import UriTemplate.Calendar
import UriTemplate.Text.Basic

/-!
Written timestamps.

A timestamp is a day, or a day and a time with a letter T or blanks between them.
The time may have a fraction, of which six digits count, and an offset from
universal time.
-/

namespace UriTemplate.Yaml

/-- The time of a written timestamp; the offset is in minutes. -/
structure Clock where
  hour : Nat
  minute : Nat
  second : Nat
  microsecond : Nat
  offset : Option Int
deriving DecidableEq, Repr

/-- A written timestamp, of which the numbers may denote no day or time. -/
structure Timestamp where
  year : Nat
  month : Nat
  day : Nat
  /-- Whether the month and the day have two digits each. -/
  isPadded : Bool
  clock : Option Clock
deriving DecidableEq, Repr

namespace Timestamp

def valueOf (digits : List Char) : Nat :=
  digits.foldl (fun value digit => value * 10 + (digit.toNat - 0x30)) 0

/-- The digits at the start of a text, which must be between two numbers of digits. -/
def digits? (least most : Nat) (chars : List Char) : Option (List Char × List Char) :=
  let digits := (chars.take most).takeWhile Char.isDigit
  if least ≤ digits.length then some (digits, chars.drop digits.length) else none

def after? (mark : Char) : List Char → Option (List Char)
  | [] => none
  | char :: rest => if char = mark then some rest else none

def skipBlank (chars : List Char) : List Char :=
  chars.dropWhile fun char => char == ' ' || char == '\t'

/-- A text after what separates a day and a time. -/
def afterSeparator? : List Char → Option (List Char)
  | [] => none
  | char :: rest =>
      if char = 'T' ∨ char = 't' then some rest
      else if char = ' ' ∨ char = '\t' then some (skipBlank rest)
      else none

def microseconds (fraction : List Char) : Nat :=
  valueOf ((fraction ++ List.replicate 6 '0').take 6)

/-- The fraction at the start of a text. -/
def fraction : List Char → Nat × List Char
  | '.' :: rest => (microseconds (rest.takeWhile Char.isDigit), rest.dropWhile Char.isDigit)
  | chars => (0, chars)

/-- The minutes after the hours of an offset; none stand for zero. -/
def offsetMinutes? : List Char → Option Nat
  | [] => some 0
  | ':' :: rest => do
      let (minutes, last) ← digits? 2 2 rest
      if last.isEmpty then some (valueOf minutes) else none
  | _ => none

def signedOffset? (chars : List Char) : Option Int := do
  let (hours, rest) ← digits? 1 2 chars
  let minutes ← offsetMinutes? rest
  return (valueOf hours * 60 + minutes : Nat)

/-- The end of a timestamp: nothing, or an offset, with blanks before it. -/
def offset? (chars : List Char) : Option (Option Int) :=
  if chars.isEmpty then some none
  else
    match skipBlank chars with
    | ['Z'] => some (some 0)
    | '+' :: rest => (signedOffset? rest).map some
    | '-' :: rest => (signedOffset? rest).map fun minutes => some (-minutes)
    | _ => none

def clock? (chars : List Char) : Option Clock := do
  let (hour, rest) ← digits? 1 2 chars
  let (minute, rest) ← digits? 2 2 (← after? ':' rest)
  let (second, rest) ← digits? 2 2 (← after? ':' rest)
  let (microsecond, rest) := fraction rest
  let offset ← offset? rest
  return ⟨valueOf hour, valueOf minute, valueOf second, microsecond, offset⟩

def read? (chars : List Char) : Option Timestamp := do
  let (year, rest) ← digits? 4 4 chars
  let (month, rest) ← digits? 1 2 (← after? '-' rest)
  let (day, rest) ← digits? 1 2 (← after? '-' rest)
  let isPadded := month.length == 2 && day.length == 2
  let clock ← if rest.isEmpty then some none else (clock? (← afterSeparator? rest)).map some
  return ⟨valueOf year, valueOf month, valueOf day, isPadded, clock⟩

end Timestamp

end UriTemplate.Yaml
