import UriTemplate.Text.Basic

/-!
Days and moments of the calendar.

A day is a date of the proleptic Gregorian calendar from year 1 to year 9999.  A
moment is a day with a time of day, down to microseconds, and possibly an offset
from universal time of less than a day.
-/

namespace UriTemplate.Calendar

structure Day where
  year : Nat
  month : Nat
  day : Nat
deriving DecidableEq, Repr

/-- A moment; the offset is in minutes. -/
structure Moment where
  day : Day
  hour : Nat
  minute : Nat
  second : Nat
  microsecond : Nat
  offset : Option Int
deriving DecidableEq, Repr

/-- Why numbers denote no day, moment or offset. -/
inductive Impossible where
  | year (number : Nat)
  | month
  | day
  | hour
  | minute
  | second
  | offset (minutes : Int)
deriving DecidableEq, Repr

def isLeap (year : Nat) : Bool :=
  year % 4 = 0 && (year % 100 ≠ 0 || year % 400 = 0)

def daysInMonth (year month : Nat) : Nat :=
  if month = 2 then (if isLeap year then 29 else 28)
  else if month = 4 ∨ month = 6 ∨ month = 9 ∨ month = 11 then 30
  else 31

/-- The day with the given numbers, if there is one. -/
def Day.ofNumbers (year month day : Nat) : Except Impossible Day :=
  if year = 0 ∨ 9999 < year then .error (.year year)
  else if month = 0 ∨ 12 < month then .error .month
  else if day = 0 ∨ daysInMonth year month < day then .error .day
  else .ok ⟨year, month, day⟩

/-- The moment with the given numbers, if there is one. -/
def Moment.ofNumbers (year month day hour minute second microsecond : Nat)
    (offset : Option Int) : Except Impossible Moment := do
  if let some minutes := offset then
    if 24 * 60 ≤ minutes.natAbs then throw (.offset minutes)
  let date ← Day.ofNumbers year month day
  if 23 < hour then throw .hour
  if 59 < minute then throw .minute
  if 59 < second then throw .second
  return ⟨date, hour, minute, second, microsecond, offset⟩

/-- The number of days before a day, from the first day of year 1. -/
def Day.ordinal (date : Day) : Nat :=
  let years := date.year - 1
  let months := (List.range (date.month - 1)).foldl
    (fun days month => days + daysInMonth date.year (month + 1)) 0
  years * 365 + years / 4 - years / 100 + years / 400 + months + (date.day - 1)

/-- Microseconds since the start of year 1, as shown by a clock at the moment's place. -/
def Moment.clock (moment : Moment) : Int :=
  (((moment.day.ordinal * 24 + moment.hour) * 60 + moment.minute) * 60 + moment.second)
    * 1000000 + moment.microsecond

/-- Whether two moments are the same: both or neither have an offset, and then the universal
times agree. -/
def Moment.same (left right : Moment) : Bool :=
  match left.offset, right.offset with
  | none, none => left.clock == right.clock
  | some here, some there =>
      left.clock - here * 60000000 == right.clock - there * 60000000
  | _, _ => false

/-- A numeral with at least the given number of digits. -/
def padded (width number : Nat) : String :=
  let digits := toString number
  String.ofList (List.replicate (width - digits.length) '0') ++ digits

/-- The text of a day: year, month and day with hyphens between. -/
def Day.text (date : Day) : String :=
  padded 4 date.year ++ "-" ++ padded 2 date.month ++ "-" ++ padded 2 date.day

/-- The text of an offset: a sign, hours and minutes. -/
def offsetText (minutes : Int) : String :=
  (if minutes < 0 then "-" else "+") ++ padded 2 (minutes.natAbs / 60) ++ ":" ++
    padded 2 (minutes.natAbs % 60)

def Moment.text (moment : Moment) : String :=
  moment.day.text ++ " " ++ padded 2 moment.hour ++ ":" ++ padded 2 moment.minute ++ ":" ++
    padded 2 moment.second ++
    (if moment.microsecond = 0 then "" else "." ++ padded 6 moment.microsecond) ++
    (moment.offset.map offsetText).getD ""

def listing (numbers : List Nat) : String :=
  ", ".intercalate (numbers.map toString)

def Day.shown (date : Day) : String :=
  "datetime.date(" ++ listing [date.year, date.month, date.day] ++ ")"

/-- The display of a span of minutes: whole days, which may be negative, and seconds. -/
def spanShown (minutes : Int) : String :=
  let days := Int.fdiv minutes (24 * 60)
  let seconds := Int.fmod minutes (24 * 60) * 60
  let parts := (if days = 0 then [] else ["days=" ++ toString days]) ++
    (if seconds = 0 then [] else ["seconds=" ++ toString seconds])
  "datetime.timedelta(" ++ (if parts.isEmpty then "0" else ", ".intercalate parts) ++ ")"

def offsetShown (minutes : Int) : String :=
  if minutes = 0 then ", tzinfo=datetime.timezone.utc"
  else ", tzinfo=datetime.timezone(" ++ spanShown minutes ++ ")"

/-- The display of a moment; seconds and microseconds are left out where they are zero at the
end. -/
def Moment.shown (moment : Moment) : String :=
  let fine := if moment.microsecond = 0 then
      (if moment.second = 0 then [] else [moment.second])
    else [moment.second, moment.microsecond]
  "datetime.datetime(" ++
    listing ([moment.day.year, moment.day.month, moment.day.day, moment.hour, moment.minute]
      ++ fine) ++
    (moment.offset.map offsetShown).getD "" ++ ")"

def Impossible.message : Impossible → String
  | .year number => "year " ++ toString number ++ " is out of range"
  | .month => "month must be in 1..12"
  | .day => "day is out of range for month"
  | .hour => "hour must be in 0..23"
  | .minute => "minute must be in 0..59"
  | .second => "second must be in 0..59"
  | .offset minutes =>
      "offset must be a timedelta strictly between -timedelta(hours=24) and " ++
        "timedelta(hours=24), not " ++ spanShown minutes ++ "."

end UriTemplate.Calendar
