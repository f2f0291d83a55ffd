import UriTemplate.Value.Basic
import UriTemplate.Decimal.Notation
import UriTemplate.Calendar

/-!
Loosely typed data.

Callers bind variables to data of any kind, and a catalog document holds such data
as well.  `Datum.shown` is the display used inside messages, `Datum.text` the
text that a datum has where a name is needed.
-/

namespace UriTemplate

/-- A datum of any kind.  A list or mapping inside itself is cut off there: `enclosing` stands
for it. -/
inductive Datum where
  | null
  | truth (value : Bool)
  | integer (value : Int)
  | real (value : Binary64)
  | text (value : Text)
  | octets (value : List UInt8)
  | day (value : Calendar.Day)
  | moment (value : Calendar.Moment)
  | list (items : List Datum)
  | tuple (items : List Datum)
  | set (items : List Datum)
  | mapping (entries : List (Datum × Datum))
  | enclosing (isMapping : Bool)
  | shaped (value : Value)
deriving Inhabited

namespace Datum

def kind : Datum → String
  | .null => "NoneType"
  | .truth _ => "bool"
  | .integer _ => "int"
  | .real _ => "float"
  | .text _ => "str"
  | .octets _ => "bytes"
  | .day _ => "date"
  | .moment _ => "datetime"
  | .list _ => "list"
  | .tuple _ => "tuple"
  | .set _ => "set"
  | .mapping _ => "dict"
  | .enclosing isMapping => if isMapping then "dict" else "list"
  | .shaped value => value.shape

/-- The written form of one octet between the given delimiters. -/
def octetShown (delimiter : Char) (octet : UInt8) : Text :=
  let number := octet.toNat
  if 0x80 ≤ number then Text.numericEscape number
  else Text.escape delimiter (.scalar (Char.ofNat number))

def octetsShown (octets : List UInt8) : Text :=
  let delimiter := if (39 : UInt8) ∈ octets ∧ (34 : UInt8) ∉ octets then '"' else '\''
  .scalar 'b' :: .scalar delimiter ::
    octets.flatMap (octetShown delimiter) ++ [.scalar delimiter]

mutual

def shown : Datum → Text
  | .null => "None"
  | .truth value => if value then "True" else "False"
  | .integer value => Text.ofInt value
  | .real value => Text.ofString value.written
  | .text value => value.quoted
  | .octets value => octetsShown value
  | .day value => Text.ofString value.shown
  | .moment value => Text.ofString value.shown
  | .list items => Text.concat ["[", Text.listed (allShown items), "]"]
  | .tuple items => Value.parenthesized (allShown items)
  | .set [] => "set()"
  | .set items => Text.concat ["\x7b", Text.listed (allShown items), "\x7d"]
  | .mapping entries =>
      Text.concat ["\x7b", Text.listed (entriesShown entries), "\x7d"]
  | .enclosing isMapping => if isMapping then "\x7b...\x7d" else "[...]"
  | .shaped value => value.shown

def allShown : List Datum → List Text
  | [] => []
  | datum :: rest => shown datum :: allShown rest

def entriesShown : List (Datum × Datum) → List Text
  | [] => []
  | (key, value) :: rest => Text.concat [shown key, ": ", shown value] :: entriesShown rest

end

/-- The greatest number of digits of an integer that can be displayed. -/
def maxDigits : Nat := 4300

/-- What is said of an integer with more digits. -/
def tooManyDigits : Text :=
  Text.concat ["Exceeds the limit (4300 digits) for integer string conversion; ",
    "use sys.set_int_max_str_digits() to increase the limit"]

def hasFewDigits (value : Int) : Bool :=
  (Text.ofNat value.natAbs).length ≤ maxDigits

mutual

/-- Whether a datum can be displayed: none of its integers has too many digits. -/
def isDisplayable : Datum → Bool
  | .integer value => hasFewDigits value
  | .list items => areDisplayable items
  | .tuple items => areDisplayable items
  | .set items => areDisplayable items
  | .mapping entries => areDisplayableEntries entries
  | _ => true

def areDisplayable : List Datum → Bool
  | [] => true
  | datum :: rest => isDisplayable datum && areDisplayable rest

def areDisplayableEntries : List (Datum × Datum) → Bool
  | [] => true
  | (key, value) :: rest =>
      isDisplayable key && isDisplayable value && areDisplayableEntries rest

end

def asText : Datum → Text
  | .text value => value
  | .day value => Text.ofString value.text
  | .moment value => Text.ofString value.text
  | datum => datum.shown

mutual

/-- The kind of the first part of a datum that keeps it from being looked up. -/
def unkeyable? : Datum → Option String
  | .list _ => some "list"
  | .set _ => some "set"
  | .mapping _ => some "dict"
  | .enclosing isMapping => some (if isMapping then "dict" else "list")
  | .tuple items => firstUnkeyable? items
  | _ => none

/-- The kind of the first part of several data that keeps them from being looked up. -/
def firstUnkeyable? : List Datum → Option String
  | [] => none
  | datum :: rest => (unkeyable? datum).or (firstUnkeyable? rest)

end

/-- The parts of a datum that can be gone through: the code points of a text, the numbers of
octets, the keys of a mapping, the items of a list. -/
def parts? : Datum → Option (List Datum)
  | .text value => some (value.map fun point => .text [point])
  | .octets value => some (value.map fun octet => .integer octet.toNat)
  | .list items => some items
  | .tuple items => some items
  | .set items => some items
  | .mapping entries => some (entries.map Prod.fst)
  | _ => none

/-- The numbers among the data, as integers where they are exact truth values. -/
def integer? : Datum → Option Int
  | .truth value => some (if value then 1 else 0)
  | .integer value => some value
  | _ => none

/-- Whether two data denote the same key: numbers by their value whatever their kind, and
everything else by kind and content.  Data that cannot be looked up equal none, and an undefined
number equals only itself. -/
def sameKey : Datum → Datum → Bool
  | .null, .null => true
  | .text left, .text right => left == right
  | .octets left, .octets right => left == right
  | .day left, .day right => left == right
  | .moment left, .moment right => left.same right
  | .real left, .real right => left == right || left.equals right
  | .real left, right => (right.integer?.map left.equalsInt).getD false
  | left, .real right => (left.integer?.map right.equalsInt).getD false
  | left, right =>
      match left.integer?, right.integer? with
      | some here, some there => here == there
      | _, _ => false

/-- Puts an entry into a mapping: a key that is there already keeps its place and its form. -/
def insertEntry {Content : Type} (key : Datum) (content : Content) :
    List (Datum × Content) → List (Datum × Content)
  | [] => [(key, content)]
  | (other, old) :: rest =>
      if other.sameKey key then (other, content) :: rest
      else (other, old) :: insertEntry key content rest

end Datum

end UriTemplate
