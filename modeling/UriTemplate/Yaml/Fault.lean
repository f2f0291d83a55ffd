import UriTemplate.Calendar
import UriTemplate.Text.Quoted

/-!
What is wrong with a YAML text.

Most texts that give no document are malformed, and nothing more is said about
them.  The other faults are about scalars whose characters do not denote what
their tag asks for.
-/

namespace UriTemplate.Yaml

inductive Fault where
  | malformed
  /-- An escape sequence gives the number of no code point. -/
  | noCodePoint (number : Nat)
  | notInteger (base : Nat) (numeral : Text)
  | notReal (numeral : Text)
  | emptyNumeral
  | notTruth (word : Text)
  | notMoment
  | impossible (cause : Calendar.Impossible)
  /-- A decimal numeral with more digits than are converted. -/
  | tooManyDigits (count : Nat)
  /-- A weight in base sixty that is near no floating-point number. -/
  | tooLarge
  /-- A mapping where the text of a scalar is wanted. -/
  | notScalar
  /-- Too many collections inside one another, or a mapping that stands for a scalar through
  itself. -/
  | tooDeep
deriving DecidableEq, Repr

namespace Fault

/-- The wording of a fault; there is none for a malformed text. -/
def message : Fault → Text
  | .malformed => []
  | .noCodePoint _ => "chr() arg not in range(0x110000)"
  | .notInteger base numeral =>
      Text.concat ["invalid literal for int() with base ", Text.ofNat base, ": ",
        numeral.quoted.take 200]
  | .notReal numeral => Text.concat ["could not convert string to float: ", numeral.quoted]
  | .emptyNumeral => "string index out of range"
  | .notTruth word => word
  | .notMoment => "'NoneType' object has no attribute 'groupdict'"
  | .impossible cause => Text.ofString cause.message
  | .tooManyDigits count =>
      Text.concat ["Exceeds the limit (4300 digits) for integer string conversion: value has ",
        Text.ofNat count, " digits; use sys.set_int_max_str_digits() to increase the limit"]
  | .tooLarge => "int too large to convert to float"
  | .notScalar => "expected string or bytes-like object, got 'list'"
  | .tooDeep => "maximum recursion depth exceeded"

end Fault

end UriTemplate.Yaml
