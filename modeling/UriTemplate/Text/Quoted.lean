import UriTemplate.Text.Basic
import UriTemplate.Text.Printable

/-!
Quoted texts, as they stand in messages.

A text is written between single quotes, or between double quotes if it holds a
single quote and no double quote.  The delimiter and the backslash are escaped,
and every code point that is not printable is written by number.
-/

namespace UriTemplate.Text

def hexDigit (digit : Nat) : Char :=
  if digit < 10 then Char.ofNat (0x30 + digit) else Char.ofNat (0x57 + digit)

/-- The last hexadecimal digits of a number, as many as asked for. -/
def hexDigits (number : Nat) : Nat → List Char
  | 0 => []
  | count + 1 => hexDigits (number / 16) count ++ [hexDigit (number % 16)]

/-- A code point written by number, in the shortest of the three forms. -/
def numericEscape (number : Nat) : Text :=
  if number < 0x100 then ofChars ('\\' :: 'x' :: hexDigits number 2)
  else if number < 0x10000 then ofChars ('\\' :: 'u' :: hexDigits number 4)
  else ofChars ('\\' :: 'U' :: hexDigits number 8)

/-- The written form of one code point between the given delimiters. -/
def escape (delimiter : Char) : CodePoint → Text
  | .scalar char =>
      if char = delimiter ∨ char = '\\' then ofChars ['\\', char]
      else if char = '\n' then "\\n"
      else if char = '\r' then "\\r"
      else if char = '\t' then "\\t"
      else if isPrintable char.toNat then [.scalar char]
      else numericEscape char.toNat
  | .surrogate offset => numericEscape (0xD800 + offset.val)

/-- The delimiter of the quoted form of a text. -/
def delimiter (text : Text) : Char :=
  if .scalar '\'' ∈ text ∧ .scalar '"' ∉ text then '"' else '\''

def quoted (text : Text) : Text :=
  .scalar text.delimiter :: text.flatMap (escape text.delimiter) ++ [.scalar text.delimiter]

/-- A text of which every code point beyond ASCII is written by number. -/
def asciiOnly (text : Text) : Text :=
  text.flatMap fun point => if point.toNat < 128 then [point] else numericEscape point.toNat

end UriTemplate.Text
