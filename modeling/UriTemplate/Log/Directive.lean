import UriTemplate.Decimal.Places
import UriTemplate.Text.Quoted

/-!
Directives: how the content of a field is written.

A directive has flags, a width, a precision and a conversion letter.  A content is
padded with blanks up to the width; a number may be padded with zeros instead,
which then stand between its sign and its digits.
-/

namespace UriTemplate.Log

/-- What a field of a record holds; `display` is any content that is neither text nor number. -/
inductive FieldContent where
  | text (content : Text)
  | number (content : Int)
  | real (content : Binary64)
  | display (content : Text)
deriving DecidableEq, Repr

structure Directive where
  flags : List Char
  width : Nat
  precision : Option Nat
  conversion : Char
deriving DecidableEq, Repr

namespace Directive

def isFlag (char : Char) : Bool :=
  char == '#' || char == '0' || char == '+' || char == ' ' || char == '-'

/-- The number at the start of a text, zero if there is none, and the rest. -/
def number (text : Text) : Nat × Text :=
  let digits := text.takeWhile (CodePoint.satisfies Char.isDigit)
  (digits.foldl (fun value point => value * 10 + (point.toNat - 0x30)) 0,
    text.drop digits.length)

/-- The numbers that a width and a precision stay below. -/
def widthBound : Nat := 0x8000000000000000

def precisionBound : Nat := 0x80000000

/-- The number at the start of a text, and the rest, unless the number is too large. -/
def extent? (bound : Nat) (text : Text) : Option (Nat × Text) :=
  let (value, rest) := number text
  if value < bound then some (value, rest) else none

/-- The precision at the start of a text; a point alone stands for zero. -/
def precision? (text : Text) : Option (Option Nat × Text) :=
  match text with
  | .scalar '.' :: rest =>
      (extent? precisionBound rest).map fun (value, after) => (some value, after)
  | _ => some (none, text)

/-- A text without the size letter that may stand before a conversion and says nothing. -/
def dropSize (text : Text) : Text :=
  match text with
  | .scalar letter :: rest => if letter = 'h' ∨ letter = 'l' ∨ letter = 'L' then rest else text
  | _ => text

/-- The directive at the start of a text, and the rest.  A star in place of a number would use up
the content that is to be written, so it is read as a conversion, which it is not. -/
def read? (text : Text) : Option (Directive × Text) := do
  let flags := text.takeWhile (CodePoint.satisfies isFlag)
  let (width, afterWidth) ← extent? widthBound (text.drop flags.length)
  let (precision, afterPrecision) ← precision? afterWidth
  match dropSize afterPrecision with
  | .scalar conversion :: rest =>
      some (⟨flags.filterMap CodePoint.char?, width, precision, conversion⟩, rest)
  | _ => none

def has (directive : Directive) (flag : Char) : Bool :=
  directive.flags.contains flag

/-- Pads what follows a start that nothing is put before. -/
def pad (directive : Directive) (start rest : Text) (withZeros : Bool) : Text :=
  let missing := directive.width - (start.length + rest.length)
  if directive.has '-' then start ++ rest ++ List.replicate missing (.scalar ' ')
  else if withZeros then start ++ List.replicate missing (.scalar '0') ++ rest
  else List.replicate missing (.scalar ' ') ++ start ++ rest

/-- Writes a text, of which as much is taken as the precision says. -/
def writeText (directive : Directive) (content : Text) : Text :=
  directive.pad [] (content.take (directive.precision.getD content.length)) false

def signOf (directive : Directive) (isNegative : Bool) : Text :=
  if isNegative then "-"
  else if directive.has '+' then "+"
  else if directive.has ' ' then " "
  else []

def writeDigits (directive : Directive) (isNegative : Bool) (mark digits : List Char) : Text :=
  directive.pad (directive.signOf isNegative ++ Text.ofChars mark) (Text.ofChars digits)
    (directive.has '0')

/-- Writes an integer in a base, with at least as many digits as the precision says. -/
def writeInteger (directive : Directive) (base : Nat) (number : Int) : Text :=
  let digits := Nat.toDigits base number.natAbs
  let all := List.replicate (directive.precision.getD 0 - digits.length) '0' ++ digits
  let mark := if directive.has '#' && base != 10 then ['0', directive.conversion] else []
  directive.writeDigits (number < 0) mark
    (if directive.conversion = 'X' then all.map Char.toUpper else all)

/-- Writes a decimal with a fraction or an exponent. -/
def writeDecimal (directive : Directive) (isNegative : Bool) (decimal : Decimal) : Text :=
  let places := directive.precision.getD 6
  let keepsPoint := directive.has '#'
  let digits :=
    match directive.conversion.toLower with
    | 'f' => Decimal.fixedNotation keepsPoint places decimal
    | 'e' => Decimal.scientificNotation keepsPoint places decimal
    | _ => Decimal.generalNotation keepsPoint places decimal
  directive.writeDigits isNegative []
    (if directive.conversion.isUpper then digits.map Char.toUpper else digits)

/-- Writes a real number in the same way; one that is not finite is written by its name. -/
def writeReal (directive : Directive) (number : Binary64) : Text :=
  if number.isFinite then
    directive.writeDecimal number.isNegative
      (if number.significand = 0 then ⟨0, 0⟩ else Decimal.exact number)
  else
    let name := (if number.isInfinite then "inf" else "nan").toList
    directive.writeDigits (number.isInfinite && number.isNegative) []
      (if directive.conversion.isUpper then name.map Char.toUpper else name)

/-- The code point that a content denotes. -/
def codePoint? : FieldContent → Option CodePoint
  | .text [point] => some point
  | .number number => if number < 0 then none else CodePoint.ofNat? number.toNat
  | _ => none

def shown : FieldContent → Text
  | .text content => content.quoted
  | .number content => Text.ofInt content
  | .real content => Text.ofString content.written
  | .display content => content

/-- A content as it stands alone. -/
def bare : FieldContent → Text
  | .text content => content
  | content => shown content

def isWhole (letter : Char) : Bool :=
  letter == 'd' || letter == 'i' || letter == 'u'

def isReal (letter : Char) : Bool :=
  "eEfFgG".toList.contains letter

/-- Writes a content; not every conversion suits every content.  Very large integers cannot be
written as real numbers. -/
def write? (directive : Directive) (content : FieldContent) : Option Text :=
  match directive.conversion with
  | 's' => some (directive.writeText (bare content))
  | 'r' => some (directive.writeText (shown content))
  | 'a' => some (directive.writeText (Text.asciiOnly (shown content)))
  | 'c' => (codePoint? content).map fun point => directive.pad [] [point] false
  | letter =>
      match content with
      | .number number =>
          if isWhole letter then some (directive.writeInteger 10 number)
          else if letter = 'o' then some (directive.writeInteger 8 number)
          else if letter = 'x' ∨ letter = 'X' then some (directive.writeInteger 16 number)
          else if isReal letter then
            (Decimal.nearestReal? number.natAbs).map fun rounded =>
              directive.writeDecimal (number < 0) ⟨rounded, 0⟩
          else none
      | .real number =>
          if isWhole letter then number.truncated?.map (directive.writeInteger 10)
          else if isReal letter then some (directive.writeReal number)
          else none
      | _ => none

end Directive

end UriTemplate.Log
