import UriTemplate.Text.Basic

/-!
Percent-encoding of characters.

Unreserved characters stand for themselves; reserved characters do so only where
they are allowed.  Every other character becomes the octets of its UTF-8 form,
each written as a percent sign and two upper-case hexadecimal digits.
-/

namespace UriTemplate.Percent

/-- The characters that never need encoding. -/
def isUnreserved (char : Char) : Bool :=
  char.isAlphanum || char == '-' || char == '.' || char == '_' || char == '~'

/-- The characters that delimit the parts of a URI. -/
def reserved : List Char :=
  [':', '/', '?', '#', '[', ']', '@', '!', '$', '&', '\'', '(', ')', '*', '+', ',', ';', '=']

/-- The characters that stand for themselves. -/
def isKept (allowReserved : Bool) (char : Char) : Bool :=
  isUnreserved char || (allowReserved && reserved.contains char)

def hexDigit (digit : Nat) : Char :=
  if digit < 10 then Char.ofNat (0x30 + digit) else Char.ofNat (0x37 + digit)

/-- An octet as a percent sign and two digits. -/
def triplet (octet : UInt8) : List Char :=
  ['%', hexDigit (octet.toNat / 16), hexDigit (octet.toNat % 16)]

def encodeChar (allowReserved : Bool) (char : Char) : List Char :=
  if isKept allowReserved char then [char]
  else (String.utf8EncodeChar char).flatMap triplet

def encode (allowReserved : Bool) (chars : List Char) : List Char :=
  chars.flatMap (encodeChar allowReserved)

/-- Why a text has no encoded form: its first maximal run of surrogates. -/
structure SurrogateRun where
  first : CodePoint
  start : Nat
  length : Nat
deriving DecidableEq, Repr

/-- The encoded form of a text, if it has one. -/
def encodeText (allowReserved : Bool) (text : Text) : Except SurrogateRun Text :=
  match text.scalars? with
  | some chars => .ok (Text.ofChars (encode allowReserved chars))
  | none =>
      let (start, length) := text.surrogateRun?.getD (0, 0)
      .error ⟨(text.drop start).headD default, start, length⟩

end UriTemplate.Percent
