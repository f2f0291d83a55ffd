import UriTemplate.Numeral.Reading
import UriTemplate.Yaml.Block
import UriTemplate.Yaml.Token

/-!
Names in a YAML text: anchors, tags and directives.

A tag is written in full between angle brackets, or as a handle and a suffix.
Suffixes consist of the characters of URIs, among which octets may be written as
percent-encoded triplets that together give UTF-8.
-/

namespace UriTemplate.Yaml

/-- Whether a character can stand in the name of an anchor, a handle or a directive. -/
def isWordChar (char : Char) : Bool :=
  char.isAlphanum || char == '-' || char == '_'

/-- The characters that may follow the name of an anchor, blanks apart. -/
def isAfterName (char : Char) : Bool :=
  "?:,]\x7d%@`".toList.contains char

def readName (cursor : Cursor) : Except Fault (List Char × Cursor) :=
  let (name, after) := cursor.span isWordChar
  if name.isEmpty then .error .malformed
  else if after.rest.head?.all fun char => isBlank char || isAfterName char then
    .ok (name, after)
  else
    .error .malformed

namespace WrittenTag

/-- Whether a character can stand in a suffix. -/
def isUriChar (char : Char) : Bool :=
  char.isAlphanum || "-;/?:@&=+$,_.!~*'()[]%".toList.contains char

/-- The octets of the triplets at the start of a text, and the number of the triplets. -/
def triplets : List Char → Except Fault (List UInt8 × Nat)
  | '%' :: high :: low :: rest =>
      match Numeral.digits? 16 (Text.ofChars [high, low]) with
      | some number =>
          if high.isAlphanum && low.isAlphanum then do
            let (octets, count) ← triplets rest
            return (UInt8.ofNat number :: octets, count + 1)
          else
            .error .malformed
      | none => .error .malformed
  | '%' :: _ => .error .malformed
  | _ => .ok ([], 0)

def decode (octets : List UInt8) : Except Fault (List Char) :=
  match String.fromUTF8? (ByteArray.mk octets.toArray) with
  | some string => .ok string.toList
  | none => .error .malformed

/-- The characters of a suffix, which may be none, and the place after them. -/
def uriChars : Nat → Cursor → Except Fault (List Char × Cursor)
  | 0, cursor => .ok ([], cursor)
  | limit + 1, cursor =>
      match cursor.rest with
      | [] => .ok ([], cursor)
      | char :: _ =>
          if char = '%' then do
            let (octets, count) ← triplets cursor.rest
            let chars ← decode octets
            let (others, last) ← uriChars limit (cursor.advanceBy (3 * count))
            return (chars ++ others, last)
          else if isUriChar char then do
            let (others, last) ← uriChars limit cursor.advance
            return (char :: others, last)
          else
            .ok ([], cursor)

def uri (cursor : Cursor) : Except Fault (List Char × Cursor) := do
  let (chars, after) ← uriChars cursor.rest.length cursor
  if after.index = cursor.index then throw .malformed
  return (chars, after)

/-- A handle: an exclamation mark, or a word between two of them. -/
def readHandleName (cursor : Cursor) : Except Fault (List Char × Cursor) :=
  match cursor.rest with
  | '!' :: ' ' :: _ => .ok (['!'], cursor.advance)
  | '!' :: rest =>
      let word := rest.takeWhile isWordChar
      if (rest.drop word.length).head? = some '!' then
        .ok ('!' :: word ++ ['!'], cursor.advanceBy (word.length + 2))
      else
        .error .malformed
  | _ => .error .malformed

/-- Whether a second exclamation mark comes before the next blank; a tab does not count. -/
def hasHandle (rest : List Char) : Bool :=
  (rest.takeWhile fun char => char == '\t' || !isBlank char).contains '!'

def read (cursor : Cursor) : Except Fault (WrittenTag × Cursor) := do
  let rest := cursor.rest.drop 1
  let (written, after) ←
    if rest.head? = some '<' then do
      let (suffix, after) ← uri (cursor.advanceBy 2)
      if after.rest.head? = some '>' then pure (⟨none, suffix⟩, after.advance)
      else throw Fault.malformed
    else if atBlank rest then pure (⟨none, ['!']⟩, cursor.advance)
    else if hasHandle rest then do
      let (name, afterName) ← readHandleName cursor
      let (suffix, after) ← uri afterName
      pure (⟨some name, suffix⟩, after)
    else do
      let (suffix, after) ← uri cursor.advance
      pure (⟨some ['!'], suffix⟩, after)
  if atGap after.rest then return (written, after)
  throw .malformed

end WrittenTag

namespace Directive

def number (cursor : Cursor) : Except Fault (Nat × Cursor) :=
  let (digits, after) := cursor.span Char.isDigit
  match Numeral.digits? 10 (Text.ofChars digits) with
  | none => .error .malformed
  | some value =>
      if 4300 < digits.length then .error (.tooManyDigits digits.length) else .ok (value, after)

/-- A version: two numbers with a point between them. -/
def readVersion (cursor : Cursor) : Except Fault (Directive × Cursor) := do
  let (major, afterMajor) ← number cursor.skipSpaces
  if afterMajor.rest.head? ≠ some '.' then throw .malformed
  let (_, after) ← number afterMajor.advance
  if atGap after.rest then return (.version major, after)
  throw .malformed

/-- A handle and what it stands for. -/
def readHandle (cursor : Cursor) : Except Fault (Directive × Cursor) := do
  let (name, afterName) ← WrittenTag.readHandleName cursor.skipSpaces
  if afterName.rest.head? ≠ some ' ' then throw .malformed
  let (expansion, after) ← WrittenTag.uri afterName.skipSpaces
  if atGap after.rest then return (.handle name expansion, after)
  throw .malformed

def read (cursor : Cursor) : Except Fault (Directive × Cursor) := do
  let (name, afterName) := cursor.advance.span isWordChar
  if name.isEmpty || !atGap afterName.rest then throw .malformed
  let (directive, after) ←
    if name = ['Y', 'A', 'M', 'L'] then readVersion afterName
    else if name = ['T', 'A', 'G'] then readHandle afterName
    else pure (.other, (afterName.span fun char => !isBreak char).2)
  return (directive, ← Block.nextLine after)

end Directive

end UriTemplate.Yaml
