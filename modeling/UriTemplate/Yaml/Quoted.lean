import UriTemplate.Numeral.Reading
import UriTemplate.Yaml.Cursor
import UriTemplate.Yaml.Fault

/-!
Quoted scalars.

Between single quotes only a doubled quote is special.  Between double quotes a
backslash starts an escape sequence, which may give a code point by number or hide
the end of a line.  In both, the ends of lines are folded together with the blanks
around them, and a marker at the start of a line is an error.
-/

namespace UriTemplate.Yaml.Quoted

/-- What a backslash and one character stand for. -/
def escaped? (char : Char) : Option Char :=
  match char with
  | '0' => some '\x00'
  | 'a' => some '\x07'
  | 'b' => some '\x08'
  | 't' => some '\t'
  | '\t' => some '\t'
  | 'n' => some '\n'
  | 'v' => some '\x0b'
  | 'f' => some '\x0c'
  | 'r' => some '\r'
  | 'e' => some '\x1b'
  | ' ' => some ' '
  | '"' => some '"'
  | '\\' => some '\\'
  | '/' => some '/'
  | 'N' => some '\x85'
  | '_' => some '\xa0'
  | 'L' => some '\u2028'
  | 'P' => some '\u2029'
  | _ => none

/-- The number of hexadecimal digits after a backslash and a letter. -/
def escapeWidth? (char : Char) : Option Nat :=
  match char with
  | 'x' => some 2
  | 'u' => some 4
  | 'U' => some 8
  | _ => none

def isHexDigit (char : Char) : Bool :=
  char.isDigit || ('a' ≤ char && char ≤ 'f') || ('A' ≤ char && char ≤ 'F')

def numbered (digits : List Char) : Except Fault CodePoint :=
  match (Numeral.digits? 16 (Text.ofChars digits)).map fun number =>
      (number, CodePoint.ofNat? number) with
  | some (_, some point) => .ok point
  | some (number, none) => .error (.noCodePoint number)
  | none => .error .malformed

/-- The ends of empty lines, and the place after them. -/
def emptyLines : Nat → Cursor → Except Fault (List Char × Cursor)
  | 0, cursor => .ok ([], cursor)
  | limit + 1, cursor =>
      if atMarker cursor.rest then .error .malformed
      else
        let indented := (cursor.span fun char => char == ' ' || char == '\t').2
        match indented.lineBreak? with
        | none => .ok ([], indented)
        | some (char, after) => do
            let (others, last) ← emptyLines limit after
            return (char :: others, last)

/-- What the escape sequence after a backslash stands for. -/
def escape (cursor : Cursor) : Except Fault (Text × Cursor) :=
  match cursor.rest with
  | [] => .error .malformed
  | char :: rest =>
      match escaped? char, escapeWidth? char with
      | some plain, _ => .ok ([.scalar plain], cursor.advance)
      | none, some width =>
          let digits := rest.take width
          if digits.length = width ∧ digits.all isHexDigit then do
            return ([← numbered digits], cursor.advanceBy (width + 1))
          else
            .error .malformed
      | none, none =>
          match cursor.lineBreak? with
          | none => .error .malformed
          | some (_, after) => do
              let (others, last) ← emptyLines (after.rest.length + 1) after
              return (Text.ofChars others, last)

/-- The characters up to the next blank, the closing quote or the end. -/
def solid (quote : Char) : Nat → Cursor → Except Fault (Text × Cursor)
  | 0, cursor => .ok ([], cursor)
  | limit + 1, cursor =>
      match cursor.rest with
      | [] => .ok ([], cursor)
      | char :: rest =>
          if isBlank char then .ok ([], cursor)
          else if char = quote then
            if quote = '\'' ∧ rest.head? = some '\'' then do
              let (others, last) ← solid quote limit (cursor.advanceBy 2)
              return (.scalar '\'' :: others, last)
            else
              .ok ([], cursor)
          else if quote = '"' ∧ char = '\\' then do
            let (written, after) ← escape cursor.advance
            let (others, last) ← solid quote limit after
            return (written ++ others, last)
          else do
            let (others, last) ← solid quote limit cursor.advance
            return (.scalar char :: others, last)

/-- What the blanks at a cursor add to the scalar. -/
def gap (cursor : Cursor) : Except Fault (List Char × Cursor) := do
  let (blanks, next) := cursor.span fun char => char == ' ' || char == '\t'
  if next.rest.isEmpty then throw .malformed
  match next.lineBreak? with
  | none => return (blanks, next)
  | some (char, after) =>
      let (others, last) ← emptyLines (after.rest.length + 1) after
      return (fold char others, last)

/-- The scalar up to its closing quote, and the place after the quote. -/
def content (quote : Char) : Nat → Cursor → Except Fault (Text × Cursor)
  | 0, _ => .error .malformed
  | limit + 1, cursor => do
      let (text, after) ← solid quote cursor.rest.length cursor
      if after.rest.head? = some quote then return (text, after.advance)
      else
        let (between, next) ← gap after
        let (others, last) ← content quote limit next
        return (text ++ Text.ofChars between ++ others, last)

def read (quote : Char) (cursor : Cursor) : Except Fault (Text × Cursor) :=
  content quote (cursor.rest.length + 1) cursor.advance

end UriTemplate.Yaml.Quoted
