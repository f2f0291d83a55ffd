/-!
Places in a YAML text.

A cursor holds the characters that have not been read, with the index, line and
column of the first of them.  Lines end at a line feed, a carriage return, both
together, or one of three other separators; a byte order mark takes up no column.
-/

namespace UriTemplate.Yaml

def isBreak (char : Char) : Bool :=
  char == '\n' || char == '\r' || char == '\x85' || char == '\u2028' || char == '\u2029'

/-- Whether a character is a space, a tab, or ends a line. -/
def isBlank (char : Char) : Bool :=
  char == ' ' || char == '\t' || isBreak char

def atLineEnd (chars : List Char) : Bool :=
  chars.head?.all isBreak

/-- Whether a text is at its end or starts with a blank. -/
def atBlank (chars : List Char) : Bool :=
  chars.head?.all isBlank

/-- Whether a text is at its end or starts with a blank that is no tab. -/
def atGap (chars : List Char) : Bool :=
  chars.head?.all fun char => isBlank char && char != '\t'

/-- Whether a text starts with a marker that ends a document. -/
def atMarker : List Char → Bool
  | '-' :: '-' :: '-' :: rest => atBlank rest
  | '.' :: '.' :: '.' :: rest => atBlank rest
  | _ => false

structure Cursor where
  rest : List Char
  index : Nat
  line : Nat
  column : Nat
deriving DecidableEq, Repr

namespace Cursor

def start (text : List Char) : Cursor := ⟨text, 0, 0, 0⟩

def advance (cursor : Cursor) : Cursor :=
  match cursor.rest with
  | [] => cursor
  | char :: rest =>
      if isBreak char && (char != '\r' || rest.head? != some '\n') then
        ⟨rest, cursor.index + 1, cursor.line + 1, 0⟩
      else if char = '\uFEFF' then ⟨rest, cursor.index + 1, cursor.line, cursor.column⟩
      else ⟨rest, cursor.index + 1, cursor.line, cursor.column + 1⟩

def advanceBy (cursor : Cursor) : Nat → Cursor
  | 0 => cursor
  | count + 1 => cursor.advance.advanceBy count

/-- The characters that satisfy a test, and the place after them. -/
def span (cursor : Cursor) (test : Char → Bool) : List Char × Cursor :=
  let run := cursor.rest.takeWhile test
  (run, cursor.advanceBy run.length)

def skipSpaces (cursor : Cursor) : Cursor :=
  (cursor.span (· == ' ')).2

/-- The place at the end of the line, if a comment starts here. -/
def skipComment (cursor : Cursor) : Cursor :=
  if cursor.rest.head? = some '#' then (cursor.span fun char => !isBreak char).2 else cursor

/-- The end of a line, as the character that stands for it, and the place after it. -/
def lineBreak? (cursor : Cursor) : Option (Char × Cursor) :=
  match cursor.rest with
  | '\r' :: '\n' :: _ => some ('\n', cursor.advanceBy 2)
  | char :: _ =>
      if char = '\u2028' ∨ char = '\u2029' then some (char, cursor.advance)
      else if isBreak char then some ('\n', cursor.advance)
      else none
  | [] => none

end Cursor

/-- What stands for the end of a line followed by the ends of empty lines: a line feed alone
becomes a space, and before empty lines it is left out. -/
def fold (first : Char) (others : List Char) : List Char :=
  if first ≠ '\n' then first :: others
  else if others.isEmpty then [' ']
  else others

end UriTemplate.Yaml
