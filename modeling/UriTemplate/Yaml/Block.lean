import UriTemplate.Yaml.Cursor
import UriTemplate.Yaml.Fault

/-!
Block scalars.

The header of a block scalar says whether lines are kept or folded, what happens
to the line ends after the last line, and possibly how far the lines are indented.
Without that, the most indented line up to the first that is not empty decides.
-/

namespace UriTemplate.Yaml.Block

/-- What happens to the line ends after the last line. -/
inductive Chomping where
  | clip
  | strip
  | keep
deriving DecidableEq, Repr

/-- The line ends that are kept, given the end of the last line and those of the empty lines
after it. -/
def Chomping.tail (last : List Char) (empty : List Char) : Chomping → List Char
  | .clip => last
  | .strip => []
  | .keep => last ++ empty

/-- The chomping indicator at a cursor. -/
def chomping? (cursor : Cursor) : Option Chomping × Cursor :=
  match cursor.rest with
  | '+' :: _ => (some .keep, cursor.advance)
  | '-' :: _ => (some .strip, cursor.advance)
  | _ => (none, cursor)

/-- The indentation indicator at a cursor. -/
def increment? (cursor : Cursor) : Except Fault (Option Nat × Cursor) :=
  match cursor.rest with
  | char :: _ =>
      if char = '0' then .error .malformed
      else if char.isDigit then .ok (some (char.toNat - 0x30), cursor.advance)
      else .ok (none, cursor)
  | [] => .ok (none, cursor)

/-- The place on the line after a header or a directive, which may end with a comment. -/
def nextLine (cursor : Cursor) : Except Fault Cursor :=
  let last := cursor.skipSpaces.skipComment
  if atLineEnd last.rest then .ok ((last.lineBreak?.map Prod.snd).getD last)
  else .error .malformed

/-- The indicators of a header, in either order. -/
def header (cursor : Cursor) : Except Fault (Chomping × Option Nat × Cursor) := do
  let (early, afterEarly) := chomping? cursor
  let (increment, afterIncrement) ← increment? afterEarly
  let (late, last) :=
    if early.isNone && increment.isSome then chomping? afterIncrement else (none, afterIncrement)
  if atGap last.rest then
    return ((early.or late).getD .clip, increment, ← nextLine last)
  else
    throw .malformed

/-- The ends of the empty lines at the start, the largest indentation among them and the line
after them, and the place in that line after its spaces. -/
def leadingLines : Nat → Nat → Cursor → List Char × Nat × Cursor
  | 0, deepest, cursor => ([], deepest, cursor)
  | limit + 1, deepest, cursor =>
      let indented := cursor.skipSpaces
      let deepest := max deepest indented.column
      match indented.lineBreak? with
      | none => ([], deepest, indented)
      | some (char, after) =>
          let (others, found, last) := leadingLines limit deepest after
          (char :: others, found, last)

/-- The place after the spaces that belong to the indentation. -/
def skipIndent (indent : Nat) (cursor : Cursor) : Cursor :=
  let spaces := (cursor.rest.takeWhile (· == ' ')).length
  cursor.advanceBy (min spaces (indent - cursor.column))

/-- The ends of empty lines, and the place after the indentation of the next line. -/
def emptyLines (indent : Nat) : Nat → Cursor → List Char × Cursor
  | 0, cursor => ([], cursor)
  | limit + 1, cursor =>
      let indented := skipIndent indent cursor
      match indented.lineBreak? with
      | none => ([], indented)
      | some (char, after) =>
          let (others, last) := emptyLines indent limit after
          (char :: others, last)

/-- Whether a line starts with a character that is neither a space nor a tab. -/
def startsSolid (line : List Char) : Bool :=
  line.head?.all fun char => char != ' ' && char != '\t'

/-- What stands between two lines: in a folded scalar, the end of a line between two lines that
start solid is folded. -/
def between (folded : Bool) (line next last empty : List Char) : List Char :=
  if folded && last == ['\n'] && startsSolid line && startsSolid next then
    if empty.isEmpty then [' '] else []
  else
    last

/-- The lines of a scalar after the given ends of empty lines. -/
def lines (folded : Bool) (chomping : Chomping) (indent : Nat) :
    Nat → List Char → Cursor → List Char × Cursor
  | 0, _, cursor => ([], cursor)
  | limit + 1, empty, cursor =>
      let (line, afterLine) := cursor.span fun char => !isBreak char
      let (last, afterLast) :=
        match afterLine.lineBreak? with
        | none => ([], afterLine)
        | some (char, after) => ([char], after)
      let (following, next) := emptyLines indent (afterLast.rest.length + 1) afterLast
      if next.column = indent ∧ next.rest ≠ [] then
        let (others, after) := lines folded chomping indent limit following next
        (empty ++ line ++ between folded line next.rest last following ++ others, after)
      else
        (empty ++ line ++ chomping.tail last following, next)

/-- The block scalar whose indicator stands at a cursor, in a block of which the content is
indented at least as far as given. -/
def read (folded : Bool) (least : Nat) (cursor : Cursor) :
    Except Fault (List Char × Cursor) := do
  let (chomping, increment, start) ← header cursor.advance
  let least := max 1 least
  let (indent, empty, first) :=
    match increment with
    | some increment =>
        let indent := least + increment - 1
        let (empty, first) := emptyLines indent (start.rest.length + 1) start
        (indent, empty, first)
    | none =>
        let (empty, deepest, first) := leadingLines (start.rest.length + 1) 0 start
        (max least deepest, empty, first)
  if first.column = indent ∧ first.rest ≠ [] then
    return lines folded chomping indent (first.rest.length + 1) empty first
  else
    return (chomping.tail [] empty, first)

end UriTemplate.Yaml.Block
