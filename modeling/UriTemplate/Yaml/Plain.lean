import UriTemplate.Yaml.Cursor

/-!
Plain scalars.

A plain scalar consists of words with gaps between them.  It ends before a colon
that is followed by a blank, before a comment, at a tab, and on a line that is
indented too little; in a flow collection it also ends before the characters that
structure the collection.
-/

namespace UriTemplate.Yaml.Plain

/-- The characters that structure a flow collection. -/
def isFlowMark (char : Char) : Bool :=
  char == ',' || char == '[' || char == ']' || char == '\x7b' || char == '\x7d'

/-- Whether a colon before the given text ends a word. -/
def endsKey (inFlow : Bool) (after : List Char) : Bool :=
  atBlank after || (inFlow && after.head?.any isFlowMark)

def word (inFlow : Bool) : List Char → List Char
  | [] => []
  | char :: rest =>
      if isBlank char || (char == ':' && endsKey inFlow rest) ||
          (inFlow && (isFlowMark char || char == '?')) then []
      else char :: word inFlow rest

/-- The ends of empty lines, and the place after them; none if a marker follows one. -/
def emptyLines : Nat → Cursor → Option (List Char) × Cursor
  | 0, cursor => (some [], cursor)
  | limit + 1, cursor =>
      let indented := cursor.skipSpaces
      match indented.lineBreak? with
      | none => (some [], indented)
      | some (char, after) =>
          if atMarker after.rest then (none, after)
          else
            let (others, last) := emptyLines limit after
            (others.map (char :: ·), last)

/-- A part of a scalar that has been read. -/
structure Piece where
  /-- What the part adds to the scalar. -/
  content : List Char
  /-- Whether the part ends on another line than its last character. -/
  endsLine : Bool
  after : Cursor

/-- What stands between two words; its content is empty where the scalar ends. -/
def gap (cursor : Cursor) : Piece :=
  let (spaces, next) := cursor.span (· == ' ')
  match next.lineBreak? with
  | none => ⟨spaces, false, next⟩
  | some (char, after) =>
      if atMarker after.rest then ⟨[], true, after⟩
      else
        let (others, last) := emptyLines after.rest.length after
        ⟨(others.map (fold char)).getD [], true, last⟩

/-- The words of a scalar after a gap, which belongs to the scalar only if a word follows. -/
def words (inFlow : Bool) (indent : Nat) : Nat → Piece → Piece
  | 0, before => { before with content := [] }
  | limit + 1, before =>
      let cursor := before.after
      let run := word inFlow cursor.rest
      if run.isEmpty || cursor.rest.head? == some '#' then { before with content := [] }
      else
        let between := gap (cursor.advanceBy run.length)
        let isLast := between.content.isEmpty || (!inFlow && between.after.column < indent)
        let others :=
          if isLast then { between with content := [] } else words inFlow indent limit between
        { others with content := before.content ++ run ++ others.content }

def read (inFlow : Bool) (indent : Nat) (cursor : Cursor) : Piece :=
  words inFlow indent (cursor.rest.length + 1) ⟨[], false, cursor⟩

end UriTemplate.Yaml.Plain
