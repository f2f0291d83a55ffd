import UriTemplate.Log.Layout

/-!
The lines of records.

Not every layout suits every record.  One suits if all of its fields have names, and
each of these is the name of a field whose content suits the directive behind it; then
the record becomes a line.  The usual layout suits every record (`write?_standard`).
For a record that does not become a line there is a report, so that something is
written for each (`entry_ne_nil`).
-/

namespace UriTemplate.Log.Layout

/-- What a piece becomes if it is a character or a field with a name. -/
def Piece.text? (fields : List (Text × FieldContent)) : Piece → Option Text
  | .plain point => some [point]
  | .field name directive => do directive.write? (← List.lookup (← name) fields)

/-- A field suits if it has the name of one of the given fields, the content of which suits its
directive. -/
def Piece.Suits (fields : List (Text × FieldContent)) : Piece → Prop
  | .plain _ => True
  | .field name directive => ∃ label content, name = some label ∧
      List.lookup label fields = some content ∧ (directive.write? content).isSome

@[simp]
theorem Piece.text?_plain (fields : List (Text × FieldContent)) (point : CodePoint) :
    (Piece.plain point).text? fields = some [point] := rfl

theorem Piece.text?_eq_some {fields : List (Text × FieldContent)} {piece : Piece}
    (suits : piece.Suits fields) : ∃ text, piece.text? fields = some text := by
  cases piece with
  | plain point => exact ⟨_, rfl⟩
  | field name directive =>
      obtain ⟨label, content, rfl, found, writes⟩ := suits
      obtain ⟨text, written⟩ := Option.isSome_iff_exists.mp writes
      exact ⟨text, by simp [text?, found, written]⟩

theorem Piece.exists_texts {fields : List (Text × FieldContent)} {pieces : List Piece}
    (suit : ∀ piece ∈ pieces, piece.Suits fields) :
    ∃ texts, pieces.mapM (Piece.text? fields) = some texts := by
  induction pieces with
  | nil => exact ⟨[], rfl⟩
  | cons piece rest inductionHypothesis =>
      rw [List.forall_mem_cons] at suit
      obtain ⟨text, first⟩ := text?_eq_some suit.1
      obtain ⟨others, later⟩ := inductionHypothesis suit.2
      exact ⟨text :: others, by simp [List.mapM_cons, first, later]⟩

theorem fill?_of_text? {fields : List (Text × FieldContent)} {pieces : List Piece}
    {texts : List Text} (become : pieces.mapM (Piece.text? fields) = some texts)
    (unnamed : Option FieldContent) : fill? fields unnamed pieces = some texts.flatten := by
  induction pieces generalizing texts unnamed with
  | nil =>
      cases become
      rfl
  | cons piece rest inductionHypothesis =>
      rw [List.mapM_cons] at become
      obtain ⟨text, first, become⟩ := Option.bind_eq_some_iff.mp become
      obtain ⟨others, later, same⟩ := Option.bind_eq_some_iff.mp become
      cases same
      cases piece with
      | plain point =>
          cases first
          rw [fill?, inductionHypothesis later]
          rfl
      | field name directive =>
          obtain ⟨label, rfl, named⟩ := Option.bind_eq_some_iff.mp first
          obtain ⟨content, found, written⟩ := Option.bind_eq_some_iff.mp named
          simp [fill?, found, written, inductionHypothesis later]

variable {surroundings : Surroundings} {record : Record} {layout : Text}

theorem write?_of_text? {pieces : List Piece} {texts : List Text}
    (read : pieces? layout.length layout = some pieces)
    (become : pieces.mapM (Piece.text? (fieldsOf surroundings record layout)) = some texts) :
    write? surroundings record layout = some texts.flatten := by
  rw [write?, read]
  exact fill?_of_text? become _

/-- A record becomes a line if all pieces of the layout suit it. -/
theorem write?_of_suits {pieces : List Piece}
    (read : pieces? layout.length layout = some pieces)
    (suit : ∀ piece ∈ pieces, piece.Suits (fieldsOf surroundings record layout)) :
    ∃ line, write? surroundings record layout = some line := by
  obtain ⟨texts, become⟩ := Piece.exists_texts suit
  exact ⟨texts.flatten, write?_of_text? read become⟩

theorem entry_of_write? {line : Text} (written : write? surroundings record layout = some line) :
    entry surroundings layout record = line ++ [.scalar '\n'] := by
  rw [entry, written]

theorem entry_of_write?_eq_none (unwritten : write? surroundings record layout = none) :
    entry surroundings layout record = record.report surroundings := by
  rw [entry, unwritten]

theorem entry_ne_nil : entry surroundings layout record ≠ [] := by
  cases written : write? surroundings record layout with
  | some line =>
      rw [entry_of_write? written]
      exact List.append_ne_nil_of_right_ne_nil _ (List.cons_ne_nil _ _)
  | none =>
      rw [entry_of_write?_eq_none written]
      exact List.append_ne_nil_of_left_ne_nil (by decide +kernel) _

/-! ## The usual layout -/

/-- A directive for a content as it stands alone. -/
def bare : Directive := ⟨[], 0, none, 's'⟩

theorem write?_bare (content : FieldContent) :
    bare.write? content = some (Directive.bare content) := by
  simp [bare, Directive.write?, Directive.writeText, Directive.pad, Directive.has]

def bareField (name : Text) : Piece := .field (some name) bare

theorem text?_bareField {fields : List (Text × FieldContent)} {name : Text}
    {content : FieldContent} (found : List.lookup name fields = some content) :
    (bareField name).text? fields = some (Directive.bare content) := by
  simp [bareField, Piece.text?, found, write?_bare]

def dash : List Piece := [.plain (.scalar ' '), .plain (.scalar '-'), .plain (.scalar ' ')]

theorem pieces?_standard :
    pieces? standard.length standard =
      some (bareField "asctime" :: dash ++ bareField "name" :: dash ++
        bareField "levelname" :: dash ++ [bareField "message"]) := by
  decide +kernel

theorem write?_standard (surroundings : Surroundings) (record : Record) :
    write? surroundings record standard =
      some (Text.concat [surroundings.time, " - ", record.logger, " - ", levelName record.level,
        " - ", record.message]) := by
  have timed : asksForTime standard = true := by decide +kernel
  have time : List.lookup (Text.ofString "asctime") (record.fields surroundings true) =
      some (.text surroundings.time) := rfl
  have logger : List.lookup (Text.ofString "name") (record.fields surroundings true) =
      some (.text record.logger) := rfl
  have level : List.lookup (Text.ofString "levelname") (record.fields surroundings true) =
      some (.text (levelName record.level)) := rfl
  have message : List.lookup (Text.ofString "message") (record.fields surroundings true) =
      some (.text record.message) := rfl
  let blank : Text := [.scalar ' ']
  let between : List Text := [blank, [.scalar '-'], blank]
  have become : (bareField "asctime" :: dash ++ bareField "name" :: dash ++
      bareField "levelname" :: dash ++ [bareField "message"]).mapM
        (Piece.text? (fieldsOf surroundings record standard)) =
      some (surroundings.time :: between ++ record.logger :: between ++
        levelName record.level :: between ++ [record.message]) := by
    rw [fieldsOf, timed]
    simp [dash, between, blank, text?_bareField time, text?_bareField logger,
      text?_bareField level, text?_bareField message, Directive.bare]
  exact (write?_of_text? pieces?_standard become).trans rfl

end UriTemplate.Log.Layout
