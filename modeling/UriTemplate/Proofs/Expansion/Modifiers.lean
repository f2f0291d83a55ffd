import UriTemplate.Proofs.Expansion.Spreading
import UriTemplate.Proofs.Percent.Encoding

/-!
What modifiers do to a fragment.

A length truncates a text before it is encoded and does nothing else; spreading has
no effect on a text, and a length none on lists.  Since a text is encoded character
by character, what is left of a truncated text is written as a prefix of the whole,
and the prefix ends between two characters: `Expression.expandSpecs_modifier`.
-/

namespace UriTemplate

namespace Operator

theorem isAscii_lead? {operator : Operator} {char : Char} (leads : operator.lead? = some char) :
    char ≠ '%' ∧ char.toNat < 128 := by
  cases operator <;> cases leads <;> decide

theorem decode?_lead_append (operator : Operator) (allowReserved : Bool) (chars : List Char) :
    Percent.decode? (operator.lead ++ Text.ofChars (Percent.encode allowReserved chars)) =
      some (operator.lead?.toList ++ chars) := by
  apply Percent.decode?_of_octets?
  rw [lead]
  cases leads : operator.lead? with
  | none => exact Percent.octets?_encode allowReserved chars
  | some char =>
      obtain ⟨notPercent, ascii⟩ := isAscii_lead? leads
      have read := Percent.octets?_ascii notPercent ascii
        (Text.ofChars (Percent.encode allowReserved chars))
      rw [Percent.octets?_encode] at read
      exact read

/-- No percent sign stands for itself behind the lead. -/
theorem madeOf_lead_append (operator : Operator) (allowReserved : Bool) (chars : List Char) :
    MadeOf (Percent.IsUnit (· ≠ '%'))
      (operator.lead ++ Text.ofChars (Percent.encode allowReserved chars)) := by
  apply MadeOf.append
  · rw [lead]
    cases leads : operator.lead? with
    | none => exact .nil
    | some char => exact .single (.char (isAscii_lead? leads).1)
  · apply Percent.madeOf_mono _ (Percent.madeOf_encode allowReserved chars)
    intro char kept
    exact Percent.ne_percent_of_isKept kept

end Operator

namespace Streaming

variable (operator : Operator) (name : Text) (length : MaxLength)

theorem pieces_truncate_text (chars : List Char) :
    pieces operator ⟨name, .truncate length⟩ (.text chars) =
      pieces operator ⟨name, .plain⟩ (.text (chars.take length.count)) := rfl

theorem pieces_explode_text (chars : List Char) :
    pieces operator ⟨name, .explode⟩ (.text chars) =
      pieces operator ⟨name, .plain⟩ (.text chars) := rfl

theorem pieces_truncate_of_text?_eq_none {value : Value} (composite : value.text? = none) :
    pieces operator ⟨name, .truncate length⟩ value = pieces operator ⟨name, .plain⟩ value := by
  cases value with
  | text chars => contradiction
  | list items => rfl
  | assoc entries => rfl

end Streaming

namespace Expression

open Streaming

section

variable (operator : Operator) {environment : Environment} {name : Text}

/-- A variable may be replaced, wherever it stands, by one that writes the same pieces. -/
theorem expandSpecs_replace {modifier other : Modifier} {value : Value}
    (bound : environment name = some value)
    (same : pieces operator ⟨name, modifier⟩ value = pieces operator ⟨name, other⟩ value)
    (earlier later : List VarSpec) :
    expandSpecs operator environment (earlier ++ ⟨name, modifier⟩ :: later) =
      expandSpecs operator environment (earlier ++ ⟨name, other⟩ :: later) := by
  have samePieces : piecesIn operator environment ⟨name, modifier⟩ =
      piecesIn operator environment ⟨name, other⟩ := by
    simp only [piecesIn, bound, same]
  simp only [expandSpecs_eq, List.flatMap_append, List.flatMap_cons, samePieces]

theorem expandSpecs_text_of_unnamed (unnamed : operator.isNamed = false) {chars : List Char}
    (bound : environment name = some (.text chars)) :
    expandSpecs operator environment [⟨name, .plain⟩] =
      operator.lead ++ encode operator chars := by
  have notParameter : operator ≠ .parameter := by
    rintro rfl
    contradiction
  rw [expandSpecs_text operator bound, asText, fragment_eq]
  simp [pieces, truncate, notParameter, withName, unnamed]

theorem expandSpecs_truncate {shortened : Environment} {chars : List Char} {length : MaxLength}
    (bound : environment name = some (.text chars))
    (boundShort : shortened name = some (.text (chars.take length.count))) :
    expandSpecs operator environment [⟨name, .truncate length⟩] =
      expandSpecs operator shortened [⟨name, .plain⟩] := by
  rw [expandSpecs_singleton operator _ bound rfl, expandSpecs_singleton operator _ boundShort rfl,
    pieces_truncate_text]

end

/-- A length keeps the first characters of a text, as if only these had been bound to the name.
Without names, this is a prefix that is complete in itself: both digits follow each percent sign,
and the octets are those of the characters that are kept.  Spreading a text does nothing, nor does
a length for a list or an associative list. -/
theorem expandSpecs_modifier (operator : Operator) (environment : Environment) (name : Text) :
    (∀ chars (length : MaxLength), environment name = some (.text chars) →
      (∀ shortened : Environment, shortened name = some (.text (chars.take length.count)) →
        expandSpecs operator environment [⟨name, .truncate length⟩] =
          expandSpecs operator shortened [⟨name, .plain⟩]) ∧
      (operator.isNamed = false →
        let written := expandSpecs operator environment [⟨name, .truncate length⟩]
        (∃ rest, expandSpecs operator environment [⟨name, .plain⟩] = written ++ rest ∧
          Percent.decode? rest = some (chars.drop length.count)) ∧
        Percent.decode? written =
          some (operator.lead?.toList ++ chars.take length.count) ∧
        ∀ before after, written = before ++ .scalar '%' :: after →
          ∃ high low later, after = .scalar high :: .scalar low :: later ∧
            Grammar.IsHexDigit high ∧ Grammar.IsHexDigit low)) ∧
    (∀ chars earlier later, environment name = some (.text chars) →
      expandSpecs operator environment (earlier ++ ⟨name, .explode⟩ :: later) =
        expandSpecs operator environment (earlier ++ ⟨name, .plain⟩ :: later)) ∧
    ∀ value (length : MaxLength) earlier later, environment name = some value →
      value.text? = none →
      expandSpecs operator environment (earlier ++ ⟨name, .truncate length⟩ :: later) =
        expandSpecs operator environment (earlier ++ ⟨name, .plain⟩ :: later) := by
  refine ⟨?_, ?_, ?_⟩
  · intro chars length bound
    refine ⟨fun shortened => expandSpecs_truncate operator bound, ?_⟩
    intro unnamed written
    let shortened : Environment := fun _ => some (.text (chars.take length.count))
    have boundShort : shortened name = some (.text (chars.take length.count)) := rfl
    have writes : written = operator.lead ++ encode operator (chars.take length.count) :=
      (expandSpecs_truncate operator bound boundShort).trans
        (expandSpecs_text_of_unnamed operator unnamed boundShort)
    refine ⟨⟨encode operator (chars.drop length.count), ?_, ?_⟩, ?_, ?_⟩
    · rw [expandSpecs_text_of_unnamed operator unnamed bound, writes, List.append_assoc, encode,
        encode, encode, ← Text.ofChars_append, ← Percent.encode_append, List.take_append_drop]
    · exact Percent.decode?_encode operator.allowsReserved _
    · rw [writes]
      exact operator.decode?_lead_append _ _
    · intro before after split
      have made := operator.madeOf_lead_append operator.allowsReserved
        (chars.take length.count)
      exact Percent.digits_after_percent (by simp) made (writes ▸ split)
  · intro chars earlier later bound
    exact expandSpecs_replace operator bound (pieces_explode_text operator name chars) earlier
      later
  · intro value length earlier later bound composite
    exact expandSpecs_replace operator bound
      (pieces_truncate_of_text?_eq_none operator name length composite) earlier later

/-- Two characters are kept and not two octets, nor a part of a percent triplet. -/
theorem expandSpecs_modifier_accent :
    let environment := Bindings.environment
      [("x", .text ['é', '%', 'x']), ("keys", .list [['a'], ['b']])]
    let shortened := Bindings.environment [("x", .text ['é', '%'])]
    let two : MaxLength := ⟨2, by decide, by decide⟩
    expandSpecs .fragment environment [⟨"x", .truncate two⟩] = "#%C3%A9%25" ∧
      expandSpecs .fragment shortened [⟨"x", .plain⟩] = "#%C3%A9%25" ∧
      (∃ rest, expandSpecs .fragment environment [⟨"x", .plain⟩] = "#%C3%A9%25" ++ rest ∧
        Percent.decode? rest = some ['x']) ∧
      Percent.decode? "#%C3%A9%25" = some ['#', 'é', '%'] ∧
      expandSpecs .query environment [⟨"x", .explode⟩, ⟨"keys", .truncate two⟩] =
        "?x=%C3%A9%25x&keys=a,b" := by
  intro environment shortened two
  have boundText : environment "x" = some (.text ['é', '%', 'x']) := by rfl
  have boundList : environment "keys" = some (.list [['a'], ['b']]) := by rfl
  have boundShort : shortened "x" = some (.text ['é', '%']) := by rfl
  have written : expandSpecs .fragment environment [⟨"x", .truncate two⟩] = "#%C3%A9%25" := by rfl
  obtain ⟨truncates, _, _⟩ := expandSpecs_modifier .fragment environment "x"
  obtain ⟨_, explodes, _⟩ := expandSpecs_modifier .query environment "x"
  obtain ⟨_, _, keeps⟩ := expandSpecs_modifier .query environment "keys"
  obtain ⟨same, complete⟩ := truncates ['é', '%', 'x'] two boundText
  obtain ⟨isPart, read, _⟩ := complete (by decide)
  rw [written] at same isPart read
  refine ⟨written, (same shortened boundShort).symm, isPart, read, ?_⟩
  calc expandSpecs .query environment [⟨"x", .explode⟩, ⟨"keys", .truncate two⟩]
      = expandSpecs .query environment [⟨"x", .plain⟩, ⟨"keys", .truncate two⟩] :=
        explodes ['é', '%', 'x'] [] _ boundText
    _ = expandSpecs .query environment [⟨"x", .plain⟩, ⟨"keys", .plain⟩] :=
        keeps _ two [⟨"x", .plain⟩] [] boundList (by rfl)
    _ = "?x=%C3%A9%25x&keys=a,b" := by rfl

end Expression

end UriTemplate
