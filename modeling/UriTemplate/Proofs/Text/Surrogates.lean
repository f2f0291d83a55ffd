import UriTemplate.Text.Basic

/-!
Texts with surrogates and texts without.

A text without surrogates is a list of characters and nothing else.  In any other
text `Text.FirstRun` finds the place that is reported: the first surrogate with
all those that follow it directly.
-/

namespace UriTemplate.Text

/-- No surrogate stands in the text, so it has a UTF-8 form. -/
def IsUnicode (text : Text) : Prop :=
  ∀ offset, CodePoint.surrogate offset ∉ text

theorem isUnicode_iff {text : Text} : text.IsUnicode ↔ ∃ chars, text = ofChars chars := by
  constructor
  · intro unicode
    induction text with
    | nil => exact ⟨[], rfl⟩
    | cons point rest inductionHypothesis =>
        obtain ⟨chars, rfl⟩ := inductionHypothesis fun offset among =>
          unicode offset (List.mem_cons_of_mem point among)
        cases point with
        | scalar char => exact ⟨char :: chars, rfl⟩
        | surrogate offset => exact absurd List.mem_cons_self (unicode offset)
  · rintro ⟨chars, rfl⟩ offset among
    obtain ⟨char, _, impossible⟩ := List.mem_map.mp among
    contradiction

theorem ofChars_append (front back : List Char) :
    ofChars (front ++ back) = ofChars front ++ ofChars back :=
  List.map_append

theorem scalars?_ofChars (chars : List Char) : scalars? (ofChars chars) = some chars := by
  induction chars with
  | nil => rfl
  | cons char rest inductionHypothesis =>
      rw [ofChars, List.map_cons, scalars?, ← ofChars, inductionHypothesis]
      rfl

theorem ofChars_injective {chars others : List Char} (same : ofChars chars = ofChars others) :
    chars = others := by
  have read := congrArg scalars? same
  rw [scalars?_ofChars, scalars?_ofChars] at read
  exact Option.some.inj read

/-- A text taken apart at its first surrogate: characters, surrogates for as long as they go on,
and the rest. -/
structure FirstRun (text : Text) where
  before : List Char
  first : Fin 2048
  others : List (Fin 2048)
  after : Text
  maximal : ∀ offset, after.head? ≠ some (.surrogate offset)
  spelled : text =
    ofChars before ++ .surrogate first :: (others.map CodePoint.surrogate ++ after)

/-- The surrogates at the start of a text can be told from the rest. -/
theorem exists_leading (text : Text) :
    ∃ (offsets : List (Fin 2048)) (after : Text),
      text = offsets.map CodePoint.surrogate ++ after ∧
        ∀ offset, after.head? ≠ some (.surrogate offset) := by
  induction text with
  | nil => exact ⟨[], [], rfl, by simp⟩
  | cons point rest inductionHypothesis =>
      cases point with
      | scalar char => exact ⟨[], .scalar char :: rest, rfl, by simp⟩
      | surrogate first =>
          obtain ⟨offsets, after, spelled, maximal⟩ := inductionHypothesis
          refine ⟨first :: offsets, after, ?_, maximal⟩
          rw [spelled]
          rfl

theorem exists_firstRun {text : Text} (notUnicode : ¬text.IsUnicode) :
    Nonempty text.FirstRun := by
  induction text with
  | nil => exact absurd (fun offset => List.not_mem_nil) notUnicode
  | cons point rest inductionHypothesis =>
      cases point with
      | surrogate first =>
          obtain ⟨others, after, spelled, maximal⟩ := exists_leading rest
          exact ⟨⟨[], first, others, after, maximal, by rw [spelled]; rfl⟩⟩
      | scalar char =>
          have restNotUnicode : ¬IsUnicode rest := by
            intro unicode
            apply notUnicode
            intro offset among
            rcases List.mem_cons.mp among with impossible | inRest
            · contradiction
            · exact unicode offset inRest
          obtain ⟨split⟩ := inductionHypothesis restNotUnicode
          refine ⟨⟨char :: split.before, split.first, split.others, split.after,
            split.maximal, ?_⟩⟩
          rw [ofChars, List.map_cons, ← ofChars, List.cons_append, ← split.spelled]

theorem leadingSurrogates_append {after : Text}
    (maximal : ∀ offset, after.head? ≠ some (.surrogate offset)) (offsets : List (Fin 2048)) :
    leadingSurrogates (offsets.map CodePoint.surrogate ++ after) = offsets.length := by
  induction offsets with
  | nil =>
      cases after with
      | nil => rfl
      | cons point rest =>
          cases point with
          | scalar char => rfl
          | surrogate offset => exact absurd rfl (maximal offset)
  | cons offset rest inductionHypothesis =>
      rw [List.map_cons, List.cons_append, leadingSurrogates, inductionHypothesis,
        List.length_cons]

namespace FirstRun

variable {text : Text}

theorem scalars?_eq_none (split : text.FirstRun) : scalars? text = none := by
  obtain ⟨before, first, others, after, _, rfl⟩ := split
  induction before with
  | nil => rfl
  | cons char rest inductionHypothesis =>
      rw [ofChars, List.map_cons, List.cons_append, scalars?, ← ofChars, inductionHypothesis]
      rfl

/-- The run that is reported is the first one. -/
theorem surrogateRun?_eq (split : text.FirstRun) :
    surrogateRun? text = some (split.before.length, split.others.length + 1) := by
  obtain ⟨before, first, others, after, maximal, rfl⟩ := split
  dsimp only
  induction before with
  | nil =>
      rw [ofChars, List.map_nil, List.nil_append, surrogateRun?,
        leadingSurrogates_append maximal]
      rfl
  | cons char rest inductionHypothesis =>
      rw [ofChars, List.map_cons, List.cons_append, surrogateRun?, ← ofChars,
        inductionHypothesis]
      rfl

theorem drop_before (split : text.FirstRun) :
    text.drop split.before.length =
      .surrogate split.first :: (split.others.map CodePoint.surrogate ++ split.after) := by
  obtain ⟨before, first, others, after, _, rfl⟩ := split
  have width : before.length = (ofChars before).length := by rw [ofChars, List.length_map]
  dsimp only
  rw [width, List.drop_left]

end FirstRun

theorem scalars?_eq_some_iff {text : Text} {chars : List Char} :
    scalars? text = some chars ↔ text = ofChars chars := by
  constructor
  · intro read
    by_cases unicode : text.IsUnicode
    · obtain ⟨others, rfl⟩ := isUnicode_iff.mp unicode
      rw [scalars?_ofChars] at read
      rw [Option.some.inj read]
    · obtain ⟨split⟩ := exists_firstRun unicode
      rw [split.scalars?_eq_none] at read
      contradiction
  · rintro rfl
    exact scalars?_ofChars chars

end UriTemplate.Text
