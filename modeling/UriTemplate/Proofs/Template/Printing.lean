import UriTemplate.Proofs.Template.Decomposition

/-!
Writing components down and reading them again.

`Component.readAll_sourceAll_iff` says which components survive: exactly the
canonical ones, and among them everything that has been read.  A canonical
component is what a single piece of a text stands for, written with the shortest
numeral where there is a length, so that the written form of canonical components
is spelled by pieces.  The other components are written in a way that reads as
something else, or as nothing at all.
-/

namespace UriTemplate

namespace Expression

/-- Whether the written form of an expression is read as the expression.  A dot at the start of
the first name would be taken for an operator if there is none. -/
structure IsCanonical (parsed : Expression) : Prop where
  named : ∀ spec ∈ parsed.specs, VarSpec.isName spec.name = true
  undotted : parsed.operator = .simple →
    ∀ spec ∈ parsed.specs.head?, spec.name.head? ≠ some (.scalar '.')

instance (parsed : Expression) : Decidable parsed.IsCanonical :=
  decidable_of_iff
    ((∀ spec ∈ parsed.specs, VarSpec.isName spec.name = true) ∧
      (parsed.operator = .simple →
        ∀ spec ∈ parsed.specs.head?, spec.name.head? ≠ some (.scalar '.')))
    ⟨fun both => ⟨both.1, both.2⟩, fun canonical => ⟨canonical.named, canonical.undotted⟩⟩

end Expression

namespace Component

def IsCanonical : Component → Prop
  | .literal run => run ≠ [] ∧ ∀ point ∈ run, point ≠ .scalar '{' ∧ point ≠ .scalar '}'
  | .expression parsed => parsed.IsCanonical

instance : DecidablePred IsCanonical
  | .literal run =>
      inferInstanceAs (Decidable (run ≠ [] ∧
        ∀ point ∈ run, point ≠ .scalar '{' ∧ point ≠ .scalar '}'))
  | .expression parsed => inferInstanceAs (Decidable parsed.IsCanonical)

/-- Whether components may be neighbours: two literals would be read as one. -/
def AreApart (component next : Component) : Prop :=
  component.isExpression = true ∨ next.isExpression = true

instance : DecidableRel AreApart := fun component next =>
  inferInstanceAs (Decidable (component.isExpression = true ∨ next.isExpression = true))

structure AreCanonical (components : List Component) : Prop where
  each : ∀ component ∈ components, component.IsCanonical
  apart : components.IsChain AreApart

instance : DecidablePred AreCanonical := fun components =>
  decidable_of_iff
    ((∀ component ∈ components, component.IsCanonical) ∧ components.IsChain AreApart)
    ⟨fun both => ⟨both.1, both.2⟩, fun canonical => ⟨canonical.each, canonical.apart⟩⟩

def sourceAll (components : List Component) : Text :=
  components.flatMap source

end Component

theorem Text.ofNat_eq_ofChars (number : Nat) :
    Text.ofNat number = Text.ofChars (Nat.toDigits 10 number) := by
  rw [Text.ofNat, Text.ofString, Nat.toString_eq_ofList_toDigits, String.toList_ofList]

namespace VarSpec

theorem digitsValue?_ofChars {chars : List Char} (digits : ∀ char ∈ chars, char.isDigit = true)
    (value : Nat) :
    digitsValue? value (Text.ofChars chars) = some (Nat.ofDigitChars 10 chars value) := by
  induction chars generalizing value with
  | nil => rfl
  | cons char rest inductionHypothesis =>
      rw [List.forall_mem_cons] at digits
      rw [Text.ofChars, List.map_cons, digitsValue?, if_pos digits.1, Nat.ofDigitChars_cons,
        Nat.mul_comm]
      exact inductionHypothesis digits.2 _

theorem maxLengthOf?_ofNat (length : MaxLength) :
    maxLengthOf? (Text.ofNat length.count) = some length := by
  have bounds : 1 ≤ (Nat.toDigits 10 length.count).length ∧
      (Nat.toDigits 10 length.count).length ≤ 4 := by
    refine ⟨Nat.length_toDigits_pos, ?_⟩
    rw [Nat.length_toDigits_le_iff (by decide) (by decide)]
    exact Nat.lt_succ_of_le length.bounded
  have digits : ∀ char ∈ Nat.toDigits 10 length.count, char.isDigit = true :=
    fun char membership => Nat.isDigit_of_mem_toDigits (by decide) (by decide) membership
  rw [maxLengthOf?, Text.ofNat_eq_ofChars, Text.ofChars, List.length_map, if_pos bounds,
    ← Text.ofChars, digitsValue?_ofChars digits, Nat.ofDigitChars_ten_toDigits, Option.bind_some,
    Grammar.maxLength_ofNat?_eq_some_iff]

end VarSpec

namespace Grammar

theorem exists_suffix (modifier : Modifier) :
    ∃ suffix : Suffix, suffix.written = modifier.source ∧ suffix.modifier = modifier := by
  cases modifier with
  | plain => exact ⟨.nothing, rfl, rfl⟩
  | explode => exact ⟨.star, rfl, rfl⟩
  | truncate length =>
      obtain ⟨numeral, written, worth⟩ :=
        maxLengthOf?_eq_some_iff.mp (VarSpec.maxLengthOf?_ofNat length)
      refine ⟨.length numeral, ?_, ?_⟩
      · rw [Suffix.written, written, Modifier.source]
      · rw [Suffix.modifier, worth]

theorem exists_variable {spec : VarSpec} (named : VarSpec.isName spec.name = true) :
    ∃ listed : Variable, listed.written = spec.source ∧ listed.spec = spec := by
  obtain ⟨suffix, written, stands⟩ := exists_suffix spec.modifier
  refine ⟨⟨spec.name, (isName_eq_true_iff spec.name).mp named, suffix⟩, ?_, ?_⟩
  · rw [Variable.written, written, VarSpec.source]
  · rw [Variable.spec, stands]

theorem exists_list_written {Meaning Spelling : Type} {written : Spelling → Text}
    {source : Meaning → Text} {means : Spelling → Meaning} {meanings : List Meaning}
    (each : ∀ meaning ∈ meanings,
      ∃ spelling, written spelling = source meaning ∧ means spelling = meaning) :
    ∃ spellings : List Spelling, spellings.map written = meanings.map source ∧
      spellings.map means = meanings := by
  induction meanings with
  | nil => exact ⟨[], rfl, rfl⟩
  | cons meaning rest inductionHypothesis =>
      rw [List.forall_mem_cons] at each
      obtain ⟨spelling, sameText, sameMeaning⟩ := each.1
      obtain ⟨others, sameTexts, sameMeanings⟩ := inductionHypothesis each.2
      refine ⟨spelling :: others, ?_, ?_⟩
      · rw [List.map_cons, List.map_cons, sameText, sameTexts]
      · rw [List.map_cons, sameMeaning, sameMeanings]

/-- A glyph at the start of a name is a dot: the others are no part of names. -/
theorem IsName.head_glyph {name : Text} (isName : IsName name) {operator : Operator}
    {glyph : Char} (owned : operator.glyph? = some glyph)
    (first : name.head? = some (.scalar glyph)) : glyph = '.' := by
  by_contra notDot
  have among : .scalar glyph ∈ name := List.mem_of_head? first
  refine isName.not_mem ?_ ?_ among
  · cases operator <;> cases owned <;> first | decide | contradiction
  · cases operator <;> cases owned <;> decide

theorem head?_listed (first : Variable) (rest : List Variable) :
    (List.intercalate [.scalar ','] ((first :: rest).map Variable.written)).head? =
      first.name.head? := by
  rw [List.map_cons, Text.intercalate_cons, Variable.written, List.append_assoc,
    List.head?_append_of_ne_nil _ first.isName.ne_nil]

/-- The glyph at the start of a body is the operator's own, unless the first name starts with a
dot and there is no operator. -/
theorem glyph_taken_of_undotted {operator : Operator} {listed : List Variable}
    (nonempty : listed ≠ [])
    (undotted : operator = .simple →
      ∀ first ∈ listed.head?, first.name.head? ≠ some (.scalar '.')) :
    ∀ (other : Operator) (glyph : Char), other.glyph? = some glyph →
      (bodyOf operator listed).head? = some (.scalar glyph) → operator = other := by
  intro other glyph owned first
  -- With an operator the body starts with its glyph, without one with the first name.
  cases chosen : operator.glyph? with
  | some own =>
      rw [bodyOf, Operator.glyph_of_glyph? chosen, List.singleton_append, List.head?_cons,
        Option.some.injEq, CodePoint.scalar.injEq] at first
      subst first
      exact Operator.eq_of_glyph? chosen owned
  | none =>
      have simple := Operator.eq_simple_of_glyph? chosen
      cases listed with
      | nil => contradiction
      | cons head rest =>
          rw [bodyOf, Operator.glyph, chosen, Option.toList_none, Text.ofChars, List.map_nil,
            List.nil_append, head?_listed] at first
          rw [head.isName.head_glyph owned first] at first
          exact absurd first (undotted simple head rfl)

theorem Braced.undotted (braced : Braced) (simple : braced.operator = .simple) :
    ∀ first ∈ braced.listed.head?, first.name.head? ≠ some (.scalar '.') := by
  intro first isFirst dotted
  obtain ⟨rest, shape⟩ := List.head?_eq_some_iff.mp isFirst
  have starts : (bodyOf braced.operator braced.listed).head? = some (.scalar '.') := by
    rw [bodyOf, simple, shape]
    exact (head?_listed first rest).trans dotted
  have taken := braced.glyph_taken .label '.' rfl starts
  rw [simple] at taken
  contradiction

theorem Braced.written_eq_source {braced : Braced} {parsed : Expression}
    (sameOperator : braced.operator = parsed.operator)
    (sameTexts : braced.listed.map Variable.written = parsed.specs.map VarSpec.source) :
    (Piece.braced braced).written = parsed.source := by
  rw [Piece.written, Braced.body, bodyOf, sameOperator, sameTexts, Expression.source]

/-- A canonical component is meant by a piece that is written like it. -/
theorem exists_piece {component : Component} (canonical : component.IsCanonical) :
    ∃ piece : Piece, piece.written = component.source ∧ piece.component = component := by
  cases component with
  | literal run => exact ⟨.run run canonical.1 canonical.2, rfl, rfl⟩
  | expression parsed =>
      obtain ⟨listed, sameTexts, sameSpecs⟩ :=
        exists_list_written fun spec among => exists_variable (canonical.named spec among)
      have nonempty : listed ≠ [] := by
        rintro rfl
        exact parsed.specs_ne_nil sameSpecs.symm
      have undotted : parsed.operator = .simple →
          ∀ first ∈ listed.head?, first.name.head? ≠ some (.scalar '.') := by
        intro simple first isFirst
        refine canonical.undotted simple first.spec ?_
        rw [← sameSpecs, List.head?_map]
        exact Option.mem_map_of_mem _ isFirst
      refine ⟨.braced ⟨parsed.operator, listed, nonempty,
        glyph_taken_of_undotted nonempty undotted⟩, ?_, ?_⟩
      · exact Braced.written_eq_source rfl sameTexts
      · simp only [Piece.component, Braced.expression, sameSpecs]

theorem Piece.isCanonical_component (piece : Piece) : piece.component.IsCanonical := by
  cases piece with
  | run text nonempty plain => exact ⟨nonempty, plain⟩
  | braced expression =>
      constructor
      · intro spec among
        obtain ⟨listed, _, rfl⟩ := List.mem_map.mp among
        exact (isName_eq_true_iff _).mpr listed.isName
      · intro simple spec isFirst
        rw [Braced.expression, List.head?_map] at isFirst
        obtain ⟨first, isFirstListed, rfl⟩ := Option.map_eq_some_iff.mp isFirst
        exact expression.undotted simple first isFirstListed

theorem Piece.isExpression_component (piece : Piece) :
    piece.component.isExpression = true ↔ ¬piece.IsRun := by
  cases piece <;> simp [Piece.component, Component.isExpression, Piece.IsRun]

theorem maximal_iff_apart (pieces : List Piece) :
    Maximal pieces ↔ (pieces.map Piece.component).IsChain Component.AreApart := by
  rw [List.isChain_map]
  simp only [Component.AreApart, Piece.isExpression_component, ← not_and_or]

end Grammar

namespace Component

theorem areCanonical_of_pieces {pieces : List Grammar.Piece}
    (maximal : Grammar.Maximal pieces) :
    AreCanonical (pieces.map Grammar.Piece.component) := by
  refine ⟨?_, (Grammar.maximal_iff_apart pieces).mp maximal⟩
  intro component among
  obtain ⟨piece, _, rfl⟩ := List.mem_map.mp among
  exact piece.isCanonical_component

/-- The written form of canonical components is spelled by pieces that stand for them. -/
theorem AreCanonical.exists_pieces {components : List Component}
    (canonical : AreCanonical components) :
    ∃ pieces, Grammar.Maximal pieces ∧ Grammar.spell pieces = sourceAll components ∧
      pieces.map Grammar.Piece.component = components := by
  obtain ⟨pieces, sameTexts, sameComponents⟩ := Grammar.exists_list_written
    fun component among => Grammar.exists_piece (canonical.each component among)
  refine ⟨pieces, ?_, ?_, sameComponents⟩
  · rw [Grammar.maximal_iff_apart, sameComponents]
    exact canonical.apart
  · rw [Grammar.spell, sourceAll, List.flatMap_def, List.flatMap_def, sameTexts]

theorem areCanonical_of_readAll {position : Nat} {raw : Text} {components : List Component}
    (accepted : readAll position raw = .ok components) : AreCanonical components := by
  obtain ⟨pieces, maximal, _, rfl⟩ := Grammar.exists_pieces_of_readAll accepted
  exact areCanonical_of_pieces maximal

theorem AreCanonical.readAll_sourceAll {components : List Component}
    (canonical : AreCanonical components) (position : Nat) :
    readAll position (sourceAll components) = .ok components := by
  obtain ⟨pieces, maximal, spelled, stands⟩ := canonical.exists_pieces
  rw [← spelled, Grammar.readAll_spell position maximal, stands]

/-- Components are read from their written form exactly if they are canonical, and whatever has
been read is read again from its own written form. -/
theorem readAll_sourceAll_iff :
    (∀ components, readAll 0 (sourceAll components) = .ok components ↔
      AreCanonical components) ∧
    ∀ raw components, readAll 0 raw = .ok components →
      readAll 0 (sourceAll components) = .ok components := by
  refine ⟨?_, ?_⟩
  · intro components
    exact ⟨areCanonical_of_readAll, fun canonical => canonical.readAll_sourceAll 0⟩
  · intro raw components accepted
    exact (areCanonical_of_readAll accepted).readAll_sourceAll 0

/-- A text that is not its own written form: the length has a needless zero. -/
theorem readAll_sourceAll_iff_zero :
    ∃ components, readAll 0 "a\x7b;x:07,y*\x7d" = .ok components ∧
      sourceAll components = "a\x7b;x:7,y*\x7d" ∧
      readAll 0 (sourceAll components) = .ok components := by
  have accepted : readAll 0 "a\x7b;x:07,y*\x7d" = .ok [.literal "a",
      .expression ⟨.parameter, [⟨"x", .truncate ⟨7, by decide, by decide⟩⟩, ⟨"y", .explode⟩],
        by simp⟩] := by
    decide +kernel
  exact ⟨_, accepted, by decide +kernel, readAll_sourceAll_iff.2 _ _ accepted⟩

-- Without an operator, a dot at the start of the first name is taken for one.
example : ¬AreCanonical [.expression ⟨.simple, [⟨".x", .plain⟩], by simp⟩] := by decide

example : AreCanonical [.expression ⟨.query, [⟨".x", .plain⟩], by simp⟩, .literal "-"] := by
  decide

end Component

end UriTemplate
