import UriTemplate.Proofs.Expansion.Streaming
import UriTemplate.Proofs.Template.Printing
import UriTemplate.Proofs.Percent

/-!
What an expression may write.

The output of an expression is made of stretches: delimiters of its operator,
names of its variables, and encoded contents of the values that are bound to them.
Names are safe because the reader has checked them, contents because they are
encoded, whichever way a value is rendered.  `Template.expand_safe` puts this
together: the output holds nothing but unreserved and reserved characters and
triplets, and where reserved characters are encoded, those in the output are
delimiters.
-/

namespace UriTemplate

/-- The texts that a value consists of. -/
def Value.contents : Value → List (List Char)
  | .text chars => [chars]
  | .list items => items
  | .assoc entries => entries.pairs.flatMap fun pair => [pair.1, pair.2]

/-- The characters that an expression writes of its own accord. -/
def Operator.IsDelimiter (operator : Operator) (char : Char) : Prop :=
  char = ',' ∨ char = '=' ∨ operator.lead? = some char ∨ operator.separatorChar = char

namespace Expression

/-- A stretch of what an expression writes: a delimiter, a name, or the encoded form of a text
that is bound to a name, whole or truncated. -/
inductive IsStretch (parsed : Expression) (environment : Environment) : Text → Prop where
  | delimiter {char} : parsed.operator.IsDelimiter char →
      IsStretch parsed environment [.scalar char]
  | name {spec} : spec ∈ parsed.specs → IsStretch parsed environment spec.name
  | content {spec value whole chars} : spec ∈ parsed.specs →
      environment spec.name = some value → whole ∈ value.contents → chars <+: whole →
      IsStretch parsed environment (VarSpec.encoded parsed.operator chars)

variable {parsed : Expression} {environment : Environment}

theorem madeOf_separator :
    MadeOf (parsed.IsStretch environment) parsed.operator.separator :=
  .single (.delimiter (Or.inr (Or.inr (Or.inr rfl))))

theorem madeOf_comma : MadeOf (parsed.IsStretch environment) [.scalar ','] :=
  .single (.delimiter (Or.inl rfl))

theorem madeOf_lead : MadeOf (parsed.IsStretch environment) parsed.operator.lead := by
  rw [Operator.lead]
  cases lead : parsed.operator.lead? with
  | none => exact .nil
  | some char => exact .single (.delimiter (Or.inr (Or.inr (Or.inl lead))))

theorem madeOf_assignment {front back : Text}
    (madeFront : MadeOf (parsed.IsStretch environment) front)
    (madeBack : MadeOf (parsed.IsStretch environment) back) :
    MadeOf (parsed.IsStretch environment) (front ++ .scalar '=' :: back) :=
  madeFront.append ((MadeOf.single (.delimiter (Or.inr (Or.inl rfl)))).append madeBack)

theorem madeOf_withName {spec : VarSpec} (among : spec ∈ parsed.specs) {text : Text}
    (made : MadeOf (parsed.IsStretch environment) text) :
    MadeOf (parsed.IsStretch environment)
      (Streaming.withName parsed.operator spec.name text) := by
  rw [Streaming.withName]
  split
  · exact madeOf_assignment (.single (.name among)) made
  · exact made

theorem isPrefix_truncate (chars : List Char) (modifier : Modifier) :
    Streaming.truncate chars modifier <+: chars := by
  cases modifier with
  | truncate length => exact List.take_prefix _ _
  | plain => exact List.prefix_refl _
  | explode => exact List.prefix_refl _

/-- Every way of rendering a value writes stretches only. -/
theorem madeOf_piece {spec : VarSpec} (among : spec ∈ parsed.specs) {value : Value}
    (bound : environment spec.name = some value) {piece : Text}
    (rendered : piece ∈ Streaming.pieces parsed.operator spec value) :
    MadeOf (parsed.IsStretch environment) piece := by
  -- All encoded texts come from here; what is written around them are delimiters and the name.
  have encoded {whole : List Char} (held : whole ∈ value.contents) :
      MadeOf (parsed.IsStretch environment) (Streaming.encode parsed.operator whole) :=
    .single (.content among bound held (List.prefix_refl whole))
  cases value with
  | text chars =>
      simp only [Streaming.pieces] at rendered
      split at rendered
      · rw [List.mem_singleton] at rendered
        rw [rendered]
        exact .single (.name among)
      · rw [List.mem_singleton] at rendered
        rw [rendered]
        refine madeOf_withName among (.single (.content among bound ?_
          (isPrefix_truncate chars spec.modifier)))
        exact List.mem_singleton_self chars
  | list items =>
      simp only [Streaming.pieces] at rendered
      split at rendered
      · obtain ⟨item, inItems, rfl⟩ := List.mem_map.mp rendered
        exact madeOf_withName among (encoded inItems)
      · rw [List.mem_singleton] at rendered
        rw [rendered]
        refine madeOf_withName among (madeOf_comma.intercalate ?_)
        intro part inParts
        obtain ⟨item, inItems, rfl⟩ := List.mem_map.mp inParts
        exact encoded inItems
  | assoc entries =>
      simp only [Streaming.pieces] at rendered
      split at rendered
      · obtain ⟨pair, inPairs, rfl⟩ := List.mem_map.mp rendered
        refine madeOf_assignment (encoded ?_) (encoded ?_)
        · exact List.mem_flatMap.mpr ⟨pair, inPairs, by simp⟩
        · exact List.mem_flatMap.mpr ⟨pair, inPairs, by simp⟩
      · rw [List.mem_singleton] at rendered
        rw [rendered]
        refine madeOf_withName among (madeOf_comma.intercalate ?_)
        intro part inParts
        obtain ⟨pair, inPairs, inPair⟩ := List.mem_flatMap.mp inParts
        simp only [List.mem_cons, List.not_mem_nil, or_false] at inPair
        rcases inPair with rfl | rfl
        · exact encoded (List.mem_flatMap.mpr ⟨pair, inPairs, by simp⟩)
        · exact encoded (List.mem_flatMap.mpr ⟨pair, inPairs, by simp⟩)

theorem madeOf_expand (parsed : Expression) (environment : Environment) :
    MadeOf (parsed.IsStretch environment) (parsed.expand environment) := by
  have each : ∀ piece ∈ parsed.specs.flatMap
      (Streaming.piecesIn parsed.operator environment),
      MadeOf (parsed.IsStretch environment) piece := by
    intro piece among
    obtain ⟨spec, inSpecs, rendered⟩ := List.mem_flatMap.mp among
    obtain ⟨value, bound, _, inPieces⟩ := Streaming.mem_piecesIn_iff.mp rendered
    exact madeOf_piece inSpecs bound inPieces
  rw [expand, Streaming.expandSpecs_eq]
  generalize parsed.specs.flatMap (Streaming.piecesIn parsed.operator environment) = pieces
    at each
  cases pieces with
  | nil => exact .nil
  | cons piece rest => exact madeOf_lead.append (madeOf_separator.intercalate each)

/-- Stretches are made of what their operator keeps, of delimiters and of unreserved characters. -/
theorem IsStretch.madeOf_units {Stands : Char → Prop}
    (named : ∀ spec ∈ parsed.specs, VarSpec.isName spec.name = true)
    (unreserved : ∀ char, Percent.isUnreserved char = true → Stands char)
    (delimiters : ∀ char, parsed.operator.IsDelimiter char → Stands char)
    (kept : ∀ char, Percent.isKept parsed.operator.allowsReserved char = true → Stands char)
    {text : Text} (stretch : parsed.IsStretch environment text) :
    MadeOf (Percent.IsUnit Stands) text := by
  cases stretch with
  | delimiter isDelimiter => exact .single (.char (delimiters _ isDelimiter))
  | name among =>
      have isName := (Grammar.isName_eq_true_iff _).mp (named _ among)
      exact Percent.madeOf_mono unreserved (Percent.madeOf_name isName)
  | content among bound held isPrefix =>
      exact Percent.madeOf_mono kept (Percent.madeOf_encode _ _)

end Expression

theorem Operator.IsDelimiter.unreserved_or_reserved {operator : Operator} {char : Char}
    (isDelimiter : operator.IsDelimiter char) :
    Percent.isUnreserved char = true ∨ char ∈ Percent.reserved := by
  rcases isDelimiter with rfl | rfl | lead | separator
  · decide
  · decide
  · cases operator <;> cases lead <;> decide
  · subst separator
    cases operator <;> decide

namespace Template

/-- What the expressions of a template contribute to its expansion: unreserved and reserved
characters and triplets.  Where an operator has reserved characters encoded, those in its output
are delimiters: the output is made of stretches, and the encoded form of a text holds none. -/
theorem expand_safe {raw : Text} {template : Template} (accepted : ofText raw = .ok template)
    {bindings overriding : Bindings Datum} {values : Bindings Value}
    (coerced : coerce (bindings.overlay overriding) = .ok values) :
    template.expand bindings overriding =
      .ok (template.components.flatMap (Component.expand values.environment)) ∧
    ∀ parsed, .expression parsed ∈ template.components →
      MadeOf (Percent.IsUnit fun char =>
          Percent.isUnreserved char = true ∨ char ∈ Percent.reserved)
        (parsed.expand values.environment) ∧
      (∀ point ∈ parsed.expand values.environment,
        ∃ char, point = .scalar char ∧ Percent.IsGraphic char) ∧
      (parsed.operator ≠ .reserved → parsed.operator ≠ .fragment →
        (∀ char ∈ Percent.reserved, .scalar char ∈ parsed.expand values.environment →
          parsed.operator.IsDelimiter char) ∧
        MadeOf (parsed.IsStretch values.environment) (parsed.expand values.environment) ∧
        ∀ chars, MadeOf (Percent.IsUnit fun char => Percent.isUnreserved char = true)
          (VarSpec.encoded parsed.operator chars)) := by
  have read := (ofText_eq_ok_iff.mp accepted).2
  refine ⟨by rw [expand, coerced]; rfl, ?_⟩
  intro parsed among
  have named := ((Component.areCanonical_of_readAll read).each _ among).named
  have stretches := parsed.madeOf_expand values.environment
  have made : MadeOf (Percent.IsUnit fun char =>
      Percent.isUnreserved char = true ∨ char ∈ Percent.reserved)
      (parsed.expand values.environment) :=
    stretches.refine fun _ stretch => stretch.madeOf_units named (fun _ => Or.inl)
      (fun _ isDelimiter => isDelimiter.unreserved_or_reserved)
      (fun _ kept => (Percent.isKept_cases kept).imp_right And.right)
  refine ⟨made, fun point inOutput => Percent.isGraphic_of_madeOf made inOutput, ?_⟩
  intro notReserved notFragment
  -- For these operators, contents have nothing but unreserved characters left in them.
  have encodes : parsed.operator.allowsReserved = false := by
    cases operator : parsed.operator <;> simp_all [Operator.allowsReserved]
  have unreserved : ∀ char, Percent.isKept parsed.operator.allowsReserved char = true →
      Percent.isUnreserved char = true := by
    intro char kept
    simpa [Percent.isKept, encodes] using kept
  refine ⟨?_, stretches, fun chars => Percent.madeOf_mono unreserved (Percent.madeOf_encode _ _)⟩
  intro char isReserved inOutput
  have delimited : MadeOf (Percent.IsUnit fun char =>
      Percent.isUnreserved char = true ∨ parsed.operator.IsDelimiter char)
      (parsed.expand values.environment) :=
    stretches.refine fun _ stretch => stretch.madeOf_units named (fun _ => Or.inl)
      (fun _ => Or.inr) (fun char kept => Or.inl (unreserved char kept))
  rcases Percent.stands_of_reserved delimited isReserved inOutput with kept | isDelimiter
  · have apart : ∀ char ∈ Percent.reserved, Percent.isUnreserved char = false :=
      Percent.forall_reserved (by decide)
    rw [apart char isReserved] at kept
    contradiction
  · exact isDelimiter

/-- Delimiters, a quote, a brace and a letter outside ASCII in what is bound. -/
theorem expand_safe_query :
    ∃ template parsed values, ofText "/\x7b?k*,t:2\x7d" = .ok template ∧
      coerce (Bindings.overlay [("k", .mapping [(.text "a&b", .text "c=\"")])]
        [("t", .text "é\x7b?")]) = .ok values ∧
      template.expand [("k", .mapping [(.text "a&b", .text "c=\"")])]
        [("t", .text "é\x7b?")] = .ok "/?a%26b=c%3D%22&t=%C3%A9%7B" ∧
      .expression parsed ∈ template.components ∧ parsed.operator = .query ∧
      parsed.expand values.environment = Text.ofString "?a%26b=c%3D%22&t=%C3%A9%7B" ∧
      (∀ point ∈ parsed.expand values.environment,
        ∃ char, point = .scalar char ∧ Percent.IsGraphic char) ∧
      ∀ char ∈ Percent.reserved, .scalar char ∈ parsed.expand values.environment →
        parsed.operator.IsDelimiter char := by
  have reads : Component.readAll 0 "/\x7b?k*,t:2\x7d" = .ok [.literal "/", .expression
      ⟨.query, [⟨"k", .explode⟩, ⟨"t", .truncate ⟨2, by decide, by decide⟩⟩], by simp⟩] := by
    decide +kernel
  have accepted := ofText_raw ⟨_, _, reads⟩
  have coerced : coerce (Bindings.overlay [("k", .mapping [(.text "a&b", .text "c=\"")])]
      [("t", .text "é\x7b?")]) =
      .ok [("k", .assoc ⟨[("a&b".toList, "c=\"".toList)], by simp⟩),
        ("t", .text "é\x7b?".toList)] := by
    rfl
  obtain ⟨expands, each⟩ := expand_safe accepted coerced
  obtain ⟨_, graphic, delimited⟩ := each _ (List.mem_cons_of_mem _ List.mem_cons_self)
  refine ⟨_, _, _, accepted, coerced, expands.trans ?_,
    List.mem_cons_of_mem _ List.mem_cons_self, rfl, ?_, graphic,
    (delimited (by decide) (by decide)).1⟩
  · refine congrArg Except.ok ?_
    dsimp only
    decide +kernel
  · decide +kernel

end Template

end UriTemplate
