import UriTemplate.Proofs.Expansion.Safety

/-!
Templates without expressions, and the output of templates.

A text without braces is read as one literal and expands to itself.  What a
template writes is such a text: literals have no braces because the reader would
have taken them for something else, and expressions write visible characters only.
So the output of a template holds no expression that a second expansion could
fill (`Template.expand_inert`), and the templates that stay as they are under every
binding are those without expressions.
-/

namespace UriTemplate

namespace Expression

variable {parsed : Expression} {environment : Environment}

theorem IsStretch.isGraphic (named : ∀ spec ∈ parsed.specs, VarSpec.isName spec.name = true)
    {text : Text} (stretch : parsed.IsStretch environment text) {point : CodePoint}
    (among : point ∈ text) : ∃ char, point = .scalar char ∧ Percent.IsGraphic char := by
  apply Percent.isGraphic_of_madeOf _ among
  apply stretch.madeOf_units named
  · exact fun _ => Or.inl
  · exact fun _ delimiter => delimiter.unreserved_or_reserved
  · exact fun _ kept => (Percent.isKept_cases kept).imp_right And.right

theorem isLiteralPoint_of_mem_expand
    (named : ∀ spec ∈ parsed.specs, VarSpec.isName spec.name = true) {point : CodePoint}
    (among : point ∈ parsed.expand environment) : Component.isLiteralPoint point = true := by
  obtain ⟨text, stretch, inText⟩ := (parsed.madeOf_expand environment).exists_part among
  obtain ⟨char, rfl, graphic⟩ := stretch.isGraphic named inText
  obtain ⟨_, _, _, notOpen, notClose⟩ := graphic
  rw [Component.isLiteralPoint_eq_true_iff]
  exact ⟨by simpa using notOpen, by simpa using notClose⟩

end Expression

namespace Component

/-- No code point of a text is a brace. -/
def IsPlain (text : Text) : Prop :=
  ∀ point ∈ text, isLiteralPoint point = true

theorem isPlain_iff (text : Text) :
    IsPlain text ↔ .scalar '{' ∉ text ∧ .scalar '}' ∉ text := by
  constructor
  · intro plain
    constructor
    · intro among
      exact absurd (plain _ among) (by decide)
    · intro among
      exact absurd (plain _ among) (by decide)
  · rintro ⟨noOpen, noClose⟩ point among
    rw [isLiteralPoint_eq_true_iff]
    constructor
    · rintro rfl
      exact noOpen among
    · rintro rfl
      exact noClose among

theorem isPlain_expand {component : Component} (canonical : component.IsCanonical)
    (environment : Environment) : IsPlain (component.expand environment) := by
  intro point among
  cases component with
  | literal run => exact (isLiteralPoint_eq_true_iff point).mpr (canonical.2 point among)
  | expression parsed => exact parsed.isLiteralPoint_of_mem_expand canonical.named among

theorem isPlain_expandAll {components : List Component} (canonical : AreCanonical components)
    (environment : Environment) : IsPlain (expandAll environment components) := by
  intro point among
  obtain ⟨component, inComponents, written⟩ := List.mem_flatMap.mp among
  exact isPlain_expand (canonical.each component inComponents) environment point written

/-- What a text without braces is read as. -/
def literals (text : Text) : List Component :=
  if text = [] then [] else [.literal text]

theorem readAll_of_isPlain {text : Text} (plain : IsPlain text) (position : Nat) :
    readAll position text = .ok (literals text) := by
  by_cases empty : text = []
  · subst empty
    exact readAll_nil position
  · have read := readAll_run position empty plain endsLiteral_nil
    rw [List.append_nil, readAll_nil] at read
    rw [read, literals, if_neg empty]
    rfl

theorem expandAll_literals (environment : Environment) (text : Text) :
    expandAll environment (literals text) = text := by
  by_cases empty : text = []
  · rw [literals, if_pos empty, empty]
    rfl
  · rw [literals, if_neg empty]
    exact List.append_nil text

/-- An expression is written with a brace, and nothing else is. -/
theorem exists_expression_iff {position : Nat} {raw : Text} {components : List Component}
    (read : readAll position raw = .ok components) :
    (∃ component ∈ components, component.isExpression = true) ↔ .scalar '{' ∈ raw := by
  obtain ⟨pieces, _, rfl, rfl⟩ := Grammar.exists_pieces_of_readAll read
  constructor
  · rintro ⟨component, among, isExpression⟩
    obtain ⟨piece, inPieces, rfl⟩ := List.mem_map.mp among
    cases piece with
    | run text nonempty plain => contradiction
    | braced expression => exact List.mem_flatMap.mpr ⟨_, inPieces, List.mem_cons_self⟩
  · intro among
    obtain ⟨piece, inPieces, written⟩ := List.mem_flatMap.mp among
    cases piece with
    | run text nonempty plain => exact absurd rfl (plain _ written).1
    | braced expression => exact ⟨_, List.mem_map_of_mem inPieces, rfl⟩

/-- A closing brace is read as the end of an expression only. -/
theorem isPlain_of_readAll {position : Nat} {raw : Text} {components : List Component}
    (read : readAll position raw = .ok components) (noOpen : .scalar '{' ∉ raw) :
    IsPlain raw := by
  obtain ⟨pieces, _, rfl, rfl⟩ := Grammar.exists_pieces_of_readAll read
  intro point among
  obtain ⟨piece, inPieces, written⟩ := List.mem_flatMap.mp among
  cases piece with
  | run text nonempty plain => exact Grammar.Piece.run_literal plain point written
  | braced expression =>
      exact absurd (List.mem_flatMap.mpr ⟨_, inPieces, List.mem_cons_self⟩) noOpen

end Component

namespace Template

theorem isLiteral_iff (template : Template) :
    template.isLiteral = true ↔ .scalar '{' ∉ template.raw := by
  rw [← Component.exists_expression_iff template.reads, isLiteral, Bool.not_eq_true',
    ← Bool.not_eq_true, List.any_eq_true]

theorem components_of_isPlain (template : Template)
    (plain : Component.IsPlain template.raw) :
    template.components = Component.literals template.raw := by
  have read := template.reads
  rw [Component.readAll_of_isPlain plain, Except.ok.injEq] at read
  exact read.symm

/-- The expansion of a text without braces is the text, whatever is bound. -/
theorem expand_of_isPlain (template : Template) (plain : Component.IsPlain template.raw)
    (bindings overriding : Bindings Datum) :
    template.expand bindings overriding =
      (coerce (bindings.overlay overriding)).map fun _ => template.raw := by
  cases coerced : coerce (bindings.overlay overriding) with
  | error error =>
      rw [expand, coerced]
      rfl
  | ok values =>
      rw [expand_of_coerce coerced, template.components_of_isPlain plain,
        Component.expandAll_literals]
      rfl

theorem variableNames_of_isPlain (template : Template)
    (plain : Component.IsPlain template.raw) : template.variableNames = [] := by
  rw [variableNames, template.components_of_isPlain plain, Component.literals]
  split <;> rfl

/-- The output of a template holds no braces.  Taken as a template again it is a literal: it has
no variables, and whatever is bound it expands to itself.  The templates that do so from the start
are those without expressions, and these are the ones without an opening brace. -/
theorem expand_inert {raw : Text} {template : Template} (accepted : ofText raw = .ok template) :
    (∀ bindings overriding values, coerce (bindings.overlay overriding) = .ok values →
      ∃ out again, template.expand bindings overriding = .ok out ∧
        .scalar '{' ∉ out ∧ .scalar '}' ∉ out ∧
        ofText out = .ok again ∧ again.isLiteral = true ∧ again.variableNames = [] ∧
        ∀ others replacing, again.expand others replacing =
          (coerce (others.overlay replacing)).map fun _ => out) ∧
    (template.isLiteral = true ↔ .scalar '{' ∉ raw) ∧
    (template.isLiteral = true ↔ ∀ bindings overriding, template.expand bindings overriding =
      (coerce (bindings.overlay overriding)).map fun _ => raw) := by
  obtain ⟨rfl, read⟩ := ofText_eq_ok_iff.mp accepted
  have canonical := Component.areCanonical_of_readAll read
  have literal : template.isLiteral = true ↔ .scalar '{' ∉ template.raw := template.isLiteral_iff
  refine ⟨?_, literal, ?_⟩
  · intro bindings overriding values coerced
    have plain := Component.isPlain_expandAll canonical values.environment
    obtain ⟨noOpen, noClose⟩ := (Component.isPlain_iff _).mp plain
    let again : Template := ⟨_, _, Component.readAll_of_isPlain plain 0⟩
    refine ⟨_, again, expand_of_coerce coerced, noOpen, noClose, ofText_raw again, ?_, ?_, ?_⟩
    · exact again.isLiteral_iff.mpr noOpen
    · exact again.variableNames_of_isPlain plain
    · exact again.expand_of_isPlain plain
  · rw [literal]
    constructor
    · intro noOpen
      exact template.expand_of_isPlain (Component.isPlain_of_readAll read noOpen)
    · -- Under no binding at all, a brace in the text would have to come out of the expansion.
      intro fixed among
      have out := fixed [] []
      have plain := Component.isPlain_expandAll canonical (Bindings.environment [])
      rw [expand] at out
      have same : Component.expandAll (Bindings.environment []) template.components =
          template.raw := Except.ok.inj out
      rw [same, Component.isPlain_iff] at plain
      exact plain.1 among

/-- A value that is written like an expression does not become one. -/
theorem expand_inert_expression :
    ∃ template out again, ofText "a\x7b+x\x7d" = .ok template ∧
      coerce (Bindings.overlay [("x", .text "\x7by\x7d")] []) =
        .ok [("x", .text "\x7by\x7d".toList)] ∧
      template.expand [("x", .text "\x7by\x7d")] [] = .ok out ∧
      out = Text.ofString "a%7By%7D" ∧ .scalar '{' ∉ out ∧ ofText out = .ok again ∧
      again.expand [("y", .integer 1)] [] = .ok out ∧ ¬template.isLiteral = true := by
  have reads : Component.readAll 0 "a\x7b+x\x7d" =
      .ok [.literal "a", .expression ⟨.reserved, [⟨"x", .plain⟩], by simp⟩] := by
    decide +kernel
  have accepted := ofText_raw ⟨_, _, reads⟩
  have coerced : coerce (Bindings.overlay [("x", .text "\x7by\x7d")] []) =
      .ok [("x", .text "\x7by\x7d".toList)] := by
    rfl
  obtain ⟨outputs, literal, _⟩ := expand_inert accepted
  obtain ⟨out, again, expanded, noOpen, _, read, _, _, fixed⟩ := outputs _ _ _ coerced
  have written : out = Text.ofString "a%7By%7D" := by
    rw [expand, coerced] at expanded
    rw [← Except.ok.inj expanded]
    dsimp only
    decide +kernel
  refine ⟨_, out, again, accepted, coerced, expanded, written, noOpen, read, fixed _ _, ?_⟩
  rw [literal, not_not]
  have opened : .scalar '{' ∈ Text.ofString "a\x7b+x\x7d" := by decide
  exact opened

end Template

end UriTemplate
