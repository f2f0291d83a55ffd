import UriTemplate.Proofs.Template.Expressions
import Mathlib.Control.Monad.Basic

/-!
A text is read exactly if it has a decomposition, and then as its components.

`Component.readAll_iff_decomposition` says so, and that a text has at most one
decomposition.  Soundness goes along the way in which the text is read,
completeness and uniqueness along the pieces.  Both directions meet at the seam
between a run and what follows it: the run ends there because the next piece is
no run.
-/

namespace UriTemplate.Grammar

def spell (pieces : List Piece) : Text :=
  pieces.flatMap Piece.written

/-- No run is next to another. -/
abbrev Maximal (pieces : List Piece) : Prop :=
  pieces.IsChain fun piece next => ¬(piece.IsRun ∧ next.IsRun)

namespace Piece

theorem run_literal {text : Text}
    (plain : ∀ point ∈ text, point ≠ .scalar '{' ∧ point ≠ .scalar '}') :
    ∀ point ∈ text, Component.isLiteralPoint point = true :=
  fun point membership => (Component.isLiteralPoint_eq_true_iff point).mpr (plain point membership)

theorem written_ne_nil (piece : Piece) : piece.written ≠ [] := by
  cases piece with
  | run text nonempty plain => exact nonempty
  | braced expression => simp [written]

/-- The pieces after a run start with an expression, so no literal goes on into them. -/
theorem endsLiteral_spell {pieces : List Piece} (noRun : ∀ next ∈ pieces.head?, ¬next.IsRun) :
    Component.EndsLiteral (spell pieces) := by
  cases pieces with
  | nil => exact Component.endsLiteral_nil
  | cons next rest =>
      cases next with
      | run text nonempty plain => exact absurd trivial (noRun _ rfl)
      | braced expression => exact Component.endsLiteral_open _

theorem noRun_of_endsLiteral {pieces : List Piece}
    (ends : Component.EndsLiteral (spell pieces)) :
    ∀ next ∈ pieces.head?, ¬next.IsRun := by
  intro next first isRun
  cases pieces with
  | nil => contradiction
  | cons head rest =>
      rw [List.head?_cons, Option.mem_def, Option.some.injEq] at first
      subst head
      cases next with
      | braced expression => exact isRun
      | run text nonempty plain =>
          cases text with
          | nil => contradiction
          | cons point others =>
              have stops := ends point (by simp [spell, written])
              have literal := run_literal plain point (by simp)
              rw [literal] at stops
              contradiction

theorem noRun_after_run {pieces : List Piece} {text : Text} {nonempty : text ≠ []}
    {plain : ∀ point ∈ text, point ≠ .scalar '{' ∧ point ≠ .scalar '}'}
    (maximal : Maximal (run text nonempty plain :: pieces)) :
    ∀ next ∈ pieces.head?, ¬next.IsRun :=
  fun next first isRun => (List.isChain_cons.mp maximal).1 next first ⟨trivial, isRun⟩

end Piece

theorem spell_braced (braced : Braced) (pieces : List Piece) :
    spell (.braced braced :: pieces) =
      .scalar '{' :: (braced.body ++ .scalar '}' :: spell pieces) := by
  simp [spell, Piece.written]

theorem spell_run (text : Text) (nonempty : text ≠ [])
    (plain : ∀ point ∈ text, point ≠ .scalar '{' ∧ point ≠ .scalar '}') (pieces : List Piece) :
    spell (.run text nonempty plain :: pieces) = text ++ spell pieces := rfl

/-- Pieces are read as the components that they stand for. -/
theorem readAll_spell (position : Nat) {pieces : List Piece} (maximal : Maximal pieces) :
    Component.readAll position (spell pieces) = .ok (pieces.map Piece.component) := by
  induction pieces generalizing position with
  | nil => exact Component.readAll_nil position
  | cons piece rest inductionHypothesis =>
      have restMaximal := (List.isChain_cons.mp maximal).2
      cases piece with
      | run text nonempty plain =>
          rw [spell_run, Component.readAll_run position nonempty (Piece.run_literal plain)
            (Piece.endsLiteral_spell (Piece.noRun_after_run maximal)),
            inductionHypothesis _ restMaximal]
          rfl
      | braced expression =>
          rw [spell_braced, Component.readAll_expression position _ expression.close_not_mem,
            Expression.read_complete, inductionHypothesis _ restMaximal]
          rfl

/-- Whatever is read consists of pieces. -/
theorem exists_pieces_of_readAll {position : Nat} {raw : Text} {components : List Component}
    (accepted : Component.readAll position raw = .ok components) :
    ∃ pieces, Maximal pieces ∧ spell pieces = raw ∧ pieces.map Piece.component = components := by
  induction raw using Component.scanInduction generalizing position components with
  | nil =>
      rw [Component.readAll_nil] at accepted
      cases accepted
      exact ⟨[], .nil, rfl, rfl⟩
  | close rest =>
      rw [Component.readAll_close] at accepted
      contradiction
  | unclosed rest neverClosed =>
      rw [Component.readAll_unclosed position neverClosed] at accepted
      contradiction
  | expression body after closed inductionHypothesis =>
      rw [Component.readAll_expression position after closed] at accepted
      obtain ⟨expression, readBody, continued⟩ := Outcome.bind_eq_ok_iff.mp accepted
      obtain ⟨others, readAfter, combined⟩ := Outcome.bind_eq_ok_iff.mp continued
      cases combined
      obtain ⟨braced, rfl, rfl⟩ := Expression.read_sound readBody
      obtain ⟨pieces, maximal, rfl, rfl⟩ := inductionHypothesis readAfter
      refine ⟨.braced braced :: pieces, ?_, spell_braced braced pieces, rfl⟩
      exact maximal.cons fun next first both => both.1
  | run run after nonempty plain ends inductionHypothesis =>
      rw [Component.readAll_run position nonempty plain ends] at accepted
      obtain ⟨others, readAfter, combined⟩ := Outcome.bind_eq_ok_iff.mp accepted
      cases combined
      obtain ⟨pieces, maximal, rfl, rfl⟩ := inductionHypothesis readAfter
      have free : ∀ point ∈ run, point ≠ .scalar '{' ∧ point ≠ .scalar '}' :=
        fun point membership =>
          (Component.isLiteralPoint_eq_true_iff point).mp (plain point membership)
      refine ⟨.run run nonempty free :: pieces, ?_, spell_run run nonempty free pieces, rfl⟩
      exact maximal.cons fun next first both =>
        Piece.noRun_of_endsLiteral ends next first both.2

/-- A text is spelled by one sequence of pieces at most. -/
theorem spell_injective {first second : List Piece} (firstMaximal : Maximal first)
    (secondMaximal : Maximal second) (equality : spell first = spell second) :
    first = second := by
  induction first generalizing second with
  | nil =>
      cases second with
      | nil => rfl
      | cons piece rest =>
          exact absurd (List.append_eq_nil_iff.mp equality.symm).1 piece.written_ne_nil
  | cons piece rest inductionHypothesis =>
      cases second with
      | nil => exact absurd (List.append_eq_nil_iff.mp equality).1 piece.written_ne_nil
      | cons other others =>
          have continued := fun same => inductionHypothesis (List.isChain_cons.mp firstMaximal).2
            (List.isChain_cons.mp secondMaximal).2 same
          cases piece with
          | run text nonempty plain =>
              cases other with
              | run otherText otherNonempty otherPlain =>
                  have sameText := congrArg (List.takeWhile Component.isLiteralPoint) equality
                  rw [spell_run, spell_run,
                    Component.takeWhile_append_of_endsLiteral (Piece.run_literal plain)
                      (Piece.endsLiteral_spell (Piece.noRun_after_run firstMaximal)),
                    Component.takeWhile_append_of_endsLiteral (Piece.run_literal otherPlain)
                      (Piece.endsLiteral_spell (Piece.noRun_after_run secondMaximal))] at sameText
                  subst sameText
                  rw [continued (List.append_cancel_left equality)]
              | braced expression =>
                  cases text with
                  | nil => contradiction
                  | cons point points =>
                      rw [spell_run, spell_braced] at equality
                      exact absurd (List.cons.inj equality).1 (plain point (by simp)).1
          | braced expression =>
              cases other with
              | run text nonempty plain =>
                  cases text with
                  | nil => contradiction
                  | cons point points =>
                      rw [spell_run, spell_braced] at equality
                      exact absurd (List.cons.inj equality).1.symm (plain point (by simp)).1
              | braced otherExpression =>
                  rw [spell_braced, spell_braced] at equality
                  have sameCut := congrArg (Text.cut? (.scalar '}')) (List.cons.inj equality).2
                  rw [Text.cut?_append_cons expression.close_not_mem,
                    Text.cut?_append_cons otherExpression.close_not_mem] at sameCut
                  have parts := Prod.mk.inj (Option.some.inj sameCut)
                  rw [Braced.body_injective parts.1, continued parts.2]

end UriTemplate.Grammar

namespace UriTemplate.Component

/-- A text is accepted exactly if it decomposes into runs and expressions.  What is read are the
components of its decomposition, and it has only one. -/
theorem readAll_iff_decomposition (raw : Text) :
    (∀ components, readAll 0 raw = .ok components ↔
      ∃ decomposition : Grammar.Decomposition raw, decomposition.components = components) ∧
    ∀ first second : Grammar.Decomposition raw, first = second := by
  constructor
  · intro components
    constructor
    · intro accepted
      obtain ⟨pieces, maximal, spelled, stands⟩ := Grammar.exists_pieces_of_readAll accepted
      exact ⟨⟨pieces, maximal, spelled⟩, stands⟩
    · rintro ⟨⟨pieces, maximal, rfl⟩, rfl⟩
      exact Grammar.readAll_spell 0 maximal
  · rintro ⟨pieces, maximal, spelled⟩ ⟨others, otherMaximal, otherSpelled⟩
    have same := Grammar.spell_injective maximal otherMaximal (spelled.trans otherSpelled.symm)
    subst same
    rfl

-- A glyph at the start of a body is the operator, even where it could start a name.
example : readAll 0 "\x7b.\x7d" = .error (.noVariables 0 ".") := by decide +kernel

example : readAll 0 "\x7b.,a\x7d" = .error (.emptySpec 0 ".,a" 2) := by decide +kernel

end UriTemplate.Component
