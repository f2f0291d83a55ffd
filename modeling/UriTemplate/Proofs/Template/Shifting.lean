import UriTemplate.Proofs.Template.Scanning

/-!
Reading does not depend on where a text stands.

A text that is read further on gives the same components.  If it has a defect,
then the defect is the same as well, with all its positions moved.
-/

namespace UriTemplate

namespace Defect

/-- The defect of the same text further on. -/
def shift (offset : Nat) : Defect → Defect
  | .unclosed position fragment => .unclosed (position + offset) fragment
  | .strayClose position => .strayClose (position + offset)
  | .emptyBody position => .emptyBody (position + offset)
  | .noVariables position body => .noVariables (position + offset) body
  | .emptySpec position body start => .emptySpec (position + offset) body (start + offset)
  | .truncatedExplode start spec => .truncatedExplode (start + offset) spec
  | .badLength start spec digits => .badLength (start + offset) spec digits
  | .badName start spec name => .badName (start + offset) spec name

/-- The position that the wording of a defect ends with. -/
def quoted? : Defect → Option Nat
  | .unclosed position _ => some position
  | .strayClose position => some position
  | .emptyBody position => some position
  | .noVariables position _ => some position
  | .emptySpec position _ _ => some position
  | .truncatedExplode _ _ => none
  | .badLength _ _ _ => none
  | .badName _ _ _ => none

@[simp]
theorem category_shift (offset : Nat) (defect : Defect) :
    (defect.shift offset).category = defect.category := by
  cases defect <;> rfl

@[simp]
theorem fragment_shift (offset : Nat) (defect : Defect) :
    (defect.shift offset).fragment = defect.fragment := by
  cases defect <;> rfl

@[simp]
theorem position_shift (offset : Nat) (defect : Defect) :
    (defect.shift offset).position = defect.position + offset := by
  cases defect <;> rfl

def quotation : Option Nat → Text
  | none => []
  | some position => Text.ofNat position

theorem detail_shift (offset : Nat) (defect : Defect) :
    ∃ lead, defect.detail = lead ++ quotation defect.quoted? ∧
      (defect.shift offset).detail = lead ++ quotation (defect.quoted?.map (· + offset)) := by
  cases defect with
  | truncatedExplode start spec => exact ⟨_, (List.append_nil _).symm, (List.append_nil _).symm⟩
  | badLength start spec digits => exact ⟨_, (List.append_nil _).symm, (List.append_nil _).symm⟩
  | badName start spec name => exact ⟨_, (List.append_nil _).symm, (List.append_nil _).symm⟩
  | _ =>
      simp only [detail, shift, quoted?, quotation, Text.concat, List.flatten_cons,
        List.flatten_nil, List.append_nil, Option.map_some]
      exact ⟨_, rfl, rfl⟩

end Defect

namespace VarSpec

theorem named_shift (offset start : Nat) (text name : Text) (modifier : Modifier) :
    named (start + offset) text name modifier =
      (named start text name modifier).mapError (Defect.shift offset) := by
  unfold named
  split <;> rfl

theorem read_shift (offset start : Nat) (text : Text) :
    read (start + offset) text = (read start text).mapError (Defect.shift offset) := by
  unfold read
  split
  · dsimp only
    split
    · rfl
    · exact named_shift offset start text _ _
  · split
    · exact named_shift offset start text _ _
    · split
      · rfl
      · exact named_shift offset start text _ _

theorem readAll_shift (offset position : Nat) (body : Text) (start : Nat)
    (candidates : List Text) :
    readAll (position + offset) body (start + offset) candidates =
      (readAll position body start candidates).mapError (Defect.shift offset) := by
  induction candidates generalizing start with
  | nil => rfl
  | cons candidate rest inductionHypothesis =>
      have next : start + offset + candidate.length + 1 =
          start + candidate.length + 1 + offset := by
        omega
      rw [readAll, readAll]
      split
      · rfl
      · rw [read_shift, next, inductionHypothesis, Outcome.mapError_bind]
        simp only [Outcome.mapError_bind]
        rfl

end VarSpec

namespace Expression

theorem read_shift (offset position : Nat) (body : Text) :
    read (position + offset) body = (read position body).mapError (Defect.shift offset) := by
  rcases split : splitOperator body with ⟨operator, list⟩
  have start : position + offset + 1 + operator.glyph.length =
      position + 1 + operator.glyph.length + offset := by
    omega
  simp only [read, split]
  split
  · rfl
  · split
    · rfl
    · rw [start, VarSpec.readAll_shift, Outcome.mapError_bind]
      congr 1
      funext specs
      split <;> rfl

end Expression

namespace Component

theorem readAll_shift (offset position : Nat) (text : Text) :
    readAll (position + offset) text =
      (readAll position text).mapError (Defect.shift offset) := by
  induction text using scanInduction generalizing position with
  | nil => simp
  | close rest => simp [Defect.shift]
  | unclosed rest neverClosed =>
      rw [readAll_unclosed _ neverClosed, readAll_unclosed _ neverClosed]
      rfl
  | expression body after closed inductionHypothesis =>
      have next : position + offset + body.length + 2 = position + body.length + 2 + offset := by
        omega
      rw [readAll_expression _ after closed, readAll_expression _ after closed,
        Expression.read_shift, next, inductionHypothesis, Outcome.mapError_bind]
      simp only [Outcome.mapError_bind]
      rfl
  | run run after nonempty plain ends inductionHypothesis =>
      have next : position + offset + run.length = position + run.length + offset := by
        omega
      rw [readAll_run _ nonempty plain ends, readAll_run _ nonempty plain ends, next,
        inductionHypothesis, Outcome.mapError_bind]
      rfl

end Component

end UriTemplate
