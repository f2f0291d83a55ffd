import UriTemplate.Proofs.Template.Expressions

/-!
Reading with constructors that may refuse.

Here every length and every expression is built by its constructor, which checks what
it is given and refuses what is out of range.  The checks of the reader come first, so
that no constructor ever refuses: building is reading, as `Component.buildAll_eq` says.
-/

namespace UriTemplate

/-- Why nothing is built: the text has a defect, or a constructor refuses. -/
inductive BuildFault where
  | defect (defect : Defect)
  | refused (error : ComponentError)

namespace VarSpec

/-- The number that one to four digits denote, zero included. -/
def numberOf? (digits : Text) : Option Nat :=
  if 1 ≤ digits.length ∧ digits.length ≤ 4 then digitsValue? 0 digits else none

/-- The variable with a given name that is truncated to a positive number of code points. -/
def buildTruncated (start : Nat) (text name digits : Text) : Except BuildFault VarSpec :=
  match numberOf? digits with
  | none => .error (.defect (.badLength start text digits))
  | some count =>
      if count = 0 then .error (.defect (.badLength start text digits))
      else do
        let modifier ← (Modifier.truncateTo count).mapError .refused
        (named start text name modifier).mapError .defect

def build (start : Nat) (text : Text) : Except BuildFault VarSpec :=
  if text.getLast? = some (.scalar '*') then
    let name := text.dropLast
    if .scalar ':' ∈ name then .error (.defect (.truncatedExplode start text))
    else (named start text name .explode).mapError .defect
  else
    match text.cut? (.scalar ':') with
    | none => (named start text text .plain).mapError .defect
    | some (name, digits) => buildTruncated start text name digits

def buildAll (position : Nat) (body : Text) (start : Nat) :
    List Text → Except BuildFault (List VarSpec)
  | [] => .ok []
  | candidate :: rest =>
      if candidate.isEmpty then .error (.defect (.emptySpec position body start))
      else do
        let spec ← build start candidate
        let specs ← buildAll position body (start + candidate.length + 1) rest
        return spec :: specs

end VarSpec

def Expression.build (position : Nat) (body : Text) : Except BuildFault Expression :=
  if body.isEmpty then .error (.defect (.emptyBody position))
  else
    let (operator, list) := splitOperator body
    if list.isEmpty then .error (.defect (.noVariables position body))
    else do
      let specs ← VarSpec.buildAll position body (position + 1 + operator.glyph.length)
        (List.splitOn (.scalar ',') list)
      (Expression.ofSpecs operator specs).mapError .refused

def Component.buildAll (position : Nat) : Text → Except BuildFault (List Component)
  | [] => .ok []
  | point :: rest =>
      if point = .scalar '}' then .error (.defect (.strayClose position))
      else if point = .scalar '{' then
        match closed : Text.cut? (.scalar '}') rest with
        | none => .error (.defect (.unclosed position (point :: rest)))
        | some (body, after) => do
            have : after.length < rest.length + 1 := by
              have := Text.cut?_length closed
              omega
            let expression ← Expression.build position body
            let components ← buildAll (position + body.length + 2) after
            return .expression expression :: components
      else do
        let run := rest.takeWhile isLiteralPoint
        have : (rest.dropWhile isLiteralPoint).length < rest.length + 1 :=
          Nat.lt_succ_of_le (List.dropWhile_suffix isLiteralPoint).length_le
        let components ← buildAll (position + run.length + 1) (rest.dropWhile isLiteralPoint)
        return .literal (point :: run) :: components
termination_by text => text.length

-- The constructors do refuse what is out of their range.
example : Modifier.truncateTo 10000 = .error (.lengthOutOfRange 10000) := by rfl

namespace VarSpec

theorem maxLengthOf?_eq (digits : Text) :
    maxLengthOf? digits = (numberOf? digits).bind MaxLength.ofNat? := by
  rw [maxLengthOf?, numberOf?]
  split <;> rfl

theorem le_of_numberOf? {digits : Text} {count : Nat} (denoted : numberOf? digits = some count) :
    count ≤ 9999 := by
  unfold numberOf? at denoted
  split at denoted
  · next bounds =>
      obtain ⟨values, rfl, rfl⟩ := Grammar.exists_digits_of_digitsValue? denoted
      rw [List.length_map] at bounds
      exact Grammar.decimal_le bounds.2
  · contradiction

theorem truncateTo_eq {count : Nat} (positive : 1 ≤ count) (bounded : count ≤ 9999) :
    MaxLength.ofNat? count = some ⟨count, positive, bounded⟩ ∧
      Modifier.truncateTo count = .ok (.truncate ⟨count, positive, bounded⟩) := by
  have permitted : MaxLength.ofNat? count = some ⟨count, positive, bounded⟩ :=
    dif_pos ⟨positive, bounded⟩
  refine ⟨permitted, ?_⟩
  rw [← Int.ofNat_eq_natCast, Modifier.truncateTo, permitted]

theorem buildTruncated_eq (start : Nat) (text name digits : Text) :
    buildTruncated start text name digits =
      (match maxLengthOf? digits with
        | none => Except.error (Defect.badLength start text digits)
        | some length => named start text name (.truncate length)).mapError .defect := by
  rw [buildTruncated, maxLengthOf?_eq]
  cases denoted : numberOf? digits with
  | none => rfl
  | some count =>
      by_cases zero : count = 0
      · subst zero
        rfl
      · obtain ⟨permitted, built⟩ :=
          truncateTo_eq (Nat.pos_of_ne_zero zero) (le_of_numberOf? denoted)
        rw [Option.bind_some, permitted]
        simp only [if_neg zero, built]
        rfl

theorem build_eq (start : Nat) (text : Text) :
    build start text = (read start text).mapError .defect := by
  unfold build read
  split
  · dsimp only
    split <;> rfl
  · cases text.cut? (.scalar ':') with
    | none => rfl
    | some parts => exact buildTruncated_eq start text parts.1 parts.2

theorem buildAll_eq (position : Nat) (body : Text) (start : Nat) (candidates : List Text) :
    buildAll position body start candidates =
      (readAll position body start candidates).mapError .defect := by
  induction candidates generalizing start with
  | nil => rfl
  | cons candidate rest inductionHypothesis =>
      rw [buildAll, readAll]
      split
      · rfl
      · rw [build_eq, inductionHypothesis, Outcome.mapError_bind]
        simp only [Outcome.mapError_bind]
        rfl

end VarSpec

theorem Expression.build_eq (position : Nat) (body : Text) :
    build position body = (read position body).mapError .defect := by
  rcases split : splitOperator body with ⟨operator, list⟩
  simp only [build, read, split]
  split
  · rfl
  · split
    · rfl
    · rw [VarSpec.buildAll_eq]
      cases accepted : VarSpec.readAll position body (position + 1 + operator.glyph.length)
          (List.splitOn (.scalar ',') list) with
      | error defect => rfl
      | ok specs =>
          -- There is a variable for every candidate, and at least one candidate.
          have nonempty : specs ≠ [] := by
            obtain ⟨listed, written, rfl⟩ := VarSpec.readAll_sound accepted
            rintro none
            rw [List.map_eq_nil_iff] at none
            rw [none, List.map_nil] at written
            exact List.splitOn_ne_nil _ _ written.symm
          simp only [Outcome.mapError_ok, Outcome.ok_bind, dif_pos nonempty]
          rw [ofSpecs, ofSpecs?, dif_pos nonempty]
          rfl

/-- No constructor refuses: building a template is reading it. -/
theorem Component.buildAll_eq (position : Nat) (text : Text) :
    buildAll position text = (readAll position text).mapError .defect := by
  fun_induction readAll position text with
  | case1 =>
      rw [buildAll]
      rfl
  | case2 position rest =>
      rw [buildAll, if_pos rfl]
      rfl
  | case3 position rest uncut notClose =>
      rw [buildAll, if_neg notClose, if_pos rfl]
      split
      · rfl
      · simp_all
  | case4 position rest body after cut _ notClose inductionHypothesis =>
      rw [buildAll, if_neg notClose, if_pos rfl]
      split
      · simp_all
      · next foundBody foundAfter found =>
          rw [cut, Option.some.injEq, Prod.mk.injEq] at found
          obtain ⟨rfl, rfl⟩ := found
          simp only [Expression.build_eq, inductionHypothesis, Outcome.mapError_bind]
          rfl
  | case5 position point rest notClose notOpen run _ inductionHypothesis =>
      rw [buildAll, if_neg notClose, if_neg notOpen]
      simp only [Outcome.mapError_bind]
      exact congrArg (· >>= _) inductionHypothesis

end UriTemplate
