import UriTemplate.Template.Basic
import UriTemplate.Proofs.Outcome
import UriTemplate.Proofs.Text.Marks

/-!
How the reader goes through a text.

A text is empty, or it starts with a closing brace, an opening brace that is never
closed, an expression, or a maximal run without braces.  There is one equation of
the reader for each of these shapes, and `scanInduction` is the induction that
goes with them.
-/

namespace UriTemplate.Component

/-- No literal goes on into the text. -/
def EndsLiteral (text : Text) : Prop :=
  ∀ point ∈ text.head?, isLiteralPoint point = false

theorem isLiteralPoint_eq_true_iff (point : CodePoint) :
    isLiteralPoint point = true ↔ point ≠ .scalar '{' ∧ point ≠ .scalar '}' := by
  simp [isLiteralPoint]

@[simp]
theorem endsLiteral_nil : EndsLiteral [] := by
  simp [EndsLiteral]

@[simp]
theorem endsLiteral_open (rest : Text) : EndsLiteral (.scalar '{' :: rest) := by
  simp [EndsLiteral, isLiteralPoint]

theorem endsLiteral_dropWhile (text : Text) :
    EndsLiteral (text.dropWhile isLiteralPoint) := by
  intro point first
  have stopped := List.head?_dropWhile_not isLiteralPoint text
  cases rest : text.dropWhile isLiteralPoint with
  | nil => simp [rest] at first
  | cons head tail =>
      rw [rest] at first stopped
      simp only [List.head?_cons, Option.mem_def, Option.some.injEq] at first
      subst point
      simpa using stopped

theorem takeWhile_append_of_endsLiteral {run after : Text}
    (plain : ∀ point ∈ run, isLiteralPoint point = true) (ends : EndsLiteral after) :
    (run ++ after).takeWhile isLiteralPoint = run := by
  rw [List.takeWhile_append_of_pos plain]
  cases after with
  | nil => simp
  | cons point rest => simp [ends point (by simp)]

theorem dropWhile_append_of_endsLiteral {run after : Text}
    (plain : ∀ point ∈ run, isLiteralPoint point = true) (ends : EndsLiteral after) :
    (run ++ after).dropWhile isLiteralPoint = after := by
  rw [List.dropWhile_append_of_pos plain]
  cases after with
  | nil => simp
  | cons point rest => simp [ends point (by simp)]

@[simp]
theorem readAll_nil (position : Nat) : readAll position [] = .ok [] := by
  rw [readAll]

@[simp]
theorem readAll_close (position : Nat) (rest : Text) :
    readAll position (.scalar '}' :: rest) = .error (.strayClose position) := by
  rw [readAll]
  simp

theorem readAll_unclosed (position : Nat) {rest : Text} (neverClosed : .scalar '}' ∉ rest) :
    readAll position (.scalar '{' :: rest) =
      .error (.unclosed position (.scalar '{' :: rest)) := by
  rw [readAll]
  have uncut := Text.cut?_eq_none_iff.mpr neverClosed
  simp only [CodePoint.scalar.injEq, Char.reduceEq, if_false, if_true]
  split
  · rfl
  · simp_all

theorem readAll_expression (position : Nat) {body : Text} (after : Text)
    (closed : .scalar '}' ∉ body) :
    readAll position (.scalar '{' :: (body ++ .scalar '}' :: after)) = do
      let expression ← Expression.read position body
      let components ← readAll (position + body.length + 2) after
      return .expression expression :: components := by
  rw [readAll]
  have cut := Text.cut?_append_cons closed after
  simp only [CodePoint.scalar.injEq, Char.reduceEq, if_false, if_true]
  split
  · simp_all
  · next foundBody foundAfter found =>
      rw [cut, Option.some.injEq, Prod.mk.injEq] at found
      obtain ⟨rfl, rfl⟩ := found
      rfl

theorem readAll_run (position : Nat) {run after : Text} (nonempty : run ≠ [])
    (plain : ∀ point ∈ run, isLiteralPoint point = true) (ends : EndsLiteral after) :
    readAll position (run ++ after) = do
      let components ← readAll (position + run.length) after
      return .literal run :: components := by
  cases run with
  | nil => contradiction
  | cons point rest =>
      have first := (isLiteralPoint_eq_true_iff point).mp (plain point (by simp))
      have others : ∀ other ∈ rest, isLiteralPoint other = true :=
        fun other among => plain other (List.mem_cons_of_mem point among)
      rw [List.cons_append, readAll]
      simp only [first.1, first.2, if_false,
        takeWhile_append_of_endsLiteral others ends,
        dropWhile_append_of_endsLiteral others ends]
      rfl

/-- Induction along the way in which a text is read. -/
@[elab_as_elim]
theorem scanInduction {motive : Text → Prop}
    (nil : motive [])
    (close : ∀ rest, motive (.scalar '}' :: rest))
    (unclosed : ∀ rest, .scalar '}' ∉ rest → motive (.scalar '{' :: rest))
    (expression : ∀ body after, .scalar '}' ∉ body → motive after →
      motive (.scalar '{' :: (body ++ .scalar '}' :: after)))
    (run : ∀ run after, run ≠ [] → (∀ point ∈ run, isLiteralPoint point = true) →
      EndsLiteral after → motive after → motive (run ++ after))
    (text : Text) : motive text := by
  induction bound : text.length using Nat.strongRecOn generalizing text with
  | ind size inductionHypothesis =>
      cases text with
      | nil => exact nil
      | cons point rest =>
          by_cases isClose : point = .scalar '}'
          · rw [isClose]
            exact close rest
          by_cases isOpen : point = .scalar '{'
          · rw [isOpen]
            cases cut : Text.cut? (.scalar '}') rest with
            | none => exact unclosed rest (Text.cut?_eq_none_iff.mp cut)
            | some parts =>
                obtain ⟨shape, closed⟩ := Text.cut?_eq_some_iff.mp cut
                rw [shape]
                refine expression parts.1 parts.2 closed
                  (inductionHypothesis parts.2.length ?_ parts.2 rfl)
                rw [← bound, shape]
                simp
                omega
          · have literal : isLiteralPoint point = true :=
              (isLiteralPoint_eq_true_iff point).mpr ⟨isOpen, isClose⟩
            have remaining : motive (rest.dropWhile isLiteralPoint) := by
              refine inductionHypothesis (rest.dropWhile isLiteralPoint).length ?_ _ rfl
              have shorter := (List.dropWhile_suffix isLiteralPoint (l := rest)).length_le
              simp only [← bound, List.length_cons]
              omega
            have whole : point :: rest =
                (point :: rest.takeWhile isLiteralPoint) ++
                  rest.dropWhile isLiteralPoint := by
              simp
            rw [whole]
            refine run _ _ (by simp) ?_ (endsLiteral_dropWhile rest) remaining
            intro other among
            rcases List.mem_cons.mp among with rfl | inRun
            · exact literal
            · exact List.all_eq_true.mp List.all_takeWhile other inRun

end UriTemplate.Component

namespace UriTemplate.Template

theorem ofText_eq_ok_iff {raw : Text} {template : Template} :
    ofText raw = .ok template ↔
      template.raw = raw ∧ Component.readAll 0 raw = .ok template.components := by
  unfold ofText
  constructor
  · intro read
    split at read
    · next components reads =>
        cases read
        exact ⟨rfl, reads⟩
    · contradiction
  · obtain ⟨text, components, reads⟩ := template
    rintro ⟨rfl, _⟩
    split
    · next others othersRead =>
        rw [reads, Except.ok.injEq] at othersRead
        subst othersRead
        rfl
    · next defect rejected =>
        rw [reads] at rejected
        contradiction

theorem ofText_eq_error_iff {raw : Text} {defect : Defect} :
    ofText raw = .error defect ↔ Component.readAll 0 raw = .error defect := by
  unfold ofText
  split
  · next components reads => simp [reads]
  · next other rejected => simp [rejected]

theorem ofText_raw (template : Template) : ofText template.raw = .ok template :=
  ofText_eq_ok_iff.mpr ⟨rfl, template.reads⟩

end UriTemplate.Template
