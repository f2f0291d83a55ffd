import UriTemplate.Expansion.Basic
import UriTemplate.Proofs.Template.Shifting
import Mathlib.Control.Monad.Basic

/-!
Reading one text after another.

`Template.ofText_append` says what becomes of two texts when they are put
together: their components are put together too, except that a literal at the
seam goes on; a defect of the second is found where it is now; and a defect of the
first stays what it is, unless it was an expression that was left open.  The seam
is the only place where the reader may look from the first text into the second,
and it does so in a literal alone.
-/

namespace UriTemplate

namespace Component

/-- Components after others, with the literals on both sides of the seam made one. -/
def fuse : List Component → List Component → List Component
  | [], after => after
  | [.literal front], .literal back :: after => .literal (front ++ back) :: after
  | component :: before, after => component :: fuse before after

theorem fuse_expression (parsed : Expression) (before after : List Component) :
    fuse (.expression parsed :: before) after = .expression parsed :: fuse before after := by
  simp [fuse]

theorem fuse_cons_cons (component next : Component) (before after : List Component) :
    fuse (component :: next :: before) after = component :: fuse (next :: before) after := by
  simp [fuse]

theorem fuse_literal_literal (front back : Text) (after : List Component) :
    fuse [.literal front] (.literal back :: after) = .literal (front ++ back) :: after := by
  simp [fuse]

theorem fuse_literal_nil (front : Text) : fuse [.literal front] [] = [.literal front] := by
  simp [fuse]

theorem fuse_literal_expression (front : Text) (parsed : Expression) (after : List Component) :
    fuse [.literal front] (.expression parsed :: after) =
      .literal front :: .expression parsed :: after := by
  simp [fuse]

theorem expandAll_fuse (environment : Environment) (before after : List Component) :
    expandAll environment (fuse before after) =
      expandAll environment before ++ expandAll environment after := by
  fun_induction fuse before after with
  | case1 after => rfl
  | case2 front back after => simp [expandAll, expand]
  | case3 component before after _ inductionHypothesis =>
      simp only [expandAll, List.flatMap_cons, List.append_assoc] at inductionHypothesis ⊢
      rw [inductionHypothesis]

theorem endsLiteral_append {text : Text} (nonempty : text ≠ []) (ends : EndsLiteral text)
    (more : Text) : EndsLiteral (text ++ more) := by
  cases text with
  | nil => contradiction
  | cons point rest => exact ends

theorem ne_nil_of_readAll {position : Nat} {text : Text} {components : List Component}
    (nonempty : text ≠ []) (accepted : readAll position text = .ok components) :
    components ≠ [] := by
  rintro rfl
  induction text using scanInduction with
  | nil => contradiction
  | close rest => simp at accepted
  | unclosed rest neverClosed => simp [readAll_unclosed position neverClosed] at accepted
  | expression body after closed _ =>
      rw [readAll_expression position after closed] at accepted
      obtain ⟨parsed, _, continued⟩ := Outcome.bind_eq_ok_iff.mp accepted
      obtain ⟨others, _, combined⟩ := Outcome.bind_eq_ok_iff.mp continued
      simp at combined
  | run run after runNonempty plain ends _ =>
      rw [readAll_run position runNonempty plain ends] at accepted
      obtain ⟨others, _, combined⟩ := Outcome.bind_eq_ok_iff.mp accepted
      simp at combined

/-- A run in front of any text is read on into the literal that the text starts with. -/
theorem readAll_run_append (position : Nat) {run : Text} (nonempty : run ≠ [])
    (plain : ∀ point ∈ run, isLiteralPoint point = true) (back : Text) :
    readAll position (run ++ back) =
      (readAll (position + run.length) back).map (fuse [.literal run]) := by
  induction back using scanInduction with
  | nil =>
      rw [readAll_run position nonempty plain endsLiteral_nil, readAll_nil]
      simp [Except.map, fuse_literal_nil]
  | close rest =>
      have ends : EndsLiteral (.scalar '}' :: rest) := by simp [EndsLiteral, isLiteralPoint]
      rw [readAll_run position nonempty plain ends, readAll_close]
      rfl
  | unclosed rest neverClosed =>
      rw [readAll_run position nonempty plain (endsLiteral_open rest),
        readAll_unclosed _ neverClosed]
      rfl
  | expression body after closed _ =>
      rw [readAll_run position nonempty plain (endsLiteral_open _),
        readAll_expression _ after closed]
      cases Expression.read (position + run.length) body with
      | error defect => rfl
      | ok parsed =>
          cases readAll (position + run.length + body.length + 2) after with
          | error defect => rfl
          | ok components => simp [Except.map, fuse_literal_expression]
  | run next after nextNonempty nextPlain ends _ =>
      have wholePlain : ∀ point ∈ run ++ next, isLiteralPoint point = true := by
        intro point membership
        rcases List.mem_append.mp membership with inRun | inNext
        · exact plain point inRun
        · exact nextPlain point inNext
      have wholeNonempty : run ++ next ≠ [] := by simp [nonempty]
      rw [← List.append_assoc, readAll_run position wholeNonempty wholePlain ends,
        readAll_run _ nextNonempty nextPlain ends, List.length_append, ← Nat.add_assoc]
      cases readAll (position + run.length + next.length) after with
      | error defect => rfl
      | ok components => simp [Except.map, fuse_literal_literal]

/-- After an accepted text the reader goes on as if it started there. -/
theorem readAll_append_of_ok {position : Nat} {front : Text} {before : List Component}
    (accepted : readAll position front = .ok before) (back : Text) :
    readAll position (front ++ back) =
      (readAll (position + front.length) back).map (fuse before) := by
  induction front using scanInduction generalizing position before with
  | nil =>
      rw [readAll_nil] at accepted
      cases accepted
      cases read : readAll position back <;> simp [read, Except.map, fuse]
  | close rest => simp at accepted
  | unclosed rest neverClosed => simp [readAll_unclosed position neverClosed] at accepted
  | expression body after closed inductionHypothesis =>
      rw [readAll_expression position after closed] at accepted
      obtain ⟨parsed, readBody, continued⟩ := Outcome.bind_eq_ok_iff.mp accepted
      obtain ⟨others, readAfter, combined⟩ := Outcome.bind_eq_ok_iff.mp continued
      cases combined
      have place : position + (.scalar '{' :: (body ++ .scalar '}' :: after) : Text).length =
          position + body.length + 2 + after.length := by
        simp
        omega
      rw [List.cons_append, List.append_assoc, List.cons_append,
        readAll_expression position (after ++ back) closed, readBody,
        inductionHypothesis readAfter, place]
      cases readAll (position + body.length + 2 + after.length) back with
      | error defect => rfl
      | ok components => simp [Except.map, fuse_expression]
  | run run after nonempty plain ends inductionHypothesis =>
      rw [readAll_run position nonempty plain ends] at accepted
      obtain ⟨others, readAfter, combined⟩ := Outcome.bind_eq_ok_iff.mp accepted
      cases combined
      by_cases last : after = []
      · subst last
        rw [readAll_nil] at readAfter
        cases readAfter
        rw [List.append_nil]
        exact readAll_run_append position nonempty plain back
      · have othersNonempty := ne_nil_of_readAll last readAfter
        rw [List.append_assoc,
          readAll_run position nonempty plain (endsLiteral_append last ends back),
          inductionHypothesis readAfter, List.length_append, ← Nat.add_assoc]
        cases others with
        | nil => contradiction
        | cons next rest =>
            cases readAll (position + run.length + after.length) back with
            | error defect => rfl
            | ok components => simp [Except.map, fuse_cons_cons]

/-- A defect is found before anything after it is looked at, but for a brace left open. -/
theorem readAll_append_of_error {position : Nat} {front : Text} {defect : Defect}
    (rejected : readAll position front = .error defect)
    (notOpen : ∀ start fragment, defect ≠ .unclosed start fragment) (back : Text) :
    readAll position (front ++ back) = .error defect := by
  induction front using scanInduction generalizing position with
  | nil => simp at rejected
  | close rest =>
      rw [readAll_close] at rejected
      rw [List.cons_append, readAll_close, rejected]
  | unclosed rest neverClosed =>
      rw [readAll_unclosed position neverClosed, Except.error.injEq] at rejected
      exact absurd rejected.symm (notOpen _ _)
  | expression body after closed inductionHypothesis =>
      rw [readAll_expression position after closed] at rejected
      rw [List.cons_append, List.append_assoc, List.cons_append,
        readAll_expression position (after ++ back) closed]
      rcases Outcome.bind_eq_error_iff.mp rejected with atBody | ⟨parsed, readBody, continued⟩
      · rw [atBody]
        rfl
      · rcases Outcome.bind_eq_error_iff.mp continued with later | ⟨others, _, combined⟩
        · rw [readBody, inductionHypothesis later]
          rfl
        · simp at combined
  | run run after nonempty plain ends inductionHypothesis =>
      rw [readAll_run position nonempty plain ends] at rejected
      rcases Outcome.bind_eq_error_iff.mp rejected with later | ⟨others, _, combined⟩
      · have more : after ≠ [] := by
          rintro rfl
          simp at later
        rw [List.append_assoc,
          readAll_run position nonempty plain (endsLiteral_append more ends back),
          inductionHypothesis later]
        rfl
      · simp at combined

end Component

namespace Template

/-- One text after another: what their components, their expansions and their defects become. -/
theorem ofText_append (front back : Text) :
    (∀ left right, ofText front = .ok left → ofText back = .ok right →
      ∃ whole, ofText (front ++ back) = .ok whole ∧
        whole.components = Component.fuse left.components right.components ∧
        ∀ bindings overriding values, coerce (bindings.overlay overriding) = .ok values →
          ∃ first second, left.expand bindings overriding = .ok first ∧
            right.expand bindings overriding = .ok second ∧
            whole.expand bindings overriding = .ok (first ++ second)) ∧
    (∀ left defect, ofText front = .ok left → ofText back = .error defect →
      ∃ moved, ofText (front ++ back) = .error moved ∧
        moved.category = defect.category ∧ moved.fragment = defect.fragment ∧
        moved.position = defect.position + front.length ∧
        ∃ lead, defect.detail = lead ++ Defect.quotation defect.quoted? ∧
          moved.detail = lead ++ Defect.quotation (defect.quoted?.map (· + front.length))) ∧
    ∀ defect, ofText front = .error defect →
      (∀ start fragment, defect ≠ .unclosed start fragment) →
        ofText (front ++ back) = .error defect := by
  refine ⟨?_, ?_, ?_⟩
  · intro left right readFront readBack
    have reads : Component.readAll 0 (front ++ back) =
        .ok (Component.fuse left.components right.components) := by
      rw [Component.readAll_append_of_ok (ofText_eq_ok_iff.mp readFront).2,
        Component.readAll_shift, (ofText_eq_ok_iff.mp readBack).2]
      rfl
    refine ⟨⟨front ++ back, _, reads⟩, ofText_eq_ok_iff.mpr ⟨rfl, reads⟩, rfl, ?_⟩
    intro bindings overriding values coerced
    refine ⟨Component.expandAll values.environment left.components,
      Component.expandAll values.environment right.components, ?_, ?_, ?_⟩
    · simp [expand, coerced]
    · simp [expand, coerced]
    · simp [expand, coerced, Component.expandAll_fuse]
  · intro left defect readFront rejected
    refine ⟨defect.shift front.length, ?_, by simp, by simp, by simp,
      Defect.detail_shift front.length defect⟩
    rw [ofText_eq_error_iff, Component.readAll_append_of_ok (ofText_eq_ok_iff.mp readFront).2,
      Component.readAll_shift, ofText_eq_error_iff.mp rejected]
    rfl
  · intro defect rejected notOpen
    rw [ofText_eq_error_iff] at rejected ⊢
    exact Component.readAll_append_of_error rejected notOpen back

/-- A literal that goes on at the seam, a defect of the second text and a defect of the first. -/
theorem ofText_append_seam :
    (∃ left right whole, ofText "a\x7bx\x7db-" = .ok left ∧ ofText "c\x7by\x7d" = .ok right ∧
      ofText ("a\x7bx\x7db-" ++ Text.ofString "c\x7by\x7d") = .ok whole ∧
      whole.components = Component.fuse left.components right.components ∧
      coerce (Bindings.overlay [("x", .integer 1)] [("y", .text "2")]) =
        .ok [("x", .text ['1']), ("y", .text ['2'])] ∧
      ∃ first second, left.expand [("x", .integer 1)] [("y", .text "2")] = .ok first ∧
        right.expand [("x", .integer 1)] [("y", .text "2")] = .ok second ∧
        whole.expand [("x", .integer 1)] [("y", .text "2")] = .ok (first ++ second)) ∧
    (∃ left defect moved, ofText "a\x7bx\x7d" = .ok left ∧
      ofText "\x7b,y\x7d" = .error defect ∧
      ofText ("a\x7bx\x7d" ++ Text.ofString "\x7b,y\x7d") = .error moved ∧
      moved.position = defect.position + 4) ∧
    ∃ defect, ofText "a\x7bx:0\x7d" = .error defect ∧
      (∀ start fragment, defect ≠ .unclosed start fragment) ∧
      ofText ("a\x7bx:0\x7d" ++ Text.ofString "\x7b") = .error defect := by
  refine ⟨?_, ?_, ?_⟩
  · have readFront : Component.readAll 0 "a\x7bx\x7db-" =
        .ok [.literal "a", .expression ⟨.simple, [⟨"x", .plain⟩], by simp⟩, .literal "b-"] := by
      decide +kernel
    have readBack : Component.readAll 0 "c\x7by\x7d" =
        .ok [.literal "c", .expression ⟨.simple, [⟨"y", .plain⟩], by simp⟩] := by
      decide +kernel
    have left := ofText_raw ⟨_, _, readFront⟩
    have right := ofText_raw ⟨_, _, readBack⟩
    obtain ⟨whole, read, fused, expands⟩ := (ofText_append _ _).1 _ _ left right
    exact ⟨_, _, whole, left, right, read, fused, rfl, expands _ _ _ rfl⟩
  · have readFront : Component.readAll 0 "a\x7bx\x7d" =
        .ok [.literal "a", .expression ⟨.simple, [⟨"x", .plain⟩], by simp⟩] := by
      decide +kernel
    have left := ofText_raw ⟨_, _, readFront⟩
    have rejected : ofText "\x7b,y\x7d" = .error (.emptySpec 0 ",y" 1) := by
      rw [ofText_eq_error_iff]
      decide +kernel
    obtain ⟨moved, read, _, _, place, _⟩ := (ofText_append _ _).2.1 _ _ left rejected
    exact ⟨_, _, moved, left, rejected, read, place⟩
  · have rejected : ofText "a\x7bx:0\x7d" = .error (.badLength 2 "x:0" "0") := by
      rw [ofText_eq_error_iff]
      decide +kernel
    have notOpen : ∀ start fragment,
        Defect.badLength 2 "x:0" "0" ≠ .unclosed start fragment := by
      intro start fragment
      simp
    exact ⟨_, rejected, notOpen, (ofText_append _ _).2.2 _ rejected notOpen⟩

end Template

end UriTemplate
