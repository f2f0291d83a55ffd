import UriTemplate.Proofs.Template.Expressions

/-!
Where the defect of a text is.

A text is rejected at a brace or within an expression, and what stands before that
has been accepted.  `Rejection` lists the ways in which this can happen, and
`Component.rejection_of_readAll` says that there are no others.  A fragment is then
found at the position that goes with it (`Component.readAll_error_located`), with
one exception: for a variable that is missing between commas the fragment is the
expression and the position is where the variable should have been.
-/

namespace UriTemplate

namespace Grammar

def IsVariable (text : Text) : Prop :=
  ∃ listed : Variable, listed.written = text

end Grammar

namespace VarSpec

/-- The number of code points that candidates take up, with a comma after each of them. -/
def width (candidates : List Text) : Nat :=
  (candidates.flatMap (· ++ [.scalar ','])).length

theorem width_cons (candidate : Text) (rest : List Text) :
    width (candidate :: rest) = candidate.length + 1 + width rest := by
  rw [width, List.flatMap_cons, List.length_append, List.length_append, List.length_singleton,
    width]

/-- What is wrong with a variable is found where the variable is. -/
theorem read_error_located {start : Nat} {text : Text} {defect : Defect}
    (rejected : read start text = .error defect) :
    defect.position = start ∧ defect.fragment = text ∧
      (defect.category = .variableName ∨ defect.category = .modifier) := by
  have ofNamed {name : Text} {modifier : Modifier}
      (refused : named start text name modifier = .error defect) :
      defect.position = start ∧ defect.fragment = text ∧
        (defect.category = .variableName ∨ defect.category = .modifier) := by
    unfold named at refused
    split at refused
    · contradiction
    · cases refused
      exact ⟨rfl, rfl, Or.inl rfl⟩
  unfold read at rejected
  split at rejected
  · dsimp only at rejected
    split at rejected
    · cases rejected
      exact ⟨rfl, rfl, Or.inr rfl⟩
    · exact ofNamed rejected
  · split at rejected
    · exact ofNamed rejected
    · split at rejected
      · cases rejected
        exact ⟨rfl, rfl, Or.inr rfl⟩
      · exact ofNamed rejected

/-- The first candidate that is no variable, and what is said of it. -/
theorem exists_candidate_of_readAll {position start : Nat} {body : Text} {candidates : List Text}
    {defect : Defect} (rejected : readAll position body start candidates = .error defect) :
    ∃ earlier candidate later, candidates = earlier ++ candidate :: later ∧
      (∀ other ∈ earlier, Grammar.IsVariable other) ∧
      (candidate = [] ∧ defect = .emptySpec position body (start + width earlier) ∨
        read (start + width earlier) candidate = .error defect) := by
  induction candidates generalizing start with
  | nil => simp [readAll] at rejected
  | cons candidate rest inductionHypothesis =>
      rw [readAll] at rejected
      split at rejected
      · next empty =>
          cases rejected
          refine ⟨[], candidate, rest, rfl, by simp, Or.inl ⟨?_, rfl⟩⟩
          exact List.isEmpty_iff.mp empty
      · rcases Outcome.bind_eq_error_iff.mp rejected with here | ⟨spec, readFirst, continued⟩
        · exact ⟨[], candidate, rest, rfl, by simp, Or.inr here⟩
        · rcases Outcome.bind_eq_error_iff.mp continued with later | ⟨others, _, combined⟩
          · obtain ⟨earlier, found, after, rfl, good, cause⟩ := inductionHypothesis later
            have place : start + candidate.length + 1 + width earlier =
                start + width (candidate :: earlier) := by
              rw [width_cons]
              omega
            rw [place] at cause
            refine ⟨candidate :: earlier, found, after, rfl, ?_, cause⟩
            rw [List.forall_mem_cons]
            obtain ⟨listed, written, _⟩ := read_sound readFirst
            exact ⟨⟨listed, written⟩, good⟩
          · contradiction

end VarSpec

/-- An expression in a text: what stands before it is accepted, and its body reaches to the first
closing brace. -/
structure Site (raw : Text) where
  before : Text
  body : Text
  after : Text
  spelled : before ++ .scalar '{' :: (body ++ .scalar '}' :: after) = raw
  closed : .scalar '}' ∉ body
  accepted : ∃ components, Component.readAll 0 before = .ok components

/-- A place in the list of such an expression: the variables before it are good. -/
structure Slot (raw : Text) extends Site raw where
  earlier : List Text
  candidate : Text
  later : List Text
  listed : List.splitOn (.scalar ',') (Expression.splitOperator body).2 =
    earlier ++ candidate :: later
  good : ∀ other ∈ earlier, Grammar.IsVariable other

namespace Site

variable {raw : Text}

def opening (site : Site raw) : Nat :=
  site.before.length

/-- Whether what stands between the braces is no expression. -/
def IsRejected (site : Site raw) : Prop :=
  ¬∃ braced : Grammar.Braced, braced.body = site.body

theorem before_append (site : Site raw) :
    site.before ++ (Defect.braced site.body ++ site.after) = raw := by
  have spelled := site.spelled
  simp only [Defect.braced, List.cons_append, List.append_assoc, List.nil_append]
  exact spelled

end Site

namespace Slot

variable {raw : Text}

def glyph (slot : Slot raw) : Text :=
  (Expression.splitOperator slot.body).1.glyph

/-- What stands before the candidate. -/
def front (slot : Slot raw) : Text :=
  slot.before ++ .scalar '{' :: (slot.glyph ++ slot.earlier.flatMap (· ++ [.scalar ',']))

/-- What stands after it, to the end of the text. -/
def back (slot : Slot raw) : Text :=
  slot.later.flatMap ([.scalar ','] ++ ·) ++ .scalar '}' :: slot.after

def start (slot : Slot raw) : Nat :=
  slot.front.length

theorem front_append (slot : Slot raw) : slot.front ++ (slot.candidate ++ slot.back) = raw := by
  have list : List.intercalate [.scalar ','] (slot.earlier ++ slot.candidate :: slot.later) =
      (Expression.splitOperator slot.body).2 := by
    rw [← slot.listed, List.intercalate_splitOn]
  have body := Expression.splitOperator_append slot.body
  rw [← list, Text.intercalate_append_cons] at body
  have spelled := slot.spelled
  rw [← body] at spelled
  simp only [front, glyph, back, List.append_assoc, List.cons_append] at spelled ⊢
  exact spelled

theorem drop_start (slot : Slot raw) : raw.drop slot.start = slot.candidate ++ slot.back :=
  (congrArg (List.drop slot.front.length) slot.front_append.symm).trans List.drop_left

theorem back_ne_nil (slot : Slot raw) : slot.back ≠ [] := by
  rw [back]
  exact List.append_ne_nil_of_right_ne_nil _ (List.cons_ne_nil _ _)

theorem start_eq (slot : Slot raw) :
    slot.start = slot.opening + 1 + slot.glyph.length + VarSpec.width slot.earlier := by
  rw [start, front, Site.opening, VarSpec.width]
  simp only [List.length_append, List.length_cons]
  omega

theorem opening_lt_start (slot : Slot raw) : slot.opening < slot.start := by
  rw [slot.start_eq]
  omega

/-- The candidate is followed by a comma or by the closing brace. -/
theorem head?_back_eq (slot : Slot raw) :
    slot.back.head? = some (.scalar ',') ∨ slot.back.head? = some (.scalar '}') := by
  rw [back]
  cases slot.later with
  | nil => exact Or.inr rfl
  | cons next rest => exact Or.inl rfl

theorem head?_back (slot : Slot raw) : slot.back.head? ≠ some (.scalar '{') := by
  rcases slot.head?_back_eq with comma | close
  · simp [comma]
  · simp [close]

end Slot

/-- The ways in which a text can be rejected. -/
inductive Rejection (raw : Text) : Defect → Prop where
  | strayClose {before after : Text} :
      before ++ .scalar '}' :: after = raw → Rejection raw (.strayClose before.length)
  | unclosed {before after : Text} :
      before ++ .scalar '{' :: after = raw → .scalar '}' ∉ after →
      (∃ components, Component.readAll 0 before = .ok components) →
      Rejection raw (.unclosed before.length (.scalar '{' :: after))
  | emptyBody (site : Site raw) : site.IsRejected → site.body = [] →
      Rejection raw (.emptyBody site.opening)
  | noVariables (site : Site raw) : site.IsRejected →
      Rejection raw (.noVariables site.opening site.body)
  | emptySpec (slot : Slot raw) : slot.IsRejected → slot.candidate = [] →
      Rejection raw (.emptySpec slot.opening slot.body slot.start)
  | spec (slot : Slot raw) {defect : Defect} :
      VarSpec.read slot.start slot.candidate = .error defect → Rejection raw defect

theorem Site.rejection_of_read {raw : Text} (site : Site raw) {defect : Defect}
    (rejected : Expression.read site.opening site.body = .error defect) :
    Rejection raw defect := by
  have refused : site.IsRejected := by
    rintro ⟨braced, spelled⟩
    rw [← spelled, Expression.read_complete] at rejected
    contradiction
  simp only [Expression.read] at rejected
  split at rejected
  · next empty =>
      cases rejected
      exact .emptyBody site refused (List.isEmpty_iff.mp empty)
  · split at rejected
    · cases rejected
      exact .noVariables site refused
    · rcases Outcome.bind_eq_error_iff.mp rejected with inList | ⟨specs, readSpecs, combined⟩
      · obtain ⟨earlier, candidate, later, listed, good, cause⟩ :=
          VarSpec.exists_candidate_of_readAll inList
        let slot : Slot raw := ⟨site, earlier, candidate, later, listed, good⟩
        have place : site.opening + 1 + (Expression.splitOperator site.body).1.glyph.length +
            VarSpec.width earlier = slot.start := slot.start_eq.symm
        rw [place] at cause
        rcases cause with ⟨empty, rfl⟩ | wrong
        · exact .emptySpec slot refused empty
        · exact .spec slot wrong
      · -- A list has at least one candidate, so it cannot come out empty.
        split at combined
        · contradiction
        · next none =>
            obtain ⟨listed, written, rfl⟩ := VarSpec.readAll_sound readSpecs
            rw [ne_eq, not_not, List.map_eq_nil_iff] at none
            rw [none, List.map_nil] at written
            exact absurd written.symm (List.splitOn_ne_nil _ _)

namespace Component

theorem endsLiteral_of_append {front back : Text} (ends : EndsLiteral (front ++ back)) :
    EndsLiteral front := by
  cases front with
  | nil => exact endsLiteral_nil
  | cons point rest => exact ends

/-- What is rejected has an accepted part, and then a brace at which reading stops. -/
theorem exists_stop_of_readAll {position : Nat} {text : Text} {defect : Defect}
    (rejected : readAll position text = .error defect) :
    ∃ before after, before ++ after = text ∧
      (∃ components, readAll position before = .ok components) ∧
      ((∃ rest, after = .scalar '}' :: rest ∧
          defect = .strayClose (position + before.length)) ∨
        (∃ rest, after = .scalar '{' :: rest ∧ .scalar '}' ∉ rest ∧
          defect = .unclosed (position + before.length) after) ∨
        ∃ body rest, after = .scalar '{' :: (body ++ .scalar '}' :: rest) ∧
          .scalar '}' ∉ body ∧
          Expression.read (position + before.length) body = .error defect) := by
  -- Along the way in which the text is read: what is read of it goes to the accepted part.
  induction text using scanInduction generalizing position with
  | nil => simp at rejected
  | close rest =>
      rw [readAll_close, Except.error.injEq] at rejected
      subst rejected
      exact ⟨[], _, rfl, ⟨[], readAll_nil position⟩, Or.inl ⟨rest, rfl, rfl⟩⟩
  | unclosed rest neverClosed =>
      rw [readAll_unclosed position neverClosed, Except.error.injEq] at rejected
      subst rejected
      refine ⟨[], _, rfl, ⟨[], readAll_nil position⟩, Or.inr (Or.inl ?_)⟩
      exact ⟨rest, rfl, neverClosed, rfl⟩
  | expression body after closed inductionHypothesis =>
      rw [readAll_expression position after closed] at rejected
      rcases Outcome.bind_eq_error_iff.mp rejected with atBody | ⟨parsed, readBody, continued⟩
      · refine ⟨[], _, rfl, ⟨[], readAll_nil position⟩, Or.inr (Or.inr ?_)⟩
        exact ⟨body, after, rfl, closed, atBody⟩
      · rcases Outcome.bind_eq_error_iff.mp continued with later | ⟨others, _, combined⟩
        · obtain ⟨before, stop, rfl, ⟨components, accepted⟩, cause⟩ := inductionHypothesis later
          refine ⟨.scalar '{' :: (body ++ .scalar '}' :: before), stop, by simp, ?_, ?_⟩
          · refine ⟨.expression parsed :: components, ?_⟩
            rw [readAll_expression position before closed, readBody, Outcome.ok_bind, accepted]
            rfl
          · have place : position + body.length + 2 + before.length =
                position + (.scalar '{' :: (body ++ .scalar '}' :: before) : Text).length := by
              simp only [List.length_cons, List.length_append]
              omega
            rw [place] at cause
            exact cause
        · contradiction
  | run run after nonempty plain ends inductionHypothesis =>
      rw [readAll_run position nonempty plain ends] at rejected
      rcases Outcome.bind_eq_error_iff.mp rejected with later | ⟨others, _, combined⟩
      · obtain ⟨before, stop, rfl, ⟨components, accepted⟩, cause⟩ := inductionHypothesis later
        refine ⟨run ++ before, stop, List.append_assoc _ _ _, ?_, ?_⟩
        · refine ⟨.literal run :: components, ?_⟩
          rw [readAll_run position nonempty plain (endsLiteral_of_append ends), accepted]
          rfl
        · rw [List.length_append, ← Nat.add_assoc]
          exact cause
      · contradiction

theorem rejection_of_readAll {raw : Text} {defect : Defect}
    (rejected : readAll 0 raw = .error defect) : Rejection raw defect := by
  obtain ⟨before, after, rfl, accepted, cause⟩ := exists_stop_of_readAll rejected
  rw [Nat.zero_add] at cause
  rcases cause with ⟨rest, rfl, rfl⟩ | ⟨rest, rfl, neverClosed, rfl⟩ |
    ⟨body, rest, rfl, closed, wrong⟩
  · exact .strayClose rfl
  · exact .unclosed rfl neverClosed accepted
  · exact Site.rejection_of_read ⟨before, body, rest, rfl, closed, accepted⟩ wrong

/-- Whether the brace at a position opens what is rejected: an expression, or what is never
closed. -/
def OpensRejected (raw : Text) (position : Nat) : Prop :=
  (∃ before after, before ++ .scalar '{' :: after = raw ∧ .scalar '}' ∉ after ∧
    (∃ components, readAll 0 before = .ok components) ∧ before.length = position) ∨
  ∃ site : Site raw, site.IsRejected ∧ site.opening = position

/-- Whether a text at a position is the first in the list of an expression to be no variable. -/
def StartsRejected (raw : Text) (position : Nat) (text : Text) : Prop :=
  ∃ slot : Slot raw, ¬Grammar.IsVariable slot.candidate ∧ slot.start = position ∧
    slot.candidate = text

end Component

/-- Whether the fragment of a defect stands at its position: at the opening brace for a structural
defect, at the start of the variable for a name or a modifier. -/
structure Defect.IsLocated (raw : Text) (defect : Defect) : Prop where
  found : (raw.drop defect.position).take defect.fragment.length = defect.fragment
  structural :
    defect.category = .expression ∨ (∃ start fragment, defect = .unclosed start fragment) →
      Component.OpensRejected raw defect.position
  variable_start : defect.category = .variableName ∨ defect.category = .modifier →
    Component.StartsRejected raw defect.position defect.fragment

namespace Component

theorem take_drop_length {front back raw : Text} (part : Text)
    (spelled : front ++ (part ++ back) = raw) :
    (raw.drop front.length).take part.length = part := by
  rw [← spelled, List.drop_left, List.take_left]

theorem length_lt {front rest raw : Text} (spelled : front ++ rest = raw) (nonempty : rest ≠ []) :
    front.length < raw.length := by
  rw [← spelled, List.length_append]
  exact Nat.lt_add_of_pos_right (List.length_pos_of_ne_nil nonempty)

theorem isLocated_strayClose {before after raw : Text}
    (spelled : before ++ .scalar '}' :: after = raw) :
    (Defect.strayClose before.length).IsLocated raw where
  found := take_drop_length [.scalar '}'] spelled
  structural := by simp [Defect.category]
  variable_start := by simp [Defect.category]

theorem isLocated_unclosed {before after raw : Text}
    (spelled : before ++ .scalar '{' :: after = raw) (neverClosed : .scalar '}' ∉ after)
    (accepted : ∃ components, readAll 0 before = .ok components) :
    (Defect.unclosed before.length (.scalar '{' :: after)).IsLocated raw where
  found := by
    apply take_drop_length
    rw [List.append_nil]
    exact spelled
  structural := by
    intro _
    exact Or.inl ⟨before, after, spelled, neverClosed, accepted, rfl⟩
  variable_start := by simp [Defect.category]

theorem isLocated_of_site {raw : Text} {defect : Defect} (site : Site raw)
    (refused : site.IsRejected) (category : defect.category = .expression)
    (position : defect.position = site.opening)
    (fragment : defect.fragment = Defect.braced site.body) : defect.IsLocated raw where
  found := by
    rw [position, fragment]
    exact take_drop_length _ site.before_append
  structural := by
    intro _
    rw [position]
    exact Or.inr ⟨site, refused, rfl⟩
  variable_start := by simp [category]

theorem isLocated_of_slot {raw : Text} {defect : Defect} (slot : Slot raw)
    (wrong : VarSpec.read slot.start slot.candidate = .error defect) : defect.IsLocated raw := by
  obtain ⟨position, fragment, category⟩ := VarSpec.read_error_located wrong
  refine ⟨?_, ?_, ?_⟩
  · rw [position, fragment]
    exact take_drop_length _ slot.front_append
  · rintro (structural | ⟨start, fragment, rfl⟩)
    · simp [structural] at category
    · simp [Defect.category] at category
  · intro _
    refine ⟨slot, ?_, position.symm, fragment.symm⟩
    rintro ⟨listed, written⟩
    rw [← written, VarSpec.read_complete] at wrong
    contradiction

/-- Where a variable is missing there is the comma or brace before which it is missing, and so
nothing that starts with an opening brace. -/
theorem not_found_of_slot {raw : Text} (slot : Slot raw) (missing : slot.candidate = []) :
    raw[slot.start]? ≠ some (.scalar '{') ∧
      ∀ body, (raw.drop slot.start).take (Defect.braced body).length ≠ Defect.braced body := by
  have atStart := slot.drop_start
  rw [missing, List.nil_append] at atStart
  constructor
  · rw [← List.head?_drop, atStart]
    exact slot.head?_back
  · intro body same
    rw [atStart] at same
    have first := congrArg List.head? same
    rw [Defect.braced, List.cons_append, List.length_cons, List.head?_take,
      List.head?_cons] at first
    exact slot.head?_back first

/-- A defect is located in the text that has it, unless it is a missing variable.  This one is
reported with the whole expression, which stands at the brace, and with the position at which the
variable should have been, which is another. -/
theorem readAll_error_located {raw : Text} {defect : Defect}
    (rejected : readAll 0 raw = .error defect) :
    defect.position < raw.length ∧
    ((∀ opening body start, defect ≠ .emptySpec opening body start) → defect.IsLocated raw) ∧
    ∀ opening body start, defect = .emptySpec opening body start →
      OpensRejected raw opening ∧
      (raw.drop opening).take defect.fragment.length = defect.fragment ∧
      StartsRejected raw start [] ∧ opening < start ∧ raw[start]? ≠ some (.scalar '{') ∧
      (raw.drop start).take defect.fragment.length ≠ defect.fragment := by
  cases rejection_of_readAll rejected with
  | strayClose spelled =>
      refine ⟨length_lt spelled (List.cons_ne_nil _ _), ?_, by simp⟩
      intro _
      exact isLocated_strayClose spelled
  | unclosed spelled neverClosed accepted =>
      refine ⟨length_lt spelled (List.cons_ne_nil _ _), ?_, by simp⟩
      intro _
      exact isLocated_unclosed spelled neverClosed accepted
  | emptyBody site refused empty =>
      refine ⟨length_lt site.before_append (List.cons_ne_nil _ _), ?_, by simp⟩
      intro _
      refine isLocated_of_site site refused rfl rfl ?_
      rw [empty]
      rfl
  | noVariables site refused =>
      refine ⟨length_lt site.before_append (List.cons_ne_nil _ _), ?_, by simp⟩
      intro _
      exact isLocated_of_site site refused rfl rfl rfl
  | emptySpec slot refused missing =>
      obtain ⟨noBrace, notFound⟩ := not_found_of_slot slot missing
      refine ⟨length_lt slot.front_append ?_, ?_, ?_⟩
      · exact List.append_ne_nil_of_right_ne_nil _ slot.back_ne_nil
      · intro noneMissing
        exact absurd rfl (noneMissing _ _ _)
      · intro opening body start same
        cases same
        refine ⟨Or.inr ⟨slot.toSite, refused, rfl⟩, take_drop_length _ slot.before_append,
          ⟨slot, ?_, rfl, missing⟩, slot.opening_lt_start, noBrace, notFound slot.body⟩
        rintro ⟨listed, written⟩
        exact listed.written_ne_nil (written.trans missing)
  | spec slot wrong =>
      have located := isLocated_of_slot slot wrong
      obtain ⟨position, _, category⟩ := VarSpec.read_error_located wrong
      refine ⟨?_, fun _ => located, ?_⟩
      · rw [position]
        exact length_lt slot.front_append (List.append_ne_nil_of_right_ne_nil _ slot.back_ne_nil)
      · rintro opening body start rfl
        simp [Defect.category] at category

/-- A bad name behind a good one, and a missing variable. -/
theorem readAll_error_located_examples :
    (readAll 0 "x\x7b?ok,bad-name\x7d" = .error (.badName 6 "bad-name" "bad-name") ∧
      Defect.IsLocated "x\x7b?ok,bad-name\x7d" (.badName 6 "bad-name" "bad-name")) ∧
    readAll 0 "x\x7b?ok,,y\x7d" = .error (.emptySpec 1 "?ok,,y" 6) ∧
      OpensRejected "x\x7b?ok,,y\x7d" 1 ∧ StartsRejected "x\x7b?ok,,y\x7d" 6 [] := by
  have named : readAll 0 "x\x7b?ok,bad-name\x7d" =
      .error (.badName 6 "bad-name" "bad-name") := by
    decide +kernel
  have missing : readAll 0 "x\x7b?ok,,y\x7d" = .error (.emptySpec 1 "?ok,,y" 6) := by
    decide +kernel
  obtain ⟨opens, _, starts, _⟩ := (readAll_error_located missing).2.2 _ _ _ rfl
  exact ⟨⟨named, (readAll_error_located named).2.1 (by simp)⟩, missing, opens, starts⟩

/-- The fragment of a missing variable is not at its position, nor is the brace of its
expression: the position is that of a comma. -/
theorem readAll_missing_not_located :
    ∃ defect, readAll 0 "\x7ba,,b\x7d" = .error defect ∧ defect.category = .expression ∧
      defect.position = 3 ∧ defect.fragment = "\x7ba,,b\x7d" ∧
      (Text.ofString "\x7ba,,b\x7d")[3]? = some (.scalar ',') ∧
      ((Text.ofString "\x7ba,,b\x7d").drop 3).take defect.fragment.length ≠ defect.fragment ∧
      ¬defect.IsLocated "\x7ba,,b\x7d" := by
  have missing : readAll 0 "\x7ba,,b\x7d" = .error (.emptySpec 0 "a,,b" 3) := by
    decide +kernel
  have notFound : ((Text.ofString "\x7ba,,b\x7d").drop 3).take
      (Defect.emptySpec 0 "a,,b" 3).fragment.length ≠
        (Defect.emptySpec 0 "a,,b" 3).fragment := by
    decide +kernel
  exact ⟨_, missing, rfl, rfl, rfl, rfl, notFound, fun located => notFound located.found⟩

end Component

end UriTemplate
