import UriTemplate.Proofs.Template.Variables

/-!
Reading the body of an expression accepts exactly the written forms of expressions.

The main statement is `Expression.read_eq_ok_iff`; `Braced.body_injective` adds
that a body is spelled in one way only.  Both rest on the fact that a body can be
taken apart again: its first point decides the operator, and its commas are those
between the variables.
-/

namespace UriTemplate

theorem Operator.ofGlyph?_eq_some_iff {point : CodePoint} {operator : Operator} :
    ofGlyph? point = some operator ↔
      ∃ glyph, operator.glyph? = some glyph ∧ point = .scalar glyph := by
  constructor
  · intro found
    unfold ofGlyph? at found
    split at found
    all_goals first
      | contradiction
      | cases found; exact ⟨_, rfl, rfl⟩
  · rintro ⟨glyph, chosen, rfl⟩
    cases operator <;> cases chosen <;> rfl

theorem Operator.glyph_of_glyph? {operator : Operator} {glyph : Char}
    (chosen : operator.glyph? = some glyph) : operator.glyph = [.scalar glyph] := by
  rw [Operator.glyph, chosen]
  rfl

theorem Operator.eq_simple_of_glyph? {operator : Operator} (unmarked : operator.glyph? = none) :
    operator = .simple := by
  cases operator <;> first | rfl | contradiction

/-- No two operators have the same glyph. -/
theorem Operator.eq_of_glyph? {operator other : Operator} {glyph : Char}
    (chosen : operator.glyph? = some glyph) (owned : other.glyph? = some glyph) :
    operator = other := by
  have selects := ofGlyph?_eq_some_iff.mpr ⟨glyph, chosen, rfl⟩
  rw [ofGlyph?_eq_some_iff.mpr ⟨glyph, owned, rfl⟩] at selects
  exact (Option.some.inj selects).symm

theorem VarSpec.readAll_sound {position start : Nat} {body : Text} {candidates : List Text}
    {specs : List VarSpec} (accepted : readAll position body start candidates = .ok specs) :
    ∃ listed : List Grammar.Variable,
      listed.map Grammar.Variable.written = candidates ∧
        listed.map Grammar.Variable.spec = specs := by
  induction candidates generalizing start specs with
  | nil =>
      cases accepted
      exact ⟨[], rfl, rfl⟩
  | cons candidate rest inductionHypothesis =>
      rw [readAll] at accepted
      split at accepted
      · contradiction
      · obtain ⟨spec, readFirst, continued⟩ := Outcome.bind_eq_ok_iff.mp accepted
        obtain ⟨others, readOthers, combined⟩ := Outcome.bind_eq_ok_iff.mp continued
        cases combined
        obtain ⟨first, rfl, rfl⟩ := read_sound readFirst
        obtain ⟨listed, rfl, rfl⟩ := inductionHypothesis readOthers
        exact ⟨first :: listed, rfl, rfl⟩

theorem VarSpec.readAll_complete (position start : Nat) (body : Text)
    (listed : List Grammar.Variable) :
    readAll position body start (listed.map Grammar.Variable.written) =
      .ok (listed.map Grammar.Variable.spec) := by
  induction listed generalizing start with
  | nil => rfl
  | cons first rest inductionHypothesis =>
      have nonempty : first.written.isEmpty = false := by
        simpa using first.written_ne_nil
      simp [readAll, nonempty, read_complete, inductionHypothesis]

/-- A list is found behind its operator again, unless its own first point would be taken for
another operator. -/
theorem Expression.splitOperator_glyph_append {operator : Operator} {list : Text}
    (nonempty : list ≠ [])
    (taken : ∀ (other : Operator) (glyph : Char), other.glyph? = some glyph →
      (operator.glyph ++ list).head? = some (.scalar glyph) → operator = other) :
    splitOperator (operator.glyph ++ list) = (operator, list) := by
  cases chosen : operator.glyph? with
  | some glyph =>
      have selects : Operator.ofGlyph? (.scalar glyph) = some operator :=
        Operator.ofGlyph?_eq_some_iff.mpr ⟨glyph, chosen, rfl⟩
      rw [Operator.glyph_of_glyph? chosen, List.singleton_append, splitOperator]
      simp only [selects]
  | none =>
      have simple := Operator.eq_simple_of_glyph? chosen
      have unmarked : operator.glyph = [] := by
        rw [Operator.glyph, chosen]
        rfl
      obtain ⟨point, rest, rfl⟩ := List.exists_cons_of_ne_nil nonempty
      have unselected : Operator.ofGlyph? point = none := by
        by_contra selected
        obtain ⟨other, isOther⟩ := Option.ne_none_iff_exists'.mp selected
        obtain ⟨glyph, owned, rfl⟩ := Operator.ofGlyph?_eq_some_iff.mp isOther
        have same := taken other glyph owned (by rw [unmarked]; rfl)
        rw [← same, chosen] at owned
        contradiction
      rw [unmarked, List.nil_append, splitOperator]
      simp only [unselected, simple]

namespace Grammar

/-- The commas of a list of variables are those between the variables. -/
theorem splitOn_listed {listed : List Variable} (nonempty : listed ≠ []) :
    List.splitOn (.scalar ',') (List.intercalate [.scalar ','] (listed.map Variable.written)) =
      listed.map Variable.written := by
  apply List.splitOn_intercalate
  · intro part among
    obtain ⟨entry, _, rfl⟩ := List.mem_map.mp among
    exact entry.not_mem_written (by decide) (by decide)
  · simpa using nonempty

theorem intercalate_listed_ne_nil {listed : List Variable} (nonempty : listed ≠ []) :
    List.intercalate [.scalar ','] (listed.map Variable.written) ≠ [] := by
  cases listed with
  | nil => contradiction
  | cons first rest =>
      cases rest with
      | nil => simpa using first.written_ne_nil
      | cons second others => simp

theorem Braced.close_not_mem (braced : Braced) : .scalar '}' ∉ braced.body := by
  rw [Braced.body, bodyOf, List.mem_append, not_or]
  constructor
  · cases braced.operator <;> decide
  · intro membership
    rcases Text.mem_intercalate membership with inSeparator | ⟨text, among, inText⟩
    · simp at inSeparator
    · obtain ⟨entry, _, rfl⟩ := List.mem_map.mp among
      exact entry.not_mem_written (by decide) (by decide) inText

/-- The first point of a body decides the operator. -/
theorem Braced.splitOperator_body (braced : Braced) :
    Expression.splitOperator braced.body =
      (braced.operator, List.intercalate [.scalar ','] (braced.listed.map Variable.written)) :=
  Expression.splitOperator_glyph_append (intercalate_listed_ne_nil braced.nonempty)
    braced.glyph_taken

/-- What has been read of a variable determines how it was written, given its text. -/
theorem Variable.written_injective : Function.Injective Variable.written := by
  intro first second equality
  have sameSpec : first.spec = second.spec := by
    have readFirst := VarSpec.read_complete 0 first
    rw [equality, VarSpec.read_complete 0 second] at readFirst
    exact (Except.ok.inj readFirst).symm
  obtain ⟨name, isName, suffix⟩ := first
  obtain ⟨other, otherIsName, otherSuffix⟩ := second
  have sameName : name = other := congrArg VarSpec.name sameSpec
  subst sameName
  have sameWritten : suffix.written = otherSuffix.written := List.append_cancel_left equality
  have sameSuffix : suffix = otherSuffix := by
    cases suffix <;> cases otherSuffix <;> simp [Suffix.written] at sameWritten ⊢
    next numeral otherNumeral =>
      have sameDigits : numeral.digits = otherNumeral.digits :=
        List.map_injective_iff.mpr digitPoint_injective sameWritten
      cases numeral
      cases otherNumeral
      simpa using sameDigits
  rw [sameSuffix]

/-- A body is spelled in one way only. -/
theorem Braced.body_injective : Function.Injective Braced.body := by
  intro first second equality
  have sameSplit : Expression.splitOperator first.body =
      Expression.splitOperator second.body := by
    rw [equality]
  rw [first.splitOperator_body, second.splitOperator_body, Prod.mk.injEq] at sameSplit
  obtain ⟨sameOperator, sameList⟩ := sameSplit
  have sameTexts : first.listed.map Variable.written = second.listed.map Variable.written := by
    rw [← splitOn_listed first.nonempty, sameList, splitOn_listed second.nonempty]
  have sameListed := List.map_injective_iff.mpr Variable.written_injective sameTexts
  cases first
  cases second
  simp_all

end Grammar

namespace Expression

theorem splitOperator_append (body : Text) :
    (splitOperator body).1.glyph ++ (splitOperator body).2 = body := by
  unfold splitOperator
  split
  · rfl
  · split
    · next operator selected =>
        obtain ⟨glyph, chosen, rfl⟩ := Operator.ofGlyph?_eq_some_iff.mp selected
        rw [Operator.glyph_of_glyph? chosen, List.singleton_append]
    · rfl

theorem splitOperator_taken {body : Text} {other : Operator} {glyph : Char}
    (owned : other.glyph? = some glyph) (first : body.head? = some (.scalar glyph)) :
    (splitOperator body).1 = other := by
  cases body with
  | nil => contradiction
  | cons point rest =>
      rw [List.head?_cons, Option.some.injEq] at first
      have selected : Operator.ofGlyph? point = some other :=
        Operator.ofGlyph?_eq_some_iff.mpr ⟨glyph, owned, first⟩
      simp only [splitOperator, selected]

theorem read_sound {position : Nat} {body : Text} {expression : Expression}
    (accepted : read position body = .ok expression) :
    ∃ braced : Grammar.Braced, braced.body = body ∧ braced.expression = expression := by
  have spelled := splitOperator_append body
  have taken := @splitOperator_taken body
  rcases split : splitOperator body with ⟨operator, list⟩
  rw [split] at spelled taken
  simp only [read, split] at accepted
  split at accepted
  · contradiction
  · split at accepted
    · contradiction
    · obtain ⟨specs, readSpecs, combined⟩ := Outcome.bind_eq_ok_iff.mp accepted
      split at combined
      · next nonempty =>
          cases combined
          obtain ⟨listed, texts, rfl⟩ := VarSpec.readAll_sound readSpecs
          have joined : Grammar.bodyOf operator listed = body := by
            rw [Grammar.bodyOf, texts, List.intercalate_splitOn]
            exact spelled
          exact ⟨⟨operator, listed, by simpa using nonempty,
            fun other glyph owned first => taken owned (joined ▸ first)⟩, joined, rfl⟩
      · contradiction

theorem read_complete (position : Nat) (braced : Grammar.Braced) :
    read position braced.body = .ok braced.expression := by
  have list := Grammar.intercalate_listed_ne_nil braced.nonempty
  have nonempty : braced.body ≠ [] := by
    rw [Grammar.Braced.body, Grammar.bodyOf, ne_eq, List.append_eq_nil_iff, not_and]
    exact fun _ => list
  have specs : braced.listed.map Grammar.Variable.spec ≠ [] := by
    simpa using braced.nonempty
  simp only [read, braced.splitOperator_body, List.isEmpty_iff, if_neg nonempty, if_neg list,
    Grammar.splitOn_listed braced.nonempty, VarSpec.readAll_complete, Outcome.ok_bind,
    dif_pos specs]
  rfl

theorem read_eq_ok_iff {position : Nat} {body : Text} {expression : Expression} :
    read position body = .ok expression ↔
      ∃ braced : Grammar.Braced, braced.body = body ∧ braced.expression = expression := by
  constructor
  · exact read_sound
  · rintro ⟨braced, rfl, rfl⟩
    exact read_complete position braced

end Expression

end UriTemplate
