import UriTemplate.Proofs.Template.Construction
import UriTemplate.Proofs.Template.Location
import UriTemplate.Proofs.Template.Concatenation

/-!
Which defect is reported first.

The variables of an expression are read from left to right, and the first that is not
well formed ends the reading.  What it is reported as depends on it alone
(`Grammar.IsRefusedAs`), and its place on what stands before it.  A modifier is looked
at before the name.  `Component.readAll_first_defect` says so, and that nothing but
such reports can come of reading, since no constructor ever refuses.
-/

namespace UriTemplate

namespace Grammar

/-- Whether the text after a colon is a length. -/
def IsLength (digits : Text) : Prop :=
  ∃ numeral : Numeral, numeral.written = digits

/-- Whether a candidate has both modifiers, or a colon and no length after it. -/
def HasBadModifier (candidate : Text) : Prop :=
  (∃ front, candidate = front ++ [.scalar '*'] ∧ .scalar ':' ∈ front) ∨
    candidate.getLast? ≠ some (.scalar '*') ∧
      ∃ name digits, candidate = name ++ .scalar ':' :: digits ∧ .scalar ':' ∉ name ∧
        ¬IsLength digits

/-- The category under which a candidate that is no variable is reported. -/
inductive IsRefusedAs : Text → Category → Prop where
  | missing : IsRefusedAs [] .expression
  | modifier {candidate} : HasBadModifier candidate → IsRefusedAs candidate .modifier
  | name {candidate} : candidate ≠ [] → ¬HasBadModifier candidate →
      IsRefusedAs candidate .variableName

/-- What stands between braces, well formed or not: the glyph of an operator and candidates
between commas.  A glyph at the start is always the operator. -/
structure Listing where
  operator : Operator
  candidates : List Text
  nonempty : List.intercalate [.scalar ','] candidates ≠ []
  undivided : ∀ candidate ∈ candidates, .scalar ',' ∉ candidate
  unclosed : ∀ candidate ∈ candidates, .scalar '}' ∉ candidate
  glyph_taken : ∀ (other : Operator) (glyph : Char), other.glyph? = some glyph →
    (operator.glyph ++ List.intercalate [.scalar ','] candidates).head? = some (.scalar glyph) →
      operator = other

namespace Listing

def body (listing : Listing) : Text :=
  listing.operator.glyph ++ List.intercalate [.scalar ','] listing.candidates

theorem splitOperator_body (listing : Listing) :
    Expression.splitOperator listing.body =
      (listing.operator, List.intercalate [.scalar ','] listing.candidates) :=
  Expression.splitOperator_glyph_append listing.nonempty listing.glyph_taken

theorem splitOn_body (listing : Listing) :
    List.splitOn (.scalar ',') (Expression.splitOperator listing.body).2 =
      listing.candidates := by
  have nonempty : listing.candidates ≠ [] := by
    intro none
    apply listing.nonempty
    rw [none, List.intercalate_nil]
  rw [listing.splitOperator_body]
  exact List.splitOn_intercalate _ listing.undivided nonempty

theorem close_not_mem (listing : Listing) : .scalar '}' ∉ listing.body := by
  rw [body, List.mem_append, not_or]
  constructor
  · cases listing.operator <;> decide
  · intro membership
    rcases Text.mem_intercalate membership with inSeparator | ⟨candidate, among, inCandidate⟩
    · simp at inSeparator
    · exact listing.unclosed candidate among inCandidate

end Listing

theorem not_hasBadModifier_nil : ¬HasBadModifier [] := by
  rintro (⟨front, spelled, _⟩ | ⟨_, name, digits, spelled, _⟩)
  · simp at spelled
  · simp at spelled

theorem IsRefusedAs.unique {candidate : Text} {category other : Category}
    (refused : IsRefusedAs candidate category) (otherRefused : IsRefusedAs candidate other) :
    category = other := by
  cases refused with
  | missing =>
      cases otherRefused with
      | missing => rfl
      | modifier bad => exact absurd bad not_hasBadModifier_nil
      | name nonempty _ => contradiction
  | modifier bad =>
      cases otherRefused with
      | missing => exact absurd bad not_hasBadModifier_nil
      | modifier _ => rfl
      | name _ good => exact absurd bad good
  | name nonempty good =>
      cases otherRefused with
      | missing => contradiction
      | modifier bad => exact absurd bad good
      | name _ _ => rfl

theorem hasBadModifier_starred_iff {candidate : Text}
    (starred : candidate.getLast? = some (.scalar '*')) :
    HasBadModifier candidate ↔ .scalar ':' ∈ candidate.dropLast := by
  constructor
  · rintro (⟨front, rfl, inFront⟩ | ⟨notStarred, _⟩)
    · rw [List.dropLast_concat]
      exact inFront
    · exact absurd starred notStarred
  · intro inFront
    exact Or.inl ⟨candidate.dropLast, (List.dropLast_append_getLast? _ starred).symm, inFront⟩

theorem hasBadModifier_cut_iff {candidate : Text}
    (notStarred : candidate.getLast? ≠ some (.scalar '*')) :
    HasBadModifier candidate ↔ ∃ name digits,
      Text.cut? (.scalar ':') candidate = some (name, digits) ∧
        VarSpec.maxLengthOf? digits = none := by
  have isLength_iff (digits : Text) : VarSpec.maxLengthOf? digits = none ↔ ¬IsLength digits := by
    rw [Option.eq_none_iff_forall_ne_some]
    simp only [ne_eq, maxLengthOf?_eq_some_iff, IsLength]
    constructor
    · rintro noLength ⟨numeral, written⟩
      exact noLength numeral.maxLength ⟨numeral, written, rfl⟩
    · rintro noNumeral length ⟨numeral, written, _⟩
      exact noNumeral ⟨numeral, written⟩
  simp only [Text.cut?_eq_some_iff, isLength_iff]
  constructor
  · rintro (⟨front, rfl, _⟩ | ⟨_, name, digits, spelled, free, noLength⟩)
    · simp at notStarred
    · exact ⟨name, digits, ⟨spelled, free⟩, noLength⟩
  · rintro ⟨name, digits, ⟨spelled, free⟩, noLength⟩
    exact Or.inr ⟨notStarred, name, digits, spelled, free, noLength⟩

end Grammar

namespace VarSpec

open Grammar

theorem category_of_named {start : Nat} {text name : Text} {modifier : Modifier}
    {defect : Defect} (rejected : named start text name modifier = .error defect) :
    defect.category = .variableName := by
  unfold named at rejected
  split at rejected
  · contradiction
  · cases rejected
    rfl

/-- The modifier is looked at before the name. -/
theorem isRefusedAs_of_read {start : Nat} {text : Text} {defect : Defect} (nonempty : text ≠ [])
    (rejected : read start text = .error defect) : IsRefusedAs text defect.category := by
  unfold read at rejected
  split at rejected
  · next starred =>
      dsimp only at rejected
      split at rejected
      · next both =>
          cases rejected
          exact .modifier ((hasBadModifier_starred_iff starred).mpr both)
      · next noColon =>
          rw [category_of_named rejected]
          exact .name nonempty (mt (hasBadModifier_starred_iff starred).mp noColon)
  · next notStarred =>
      have bad_iff := hasBadModifier_cut_iff notStarred
      split at rejected
      · next uncut =>
          rw [category_of_named rejected]
          refine .name nonempty fun bad => ?_
          obtain ⟨name, digits, cut, _⟩ := bad_iff.mp bad
          rw [uncut] at cut
          contradiction
      · next name digits cut =>
          split at rejected
          · next noLength =>
              cases rejected
              exact .modifier (bad_iff.mpr ⟨name, digits, cut, noLength⟩)
          · next length isLength =>
              rw [category_of_named rejected]
              refine .name nonempty fun bad => ?_
              obtain ⟨otherName, otherDigits, otherCut, noLength⟩ := bad_iff.mp bad
              rw [cut] at otherCut
              cases otherCut
              rw [isLength] at noLength
              contradiction

theorem exists_defect_of_not_isVariable (start : Nat) {text : Text}
    (bad : ¬IsVariable text) : ∃ defect, read start text = .error defect := by
  cases accepted : read start text with
  | error defect => exact ⟨defect, rfl⟩
  | ok spec =>
      obtain ⟨listed, written, _⟩ := read_sound accepted
      exact absurd ⟨listed, written⟩ bad

/-- Good candidates are passed over, each with the comma after it. -/
theorem readAll_append (position start : Nat) (body : Text) {earlier : List Text}
    (good : ∀ other ∈ earlier, IsVariable other) (rest : List Text) :
    ∃ specs, readAll position body start (earlier ++ rest) =
      (readAll position body (start + width earlier) rest).map (specs ++ ·) := by
  induction earlier generalizing start with
  | nil =>
      refine ⟨[], ?_⟩
      cases accepted : readAll position body start rest <;> simp [width, accepted, Except.map]
  | cons candidate others inductionHypothesis =>
      rw [List.forall_mem_cons] at good
      obtain ⟨listed, rfl⟩ := good.1
      obtain ⟨specs, passed⟩ := inductionHypothesis (start + listed.written.length + 1) good.2
      have nonempty : ¬listed.written.isEmpty = true := by
        simpa using listed.written_ne_nil
      refine ⟨listed.spec :: specs, ?_⟩
      rw [List.cons_append, readAll, if_neg nonempty, read_complete, Outcome.ok_bind, passed,
        width_cons, ← Nat.add_assoc, ← Nat.add_assoc]
      cases readAll position body (start + listed.written.length + 1 + width others) rest <;> rfl

end VarSpec

/-- What is wrong in the list of a body is what is wrong with the body. -/
theorem Expression.read_of_list {position : Nat} {body : Text} {defect : Defect}
    (listed : (splitOperator body).2 ≠ [])
    (rejected : VarSpec.readAll position body (position + 1 + (splitOperator body).1.glyph.length)
      (List.splitOn (.scalar ',') (splitOperator body).2) = .error defect) :
    read position body = .error defect := by
  have nonempty : body ≠ [] := by
    rintro rfl
    exact listed rfl
  simp only [read, List.isEmpty_iff, if_neg nonempty, if_neg listed, rejected, Outcome.error_bind]

/-- What is wrong with a body is what is wrong with the whole text: what stands before it is
accepted, and what stands after it is not looked at. -/
theorem Site.readAll_of_read {raw : Text} (site : Site raw) {defect : Defect}
    (rejected : Expression.read site.opening site.body = .error defect) :
    Component.readAll 0 raw = .error defect := by
  obtain ⟨before, accepted⟩ := site.accepted
  rw [← site.spelled, Component.readAll_append_of_ok accepted,
    Component.readAll_expression _ _ site.closed, Nat.zero_add, ← Site.opening, rejected]
  rfl

/-- The first candidate that is no variable ends the reading of the whole text. -/
theorem Slot.exists_defect {raw : Text} (slot : Slot raw)
    (listed : (Expression.splitOperator slot.body).2 ≠ [])
    (bad : ¬Grammar.IsVariable slot.candidate) :
    ∃ defect, Component.readAll 0 raw = .error defect ∧
      (slot.candidate = [] → defect = .emptySpec slot.opening slot.body slot.start) ∧
      (slot.candidate ≠ [] → VarSpec.read slot.start slot.candidate = .error defect) := by
  have inList {defect : Defect} (rejected : VarSpec.readAll slot.opening slot.body slot.start
      (slot.candidate :: slot.later) = .error defect) :
      Component.readAll 0 raw = .error defect := by
    obtain ⟨specs, passed⟩ := VarSpec.readAll_append slot.opening
      (slot.opening + 1 + slot.glyph.length) slot.body slot.good (slot.candidate :: slot.later)
    refine slot.readAll_of_read (Expression.read_of_list listed ?_)
    rw [slot.listed]
    refine passed.trans ?_
    rw [← slot.start_eq, rejected]
    rfl
  by_cases missing : slot.candidate = []
  · refine ⟨.emptySpec slot.opening slot.body slot.start, inList ?_, fun _ => rfl, absurd missing⟩
    rw [missing, VarSpec.readAll]
    rfl
  · obtain ⟨defect, wrong⟩ := VarSpec.exists_defect_of_not_isVariable slot.start bad
    refine ⟨defect, inList ?_, fun isMissing => absurd isMissing missing, fun _ => wrong⟩
    rw [VarSpec.readAll, if_neg (mt List.isEmpty_iff.mp missing), wrong]
    rfl

namespace Component

theorem category_mem (defect : Defect) :
    defect.category ∈ [Category.template, .expression, .variableName, .modifier] := by
  cases defect <;> simp [Defect.category]

/-- A text is rejected for the first candidate that is no variable, whatever stands behind it.  The
category depends on the candidate alone, the place is where the candidate starts, and so the whole
defect is settled, up to the body that is shown where a candidate is missing.  Nothing but a defect
comes of reading: building with constructors that may refuse gives the same. -/
theorem readAll_first_defect :
    (∀ (before after raw : Text) (listing : Grammar.Listing) (earlier later : List Text)
        (candidate : Text),
      before ++ .scalar '{' :: (listing.body ++ .scalar '}' :: after) = raw →
      (∃ components, readAll 0 before = .ok components) →
      listing.candidates = earlier ++ candidate :: later →
      (∀ other ∈ earlier, Grammar.IsVariable other) → ¬Grammar.IsVariable candidate →
      ∃ defect rest, readAll 0 raw = .error defect ∧
        (∀ category, Grammar.IsRefusedAs candidate category ↔ defect.category = category) ∧
        defect.position =
          before.length + 1 + listing.operator.glyph.length + VarSpec.width earlier ∧
        raw.drop defect.position = candidate ++ rest ∧
        (rest.head? = some (.scalar ',') ∨ rest.head? = some (.scalar '}')) ∧
        (candidate = [] → defect = .emptySpec before.length listing.body defect.position) ∧
        (candidate ≠ [] → VarSpec.read defect.position candidate = .error defect)) ∧
    ∀ raw, buildAll 0 raw = (readAll 0 raw).mapError .defect ∧
      ∀ fault, buildAll 0 raw = .error fault → ∃ defect, fault = .defect defect ∧
        defect.category ∈ [Category.template, .expression, .variableName, .modifier] := by
  refine ⟨?_, ?_⟩
  · intro before after raw listing earlier later candidate spelled accepted listed good bad
    let slot : Slot raw :=
      ⟨⟨before, listing.body, after, spelled, listing.close_not_mem, accepted⟩, earlier, candidate,
        later, listing.splitOn_body.trans listed, good⟩
    have split := listing.splitOperator_body
    have nonempty : (Expression.splitOperator slot.body).2 ≠ [] := by
      change (Expression.splitOperator listing.body).2 ≠ []
      rw [split]
      exact listing.nonempty
    have place : slot.start =
        before.length + 1 + listing.operator.glyph.length + VarSpec.width earlier := by
      have glyph : slot.glyph = listing.operator.glyph :=
        congrArg (fun parts => parts.1.glyph) split
      rw [slot.start_eq, glyph]
      rfl
    obtain ⟨defect, rejected, ofMissing, ofPresent⟩ := slot.exists_defect nonempty bad
    have atStart : defect.position = slot.start := by
      by_cases missing : candidate = []
      · rw [ofMissing missing, Defect.position]
      · exact (VarSpec.read_error_located (ofPresent missing)).1
    have refused : Grammar.IsRefusedAs candidate defect.category := by
      by_cases missing : candidate = []
      · rw [ofMissing missing, missing]
        exact .missing
      · exact VarSpec.isRefusedAs_of_read missing (ofPresent missing)
    refine ⟨defect, slot.back, rejected, ?_, atStart.trans place, ?_, slot.head?_back_eq, ?_, ?_⟩
    · exact fun category => ⟨refused.unique, fun same => same ▸ refused⟩
    · rw [atStart]
      exact slot.drop_start
    · rw [atStart]
      exact ofMissing
    · rw [atStart]
      exact ofPresent
  · intro raw
    refine ⟨buildAll_eq 0 raw, ?_⟩
    intro fault refused
    rw [buildAll_eq] at refused
    cases accepted : readAll 0 raw with
    | ok components => simp [accepted] at refused
    | error defect =>
        rw [accepted, Outcome.mapError_error, Except.error.injEq] at refused
        exact ⟨defect, refused.symm, category_mem defect⟩

/-- A candidate with a bad name and a bad length, before one that is missing. -/
theorem readAll_first_defect_length :
    ∃ (listing : Grammar.Listing) (defect : Defect),
      listing.candidates = [Text.ofString "ok", Text.ofString "a-b:0", [], Text.ofString "c"] ∧
      Text.ofString "x" ++ .scalar '{' :: (listing.body ++ .scalar '}' :: Text.ofString "\x7b") =
        Text.ofString "x\x7b?ok,a-b:0,,c\x7d\x7b" ∧
      readAll 0 "x\x7b?ok,a-b:0,,c\x7d\x7b" = .error defect ∧
      Grammar.IsRefusedAs "a-b:0" defect.category ∧ defect.category = .modifier ∧
      defect.position = 6 := by
  obtain ⟨listing, operator, candidates⟩ : ∃ listing : Grammar.Listing,
      listing.operator = .query ∧ listing.candidates =
        [Text.ofString "ok", Text.ofString "a-b:0", [], Text.ofString "c"] := by
    refine ⟨⟨.query, _, by decide +kernel, by decide +kernel, by decide +kernel, ?_⟩, rfl, rfl⟩
    intro other glyph owned first
    cases first
    exact Operator.eq_of_glyph? rfl owned
  have body : listing.body = "?ok,a-b:0,,c" := by
    rw [Grammar.Listing.body, operator, candidates]
    decide +kernel
  have good : ∀ other ∈ [Text.ofString "ok"], Grammar.IsVariable other := by
    intro other among
    rw [List.mem_singleton.mp among]
    have accepted : VarSpec.read 0 "ok" = .ok ⟨"ok", .plain⟩ := by decide +kernel
    obtain ⟨listed, written, _⟩ := VarSpec.read_sound accepted
    exact ⟨listed, written⟩
  have read (start : Nat) : VarSpec.read start "a-b:0" =
      .error (.badLength start "a-b:0" "0") := by
    rfl
  have bad : ¬Grammar.IsVariable "a-b:0" := by
    rintro ⟨listed, written⟩
    have accepted := VarSpec.read_complete 0 listed
    rw [written, read 0] at accepted
    contradiction
  obtain ⟨defect, rest, rejected, refused, place, _, _, _, wrong⟩ := readAll_first_defect.1
    "x" "\x7b" "x\x7b?ok,a-b:0,,c\x7d\x7b" listing [Text.ofString "ok"] [[], Text.ofString "c"]
    "a-b:0" (by rw [body]; decide +kernel) ⟨[.literal "x"], by decide +kernel⟩ candidates good bad
  have category : defect.category = .modifier := by
    have same := wrong (by decide +kernel)
    rw [read, Except.error.injEq] at same
    rw [← same]
    rfl
  rw [operator] at place
  exact ⟨listing, defect, candidates, by rw [body]; decide +kernel, rejected,
    (refused _).mpr rfl, category, place⟩

end Component

end UriTemplate
