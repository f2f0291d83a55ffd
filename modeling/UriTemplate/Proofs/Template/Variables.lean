import UriTemplate.Proofs.Template.Grammar
import UriTemplate.Proofs.Template.Scanning

/-!
Reading a variable accepts exactly the written forms of variables.

The main statement is `VarSpec.read_eq_ok_iff`.  A name holds no asterisk, colon,
comma or brace, so what follows it cannot be taken for a part of it.
-/

namespace UriTemplate.Grammar

theorem between_iff (low high char : Char) :
    (decide (low ≤ char) && decide (char ≤ high)) = true ↔ low ≤ char ∧ char ≤ high := by
  rw [Bool.and_eq_true, decide_eq_true_eq, decide_eq_true_eq]

theorem isDigit_iff (char : Char) : char.isDigit = true ↔ '0' ≤ char ∧ char ≤ '9' :=
  between_iff '0' '9' char

theorem isAlphanum_iff (char : Char) :
    char.isAlphanum = true ↔
      (('A' ≤ char ∧ char ≤ 'Z') ∨ ('a' ≤ char ∧ char ≤ 'z')) ∨ ('0' ≤ char ∧ char ≤ '9') := by
  have isUpper : char.isUpper = true ↔ 'A' ≤ char ∧ char ≤ 'Z' := decide_eq_true_iff
  have isLower : char.isLower = true ↔ 'a' ≤ char ∧ char ≤ 'z' := between_iff 'a' 'z' char
  change (char.isUpper || char.isLower || char.isDigit) = true ↔ _
  rw [Bool.or_eq_true, Bool.or_eq_true, isUpper, isLower, isDigit_iff]

theorem isNameChar_iff (char : Char) : VarSpec.isNameChar char = true ↔ IsNameChar char := by
  simp only [VarSpec.isNameChar, IsNameChar, isAlphanum_iff, Bool.or_eq_true, beq_iff_eq]
  tauto

theorem isHexDigit_iff (char : Char) : VarSpec.isHexDigit char = true ↔ IsHexDigit char := by
  simp only [VarSpec.isHexDigit, IsHexDigit, isDigit_iff, Bool.or_eq_true, between_iff]
  tauto

theorem satisfies_eq_true_iff (test : Char → Bool) (point : CodePoint) :
    point.satisfies test = true ↔ ∃ char, point = .scalar char ∧ test char = true := by
  cases point <;> simp [CodePoint.satisfies]

theorem IsHexDigit.isNameChar {char : Char} (isHex : IsHexDigit char) : IsNameChar char := by
  rcases isHex with digit | upper | lower
  · exact Or.inr (Or.inr (Or.inl digit))
  · exact Or.inl ⟨upper.1, Char.le_trans upper.2 (by decide : 'F' ≤ 'Z')⟩
  · exact Or.inr (Or.inl ⟨lower.1, Char.le_trans lower.2 (by decide : 'f' ≤ 'z')⟩)

/-- The points of a name are name characters and percent signs. -/
theorem IsNameUnit.point {unit : Text} (isUnit : IsNameUnit unit) {point : CodePoint}
    (membership : point ∈ unit) :
    ∃ char, point = .scalar char ∧ (IsNameChar char ∨ char = '%') := by
  cases isUnit with
  | char allowed =>
      rw [List.mem_singleton] at membership
      exact ⟨_, membership, Or.inl allowed⟩
  | triplet highDigit lowDigit =>
      simp only [List.mem_cons, List.not_mem_nil, or_false] at membership
      rcases membership with isPercent | isHigh | isLow
      · exact ⟨_, isPercent, Or.inr rfl⟩
      · exact ⟨_, isHigh, Or.inl highDigit.isNameChar⟩
      · exact ⟨_, isLow, Or.inl lowDigit.isNameChar⟩

theorem IsName.ne_nil {name : Text} (isName : IsName name) : name ≠ [] := by
  obtain ⟨units, nonempty, areUnits, rfl⟩ := isName
  cases units with
  | nil => contradiction
  | cons unit others => cases areUnits unit (by simp) <;> simp

theorem IsName.not_mem {name : Text} (isName : IsName name) {mark : Char}
    (foreign : ¬IsNameChar mark) (notPercent : mark ≠ '%') : .scalar mark ∉ name := by
  obtain ⟨units, nonempty, areUnits, rfl⟩ := isName
  intro membership
  obtain ⟨unit, among, inUnit⟩ := List.mem_flatten.mp membership
  obtain ⟨char, equality, kind⟩ := (areUnits unit among).point inUnit
  cases equality
  exact kind.elim foreign notPercent

theorem isNameSequence_unit_append {unit : Text} (isUnit : IsNameUnit unit) (rest : Text) :
    VarSpec.isNameSequence (unit ++ rest) = VarSpec.isNameSequence rest := by
  cases isUnit with
  | @char char allowed =>
      have notPercent : char ≠ '%' := by
        rintro rfl
        exact absurd allowed (by decide)
      rw [List.singleton_append, VarSpec.isNameSequence.eq_3 _ _ (by simp [notPercent])]
      simp [CodePoint.satisfies, (isNameChar_iff char).mpr allowed]
  | triplet highDigit lowDigit =>
      simp [VarSpec.isNameSequence, CodePoint.satisfies,
        (isHexDigit_iff _).mpr highDigit, (isHexDigit_iff _).mpr lowDigit]

theorem isNameSequence_eq_true_iff (text : Text) :
    VarSpec.isNameSequence text = true ↔
      ∃ units : List Text, (∀ unit ∈ units, IsNameUnit unit) ∧ units.flatten = text := by
  constructor
  · intro accepted
    fun_induction VarSpec.isNameSequence text with
    | case1 => exact ⟨[], by simp, rfl⟩
    | case2 high low rest inductionHypothesis =>
        simp only [Bool.and_eq_true, satisfies_eq_true_iff, isHexDigit_iff] at accepted
        obtain ⟨⟨⟨highChar, rfl, highDigit⟩, lowChar, rfl, lowDigit⟩, others⟩ := accepted
        obtain ⟨units, areUnits, rfl⟩ := inductionHypothesis others
        exact ⟨[.scalar '%', .scalar highChar, .scalar lowChar] :: units,
          List.forall_mem_cons.mpr ⟨.triplet highDigit lowDigit, areUnits⟩, rfl⟩
    | case3 point rest _ inductionHypothesis =>
        simp only [Bool.and_eq_true, satisfies_eq_true_iff, isNameChar_iff] at accepted
        obtain ⟨⟨char, rfl, allowed⟩, others⟩ := accepted
        obtain ⟨units, areUnits, rfl⟩ := inductionHypothesis others
        exact ⟨[.scalar char] :: units,
          List.forall_mem_cons.mpr ⟨.char allowed, areUnits⟩, rfl⟩
  · rintro ⟨units, areUnits, rfl⟩
    induction units with
    | nil => rfl
    | cons unit others inductionHypothesis =>
        rw [List.forall_mem_cons] at areUnits
        rw [List.flatten_cons, isNameSequence_unit_append areUnits.1]
        exact inductionHypothesis areUnits.2

theorem isName_eq_true_iff (text : Text) : VarSpec.isName text = true ↔ IsName text := by
  simp only [VarSpec.isName, Bool.and_eq_true, isNameSequence_eq_true_iff, IsName]
  constructor
  · rintro ⟨nonempty, units, areUnits, rfl⟩
    refine ⟨units, ?_, areUnits, rfl⟩
    rintro rfl
    simp at nonempty
  · rintro ⟨units, nonempty, areUnits, rfl⟩
    refine ⟨?_, units, areUnits, rfl⟩
    cases units with
    | nil => contradiction
    | cons unit others =>
        cases areUnits unit (by simp) <;> simp

theorem digitPoint_digit (digit : Fin 10) :
    (Char.ofNat (0x30 + digit.val)).isDigit = true ∧
      (Char.ofNat (0x30 + digit.val)).toNat - 0x30 = digit.val := by
  revert digit
  decide

theorem digitPoint_injective : Function.Injective digitPoint := by
  intro first second equality
  have sameChar := CodePoint.scalar.inj equality
  apply Fin.ext
  rw [← (digitPoint_digit first).2, sameChar, (digitPoint_digit second).2]

theorem exists_digitPoint_eq {char : Char} (isDigit : char.isDigit = true) :
    ∃ digit : Fin 10, digitPoint digit = .scalar char ∧ char.toNat - 0x30 = digit.val := by
  have bounds := (isDigit_iff char).mp isDigit
  have lower : 0x30 ≤ char.toNat := bounds.1
  have upper : char.toNat ≤ 0x39 := bounds.2
  refine ⟨⟨char.toNat - 0x30, by omega⟩, ?_, rfl⟩
  have number : 0x30 + (char.toNat - 0x30) = char.toNat := by omega
  simp [digitPoint, number]

theorem digitsValue?_digits (value : Nat) (digits : List (Fin 10)) :
    VarSpec.digitsValue? value (digits.map digitPoint) =
      some (digits.foldl (fun value digit => value * 10 + digit.val) value) := by
  induction digits generalizing value with
  | nil => rfl
  | cons digit rest inductionHypothesis =>
      rw [List.map_cons, digitPoint, VarSpec.digitsValue?, if_pos (digitPoint_digit digit).1,
        (digitPoint_digit digit).2, inductionHypothesis, List.foldl_cons]

theorem exists_digits_of_digitsValue? {value result : Nat} {text : Text}
    (found : VarSpec.digitsValue? value text = some result) :
    ∃ digits : List (Fin 10), digits.map digitPoint = text ∧
      digits.foldl (fun value digit => value * 10 + digit.val) value = result := by
  fun_induction VarSpec.digitsValue? value text with
  | case1 value => exact ⟨[], rfl, Option.some.inj found⟩
  | case2 value char rest isDigit inductionHypothesis =>
      obtain ⟨digit, spelled, worth⟩ := exists_digitPoint_eq isDigit
      obtain ⟨digits, rfl, total⟩ := inductionHypothesis found
      refine ⟨digit :: digits, by rw [List.map_cons, spelled], ?_⟩
      rw [List.foldl_cons, ← worth]
      exact total
  | case3 => contradiction
  | case4 => contradiction

theorem maxLength_ofNat?_eq_some_iff {count : Nat} {length : MaxLength} :
    MaxLength.ofNat? count = some length ↔ length.count = count := by
  unfold MaxLength.ofNat?
  constructor
  · intro found
    split at found
    · cases found
      rfl
    · contradiction
  · rintro rfl
    rw [dif_pos ⟨length.positive, length.bounded⟩]

theorem maxLengthOf?_eq_some_iff {text : Text} {length : MaxLength} :
    VarSpec.maxLengthOf? text = some length ↔
      ∃ numeral : Numeral, numeral.written = text ∧ numeral.maxLength = length := by
  unfold VarSpec.maxLengthOf?
  constructor
  · intro found
    split at found
    · next bounds =>
        obtain ⟨value, valued, permitted⟩ := Option.bind_eq_some_iff.mp found
        obtain ⟨digits, rfl, rfl⟩ := exists_digits_of_digitsValue? valued
        rw [maxLength_ofNat?_eq_some_iff] at permitted
        rw [List.length_map] at bounds
        have positive : 1 ≤ decimal digits := by
          rw [decimal, ← permitted]
          exact length.positive
        have nonempty : digits ≠ [] := List.ne_nil_of_length_pos bounds.1
        refine ⟨⟨digits, nonempty, bounds.2, positive⟩, rfl, ?_⟩
        cases length
        simpa [Numeral.maxLength, decimal] using permitted.symm
    · contradiction
  · rintro ⟨numeral, rfl, rfl⟩
    have bounds : 1 ≤ numeral.written.length ∧ numeral.written.length ≤ 4 := by
      rw [Numeral.written, List.length_map]
      exact ⟨List.length_pos_of_ne_nil numeral.nonempty, numeral.short⟩
    rw [if_pos bounds, Numeral.written, digitsValue?_digits, Option.bind_some,
      maxLength_ofNat?_eq_some_iff]
    rfl

theorem Numeral.mem_written {numeral : Numeral} {point : CodePoint}
    (membership : point ∈ numeral.written) :
    ∃ char, point = .scalar char ∧ char.isDigit = true := by
  obtain ⟨digit, _, rfl⟩ := List.mem_map.mp membership
  exact ⟨_, rfl, (digitPoint_digit digit).1⟩

/-- The marks that separate variables and close expressions are no part of a variable. -/
theorem Variable.not_mem_written (listed : Variable) {mark : Char}
    (foreign : ¬IsNameChar mark) (separator : mark ∉ ['%', ':', '*']) :
    .scalar mark ∉ listed.written := by
  simp only [List.mem_cons, List.not_mem_nil, or_false, not_or] at separator
  obtain ⟨notPercent, notColon, notStar⟩ := separator
  rw [Variable.written, List.mem_append, not_or]
  refine ⟨listed.isName.not_mem foreign notPercent, ?_⟩
  cases listed.suffix with
  | nothing => simp [Suffix.written]
  | star => simpa [Suffix.written] using notStar
  | length numeral =>
      rw [Suffix.written, List.mem_cons, not_or]
      refine ⟨by simpa using notColon, ?_⟩
      intro membership
      obtain ⟨char, equality, isDigit⟩ := numeral.mem_written membership
      cases equality
      apply foreign
      rw [← isNameChar_iff]
      simp [VarSpec.isNameChar, Char.isAlphanum, isDigit]

theorem Variable.written_ne_nil (listed : Variable) : listed.written ≠ [] :=
  List.append_ne_nil_of_left_ne_nil listed.isName.ne_nil _

end UriTemplate.Grammar

namespace UriTemplate.VarSpec

open Grammar

theorem named_eq_ok_iff {start : Nat} {text name : Text} {modifier : Modifier}
    {spec : VarSpec} :
    named start text name modifier = .ok spec ↔ IsName name ∧ ⟨name, modifier⟩ = spec := by
  unfold named
  split
  · next accepted => simp [(isName_eq_true_iff name).mp accepted]
  · next rejected => simp [← isName_eq_true_iff, rejected]

/-- What is read is the variable that the text spells. -/
theorem read_sound {start : Nat} {text : Text} {spec : VarSpec}
    (accepted : read start text = .ok spec) :
    ∃ listed : Variable, listed.written = text ∧ listed.spec = spec := by
  unfold read at accepted
  split at accepted
  · next starred =>
      dsimp only at accepted
      split at accepted
      · contradiction
      · obtain ⟨isName, rfl⟩ := named_eq_ok_iff.mp accepted
        refine ⟨⟨text.dropLast, isName, .star⟩, ?_, rfl⟩
        exact List.dropLast_append_getLast? _ starred
  · split at accepted
    · obtain ⟨isName, rfl⟩ := named_eq_ok_iff.mp accepted
      exact ⟨⟨text, isName, .nothing⟩, by simp [Variable.written, Suffix.written], rfl⟩
    · next name digits cut =>
        split at accepted
        · contradiction
        · next length found =>
            obtain ⟨isName, rfl⟩ := named_eq_ok_iff.mp accepted
            obtain ⟨numeral, rfl, rfl⟩ := maxLengthOf?_eq_some_iff.mp found
            exact ⟨⟨name, isName, .length numeral⟩, (Text.cut?_eq_some_iff.mp cut).1.symm, rfl⟩

/-- The written form of every variable is read. -/
theorem read_complete (start : Nat) (listed : Variable) :
    read start listed.written = .ok listed.spec := by
  obtain ⟨name, isName, suffix⟩ := listed
  have noStar : .scalar '*' ∉ name := isName.not_mem (by decide) (by decide)
  have noColon : .scalar ':' ∉ name := isName.not_mem (by decide) (by decide)
  cases suffix with
  | nothing =>
      have notStarred : name.getLast? ≠ some (.scalar '*') :=
        fun last => noStar (List.mem_of_getLast? last)
      simp only [Variable.written, Suffix.written, List.append_nil, read, if_neg notStarred,
        Text.cut?_eq_none_iff.mpr noColon]
      exact named_eq_ok_iff.mpr ⟨isName, rfl⟩
  | star =>
      simp only [Variable.written, Suffix.written, read, List.getLast?_concat, if_true,
        List.dropLast_concat, if_neg noColon]
      exact named_eq_ok_iff.mpr ⟨isName, rfl⟩
  | length numeral =>
      have notStarred :
          (name ++ .scalar ':' :: numeral.written).getLast? ≠ some (.scalar '*') := by
        intro last
        have inDigits : .scalar '*' ∈ numeral.written := by
          have among := List.mem_of_getLast? last
          simpa [noStar] using among
        obtain ⟨char, equality, isDigit⟩ := numeral.mem_written inDigits
        cases equality
        contradiction
      simp only [Variable.written, Suffix.written, read, if_neg notStarred,
        Text.cut?_append_cons noColon, maxLengthOf?_eq_some_iff.mpr ⟨numeral, rfl, rfl⟩]
      exact named_eq_ok_iff.mpr ⟨isName, rfl⟩

theorem read_eq_ok_iff {start : Nat} {text : Text} {spec : VarSpec} :
    read start text = .ok spec ↔
      ∃ listed : Variable, listed.written = text ∧ listed.spec = spec := by
  constructor
  · exact read_sound
  · rintro ⟨listed, rfl, rfl⟩
    exact read_complete start listed

end UriTemplate.VarSpec
