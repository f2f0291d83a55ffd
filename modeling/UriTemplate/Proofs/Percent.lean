import UriTemplate.Percent
import UriTemplate.Proofs.Template.Variables

/-!
What encoded texts are made of.

`MadeOf` says that a text consists of parts of a certain kind, one after the
other; such texts may be put together and joined.  An encoded text is made of
units: characters that stand for themselves, and triplets of a percent sign and
two hexadecimal digits.
-/

namespace UriTemplate

/-- Whether a text consists of parts of a certain kind. -/
def MadeOf (IsPart : Text → Prop) (text : Text) : Prop :=
  ∃ parts : List Text, (∀ part ∈ parts, IsPart part) ∧ parts.flatten = text

namespace MadeOf

variable {IsPart : Text → Prop}

theorem nil : MadeOf IsPart [] :=
  ⟨[], by simp, rfl⟩

theorem single {part : Text} (isPart : IsPart part) : MadeOf IsPart part :=
  ⟨[part], by simpa using isPart, by simp⟩

theorem append {front back : Text} (madeFront : MadeOf IsPart front)
    (madeBack : MadeOf IsPart back) : MadeOf IsPart (front ++ back) := by
  obtain ⟨parts, areParts, rfl⟩ := madeFront
  obtain ⟨others, areOthers, rfl⟩ := madeBack
  refine ⟨parts ++ others, ?_, List.flatten_append⟩
  intro part among
  exact (List.mem_append.mp among).elim (areParts part) (areOthers part)

theorem flatten {texts : List Text} (made : ∀ text ∈ texts, MadeOf IsPart text) :
    MadeOf IsPart texts.flatten := by
  induction texts with
  | nil => exact nil
  | cons text rest inductionHypothesis =>
      rw [List.forall_mem_cons] at made
      exact made.1.append (inductionHypothesis made.2)

/-- Parts may be taken apart further. -/
theorem refine {IsUnit : Text → Prop} {text : Text} (made : MadeOf IsPart text)
    (finer : ∀ part, IsPart part → MadeOf IsUnit part) : MadeOf IsUnit text := by
  obtain ⟨parts, areParts, rfl⟩ := made
  exact flatten fun part among => finer part (areParts part among)

theorem intercalate {separator : Text} (madeSeparator : MadeOf IsPart separator)
    {texts : List Text} (made : ∀ text ∈ texts, MadeOf IsPart text) :
    MadeOf IsPart (List.intercalate separator texts) := by
  cases texts with
  | nil => exact nil
  | cons text rest =>
      rw [List.forall_mem_cons] at made
      rw [Text.intercalate_cons, List.flatMap_def]
      refine made.1.append (flatten ?_)
      intro lengthened among
      obtain ⟨other, inRest, rfl⟩ := List.mem_map.mp among
      exact madeSeparator.append (made.2 other inRest)

theorem exists_part {text : Text} (made : MadeOf IsPart text) {point : CodePoint}
    (among : point ∈ text) : ∃ part, IsPart part ∧ point ∈ part := by
  obtain ⟨parts, areParts, rfl⟩ := made
  obtain ⟨part, inParts, inPart⟩ := List.mem_flatten.mp among
  exact ⟨part, areParts part inParts, inPart⟩

end MadeOf

namespace Percent

open Grammar (IsHexDigit)

/-- A character that stands for itself, or a percent sign and two hexadecimal digits. -/
inductive IsUnit (Stands : Char → Prop) : Text → Prop where
  | char {char} : Stands char → IsUnit Stands [.scalar char]
  | triplet {high low} : IsHexDigit high → IsHexDigit low →
      IsUnit Stands [.scalar '%', .scalar high, .scalar low]

theorem IsUnit.mono {Stands Others : Char → Prop} (weaker : ∀ char, Stands char → Others char)
    {unit : Text} (isUnit : IsUnit Stands unit) : IsUnit Others unit := by
  cases isUnit with
  | char stands => exact .char (weaker _ stands)
  | triplet high low => exact .triplet high low

theorem madeOf_mono {Stands Others : Char → Prop}
    (weaker : ∀ char, Stands char → Others char) {text : Text}
    (made : MadeOf (IsUnit Stands) text) : MadeOf (IsUnit Others) text :=
  made.refine fun _ isUnit => .single (isUnit.mono weaker)

theorem IsUnit.point {Stands : Char → Prop} {unit : Text} (isUnit : IsUnit Stands unit)
    {point : CodePoint} (among : point ∈ unit) :
    ∃ char, point = .scalar char ∧ (Stands char ∨ char = '%' ∨ IsHexDigit char) := by
  cases isUnit with
  | char stands =>
      rw [List.mem_singleton] at among
      exact ⟨_, among, Or.inl stands⟩
  | triplet highDigit lowDigit =>
      simp only [List.mem_cons, List.not_mem_nil, or_false] at among
      rcases among with isPercent | isHigh | isLow
      · exact ⟨_, isPercent, Or.inr (Or.inl rfl)⟩
      · exact ⟨_, isHigh, Or.inr (Or.inr highDigit)⟩
      · exact ⟨_, isLow, Or.inr (Or.inr lowDigit)⟩

theorem IsUnit.digits_after_percent {Stands : Char → Prop} (escaped : ¬Stands '%')
    {unit before after : Text} (isUnit : IsUnit Stands unit)
    (split : unit = before ++ .scalar '%' :: after) :
    ∃ high low, after = [.scalar high, .scalar low] ∧ IsHexDigit high ∧ IsHexDigit low := by
  have noDigit : ¬IsHexDigit '%' := by decide
  cases isUnit with
  | char stands =>
      rcases before with _ | ⟨point, before⟩
      · simp only [List.nil_append, List.cons.injEq, CodePoint.scalar.injEq] at split
        exact absurd (split.1 ▸ stands) escaped
      · simp at split
  | @triplet high low highDigit lowDigit =>
      rcases before with _ | ⟨_, _ | ⟨_, _ | ⟨_, before⟩⟩⟩
      · simp only [List.nil_append, List.cons.injEq, true_and] at split
        exact ⟨high, low, split.symm, highDigit, lowDigit⟩
      · simp only [List.cons_append, List.nil_append, List.cons.injEq, CodePoint.scalar.injEq]
          at split
        exact absurd (split.2.1 ▸ highDigit) noDigit
      · simp only [List.cons_append, List.nil_append, List.cons.injEq, CodePoint.scalar.injEq]
          at split
        exact absurd (split.2.2.1 ▸ lowDigit) noDigit
      · simp at split

/-- Where percent signs do not stand for themselves, both digits follow each of them. -/
theorem digits_after_percent {Stands : Char → Prop} (escaped : ¬Stands '%')
    {text before after : Text} (made : MadeOf (IsUnit Stands) text)
    (split : text = before ++ .scalar '%' :: after) :
    ∃ high low later, after = .scalar high :: .scalar low :: later ∧
      IsHexDigit high ∧ IsHexDigit low := by
  obtain ⟨units, areUnits, rfl⟩ := made
  induction units generalizing before with
  | nil => simp at split
  | cons unit rest inductionHypothesis =>
      rw [List.forall_mem_cons] at areUnits
      rw [List.flatten_cons, List.append_eq_append_iff] at split
      rcases split with ⟨skipped, rfl, later⟩ | ⟨remaining, here, continued⟩
      · exact inductionHypothesis areUnits.2 later
      · cases remaining with
        | nil =>
            have inRest : rest.flatten = [] ++ .scalar '%' :: after := continued.symm
            exact inductionHypothesis areUnits.2 inRest
        | cons point others =>
            obtain ⟨rfl, rfl⟩ := List.cons.inj continued
            obtain ⟨high, low, rfl, digits⟩ := areUnits.1.digits_after_percent escaped here
            exact ⟨high, low, rest.flatten, rfl, digits⟩

/-- The reserved characters are few, so that a property may be checked for each of them. -/
theorem forall_reserved {IsGood : Char → Prop} [DecidablePred IsGood]
    (checked : (reserved.all fun char => decide (IsGood char)) = true) :
    ∀ char ∈ reserved, IsGood char := by
  simpa using checked

/-- A reserved character stands for itself wherever it occurs. -/
theorem stands_of_reserved {Stands : Char → Prop} {text : Text}
    (made : MadeOf (IsUnit Stands) text) {char : Char} (isReserved : char ∈ reserved)
    (among : .scalar char ∈ text) : Stands char := by
  obtain ⟨unit, isUnit, inUnit⟩ := made.exists_part among
  obtain ⟨same, equality, stands | isPercent | isHex⟩ := isUnit.point inUnit
  · cases equality
    exact stands
  · cases equality
    subst isPercent
    exact absurd isReserved (by decide)
  · cases equality
    have noDigit : ∀ char ∈ reserved, ¬IsHexDigit char := forall_reserved (by decide)
    exact absurd isHex (noDigit char isReserved)

/-- The visible characters of ASCII but for quotes and braces. -/
def IsGraphic (char : Char) : Prop :=
  '!' ≤ char ∧ char ≤ '~' ∧ char ≠ '"' ∧ char ≠ '{' ∧ char ≠ '}'

instance (char : Char) : Decidable (IsGraphic char) :=
  inferInstanceAs (Decidable (_ ∧ _))

theorem isKept_cases {allowReserved : Bool} {char : Char}
    (kept : isKept allowReserved char = true) :
    isUnreserved char = true ∨ allowReserved = true ∧ char ∈ reserved := by
  simpa [isKept] using kept

theorem toNat_lt_of_isUnreserved {char : Char} (kept : isUnreserved char = true) :
    char.toNat < 128 := by
  simp only [isUnreserved, Bool.or_eq_true, beq_iff_eq, Grammar.isAlphanum_iff] at kept
  rcases kept with ((((((⟨_, upper⟩ | ⟨_, lower⟩) | ⟨_, digit⟩) | rfl) | rfl) | rfl) | rfl)
  · exact Nat.lt_of_le_of_lt upper (by decide)
  · exact Nat.lt_of_le_of_lt lower (by decide)
  · exact Nat.lt_of_le_of_lt digit (by decide)
  all_goals decide

theorem isGraphic_of_isUnreserved {char : Char} (kept : isUnreserved char = true) :
    IsGraphic char := by
  have each : ∀ number < 128, isUnreserved (Char.ofNat number) = true →
      IsGraphic (Char.ofNat number) := by
    decide
  rw [← Char.ofNat_toNat char] at kept ⊢
  exact each char.toNat (toNat_lt_of_isUnreserved (by rwa [Char.ofNat_toNat] at kept)) kept

theorem isUnreserved_of_isNameChar {char : Char} (isName : Grammar.IsNameChar char) :
    isUnreserved char = true := by
  rw [← Grammar.isNameChar_iff, VarSpec.isNameChar] at isName
  rw [isUnreserved]
  simp only [Bool.or_eq_true] at isName ⊢
  tauto

/-- Texts made of unreserved and reserved characters and triplets are plain ASCII. -/
theorem isGraphic_of_madeOf {text : Text}
    (made : MadeOf (IsUnit fun char => isUnreserved char = true ∨ char ∈ reserved) text)
    {point : CodePoint} (among : point ∈ text) :
    ∃ char, point = .scalar char ∧ IsGraphic char := by
  obtain ⟨unit, isUnit, inUnit⟩ := made.exists_part among
  obtain ⟨char, equality, (kept | isReserved) | rfl | isHex⟩ := isUnit.point inUnit
  · exact ⟨char, equality, isGraphic_of_isUnreserved kept⟩
  · have each : ∀ char ∈ reserved, IsGraphic char := forall_reserved (by decide)
    exact ⟨char, equality, each char isReserved⟩
  · exact ⟨'%', equality, by decide⟩
  · exact ⟨char, equality, isGraphic_of_isUnreserved
      (isUnreserved_of_isNameChar isHex.isNameChar)⟩

/-- Names are written as they are, and hold nothing that would have to be encoded. -/
theorem madeOf_name {name : Text} (isName : Grammar.IsName name) :
    MadeOf (IsUnit fun char => isUnreserved char = true) name := by
  obtain ⟨units, _, areUnits, spelled⟩ := isName
  refine ⟨units, ?_, spelled⟩
  intro unit among
  cases areUnits unit among with
  | char allowed => exact .char (isUnreserved_of_isNameChar allowed)
  | triplet high low => exact .triplet high low

theorem isHexDigit_hexDigit {digit : Nat} (small : digit < 16) : IsHexDigit (hexDigit digit) := by
  have each : ∀ digit < 16, IsHexDigit (hexDigit digit) := by decide
  exact each digit small

theorem isUnit_triplet (Stands : Char → Prop) (octet : UInt8) :
    IsUnit Stands (Text.ofChars (triplet octet)) := by
  have bound : octet.toNat < 256 := octet.toNat_lt
  exact .triplet (isHexDigit_hexDigit (by omega)) (isHexDigit_hexDigit (by omega))

theorem madeOf_flatMap {Item : Type} {IsPart : Text → Prop} {written : Item → List Char}
    (each : ∀ item, MadeOf IsPart (Text.ofChars (written item))) (items : List Item) :
    MadeOf IsPart (Text.ofChars (items.flatMap written)) := by
  rw [List.flatMap_def, Text.ofChars, List.map_flatten]
  refine .flatten ?_
  intro part among
  simp only [List.map_map, List.mem_map] at among
  obtain ⟨item, _, rfl⟩ := among
  exact each item

/-- An encoded text is made of what it keeps and of triplets. -/
theorem madeOf_encode_of {IsPart : Text → Prop} {allowReserved : Bool}
    (keeps : ∀ char, isKept allowReserved char = true → IsPart [.scalar char])
    (escapes : ∀ octet, IsPart (Text.ofChars (triplet octet))) (chars : List Char) :
    MadeOf IsPart (Text.ofChars (encode allowReserved chars)) := by
  refine madeOf_flatMap (fun char => ?_) chars
  rw [encodeChar]
  split
  · next kept => exact .single (keeps char kept)
  · exact madeOf_flatMap (fun octet => .single (escapes octet)) _

theorem madeOf_encode (allowReserved : Bool) (chars : List Char) :
    MadeOf (IsUnit fun kept => isKept allowReserved kept = true)
      (Text.ofChars (encode allowReserved chars)) :=
  madeOf_encode_of (fun _ kept => .char kept) (isUnit_triplet _) chars

end Percent

end UriTemplate
