import UriTemplate.Proofs.Template.Printing

/-!
What components keep of the text that they were read from.

A length may be written with zeros in front, and components do not remember them.
Everything else they do: written down again, they are the text without such zeros
(`Piece.trim`).  So they are written as the text itself exactly if it has none, and
two texts are read as the same components exactly if they agree up to these zeros
(`Component.sourceAll_eq_trimmed`).
-/

namespace UriTemplate.Grammar

theorem ofChars_toDigits (digit : Fin 10) :
    Text.ofChars (Nat.toDigits 10 digit.val) = [digitPoint digit] := by
  revert digit
  decide

/-- Digits go on to the numeral of a number that is not zero. -/
theorem ofChars_toDigits_foldl {value : Nat} (positive : 0 < value) (digits : List (Fin 10)) :
    Text.ofChars
        (Nat.toDigits 10 (digits.foldl (fun value digit => value * 10 + digit.val) value)) =
      Text.ofChars (Nat.toDigits 10 value) ++ digits.map digitPoint := by
  induction digits generalizing value with
  | nil => simp
  | cons digit rest inductionHypothesis =>
      rw [List.foldl_cons, inductionHypothesis (by omega), Nat.mul_comm,
        ← Nat.toDigits_append_toDigits (by decide) positive digit.isLt, Text.ofChars,
        List.map_append, ← Text.ofChars, ← Text.ofChars, ofChars_toDigits, List.append_assoc,
        List.map_cons, List.singleton_append]

theorem decimal_cons (first : Fin 10) (rest : List (Fin 10)) :
    decimal (first :: rest) =
      rest.foldl (fun value digit => value * 10 + digit.val) first.val := by
  rw [decimal, List.foldl_cons, Nat.zero_mul, Nat.zero_add]

theorem decimal_dropWhile (digits : List (Fin 10)) :
    decimal (digits.dropWhile (· == 0)) = decimal digits := by
  induction digits with
  | nil => rfl
  | cons digit rest inductionHypothesis =>
      rw [List.dropWhile_cons]
      split
      · next zero =>
          rw [inductionHypothesis, eq_of_beq zero, decimal_cons]
          rfl
      · rfl

namespace Numeral

/-- No zero in front. -/
def IsTrimmed (numeral : Numeral) : Prop :=
  numeral.digits.head? ≠ some 0

/-- The same number without zeros in front. -/
def trim (numeral : Numeral) : Numeral where
  digits := numeral.digits.dropWhile (· == 0)
  nonempty := by
    intro none
    have zero : decimal numeral.digits = 0 := by
      rw [← decimal_dropWhile, none]
      rfl
    exact absurd numeral.positive (by omega)
  short := (List.dropWhile_suffix _).length_le.trans numeral.short
  positive := by
    rw [decimal_dropWhile]
    exact numeral.positive

theorem isTrimmed_trim (numeral : Numeral) : numeral.trim.IsTrimmed := by
  intro zero
  have stopped := List.head?_dropWhile_not (· == 0) numeral.digits
  rw [show (numeral.digits.dropWhile (· == 0)).head? = some 0 from zero] at stopped
  contradiction

theorem trim_of_isTrimmed {numeral : Numeral} (trimmed : numeral.IsTrimmed) :
    numeral.trim = numeral := by
  obtain ⟨digits, nonempty, short, positive⟩ := numeral
  cases digits with
  | nil => contradiction
  | cons first rest =>
      have kept : (first == 0) = false := by
        rw [beq_eq_false_iff_ne]
        rintro rfl
        exact trimmed rfl
      simp [trim, kept]

theorem maxLength_trim (numeral : Numeral) : numeral.trim.maxLength = numeral.maxLength := by
  simp only [maxLength, trim, decimal_dropWhile]

theorem written_of_isTrimmed {numeral : Numeral} (trimmed : numeral.IsTrimmed) :
    numeral.written = Text.ofNat numeral.maxLength.count := by
  obtain ⟨digits, nonempty, short, positive⟩ := numeral
  cases digits with
  | nil => contradiction
  | cons first rest =>
      have notZero : 0 < first.val := by
        rw [Nat.pos_iff_ne_zero]
        intro zero
        exact trimmed (congrArg some (Fin.ext zero))
      change (first :: rest).map digitPoint = Text.ofNat (decimal (first :: rest))
      rw [Text.ofNat_eq_ofChars, decimal_cons, ofChars_toDigits_foldl notZero, ofChars_toDigits,
        List.map_cons, List.singleton_append]

end Numeral

namespace Suffix

def IsTrimmed : Suffix → Prop
  | .length numeral => numeral.IsTrimmed
  | _ => True

def trim : Suffix → Suffix
  | .length numeral => .length numeral.trim
  | suffix => suffix

theorem isTrimmed_trim (suffix : Suffix) : suffix.trim.IsTrimmed := by
  cases suffix with
  | nothing => trivial
  | star => trivial
  | length numeral => exact numeral.isTrimmed_trim

theorem trim_of_isTrimmed {suffix : Suffix} (trimmed : suffix.IsTrimmed) :
    suffix.trim = suffix := by
  cases suffix with
  | nothing => rfl
  | star => rfl
  | length numeral => rw [trim, numeral.trim_of_isTrimmed trimmed]

theorem modifier_trim (suffix : Suffix) : suffix.trim.modifier = suffix.modifier := by
  cases suffix with
  | nothing => rfl
  | star => rfl
  | length numeral => rw [trim, modifier, numeral.maxLength_trim, ← modifier]

theorem written_trim (suffix : Suffix) : suffix.trim.written = suffix.modifier.source := by
  cases suffix with
  | nothing => rfl
  | star => rfl
  | length numeral =>
      rw [trim, written, Numeral.written_of_isTrimmed numeral.isTrimmed_trim,
        numeral.maxLength_trim, modifier, Modifier.source]

end Suffix

namespace Variable

def trim (listed : Variable) : Variable :=
  { listed with suffix := listed.suffix.trim }

theorem spec_trim (listed : Variable) : listed.trim.spec = listed.spec := by
  rw [spec, trim, listed.suffix.modifier_trim]
  rfl

theorem written_trim (listed : Variable) : listed.trim.written = listed.spec.source := by
  rw [written, trim, listed.suffix.written_trim]
  rfl

theorem map_spec_trim (listed : List Variable) :
    (listed.map trim).map spec = listed.map spec := by
  simp [List.map_map, Function.comp_def, spec_trim]

theorem map_written_trim (listed : List Variable) :
    (listed.map trim).map written = (listed.map spec).map VarSpec.source := by
  simp [List.map_map, Function.comp_def, written_trim]

end Variable

def Braced.trim (braced : Braced) : Braced where
  operator := braced.operator
  listed := braced.listed.map Variable.trim
  nonempty := by simpa using braced.nonempty
  glyph_taken := by
    refine glyph_taken_of_undotted (by simpa using braced.nonempty) ?_
    intro simple first isFirst
    rw [List.head?_map] at isFirst
    obtain ⟨original, isOriginal, rfl⟩ := Option.map_eq_some_iff.mp isFirst
    exact braced.undotted simple original isOriginal

namespace Piece

/-- No length with zeros in front. -/
def IsTrimmed : Piece → Prop
  | run _ _ _ => True
  | braced expression => ∀ listed ∈ expression.listed, listed.suffix.IsTrimmed

def trim : Piece → Piece
  | run text nonempty plain => run text nonempty plain
  | braced expression => braced expression.trim

theorem isRun_trim (piece : Piece) : piece.trim.IsRun ↔ piece.IsRun := by
  cases piece <;> rfl

theorem isTrimmed_trim (piece : Piece) : piece.trim.IsTrimmed := by
  cases piece with
  | run text nonempty plain => trivial
  | braced expression =>
      intro listed among
      obtain ⟨original, _, rfl⟩ := List.mem_map.mp among
      exact original.suffix.isTrimmed_trim

theorem trim_of_isTrimmed {piece : Piece} (trimmed : piece.IsTrimmed) : piece.trim = piece := by
  cases piece with
  | run text nonempty plain => rfl
  | braced expression =>
      obtain ⟨operator, listed, nonempty, taken⟩ := expression
      have same : listed.map Variable.trim = listed := by
        refine (List.map_congr_left fun listed among => ?_).trans (List.map_id listed)
        rw [Variable.trim, listed.suffix.trim_of_isTrimmed (trimmed listed among), id]
      simp only [trim, Braced.trim, same]

theorem component_trim (piece : Piece) : piece.trim.component = piece.component := by
  cases piece with
  | run text nonempty plain => rfl
  | braced expression =>
      simp only [trim, component, Braced.trim, Braced.expression, Variable.map_spec_trim]

theorem written_trim (piece : Piece) : piece.trim.written = piece.component.source := by
  cases piece with
  | run text nonempty plain => rfl
  | braced expression =>
      exact Braced.written_eq_source rfl (Variable.map_written_trim expression.listed)

end Piece

theorem maximal_map_trim {pieces : List Piece} (maximal : Maximal pieces) :
    Maximal (pieces.map Piece.trim) := by
  rw [Maximal, List.isChain_map]
  simpa only [Piece.isRun_trim] using maximal

theorem spell_map_trim (pieces : List Piece) :
    spell (pieces.map Piece.trim) = Component.sourceAll (pieces.map Piece.component) := by
  simp only [spell, Component.sourceAll, List.flatMap_map, Piece.written_trim]

theorem map_component_trim (pieces : List Piece) :
    (pieces.map Piece.trim).map Piece.component = pieces.map Piece.component := by
  simp [List.map_map, Function.comp_def, Piece.component_trim]

theorem map_trim_eq_self_iff {pieces : List Piece} :
    pieces.map Piece.trim = pieces ↔ ∀ piece ∈ pieces, piece.IsTrimmed := by
  constructor
  · intro same piece among
    rw [← same] at among
    obtain ⟨original, _, rfl⟩ := List.mem_map.mp among
    exact original.isTrimmed_trim
  · intro trimmed
    refine (List.map_congr_left fun piece among => ?_).trans (List.map_id pieces)
    exact piece.trim_of_isTrimmed (trimmed piece among)

/-- The written form of what is read keeps the text exactly if no length has zeros in front. -/
theorem sourceAll_eq_spell_iff {pieces : List Piece} (maximal : Maximal pieces) :
    Component.sourceAll (pieces.map Piece.component) = spell pieces ↔
      ∀ piece ∈ pieces, piece.IsTrimmed := by
  rw [← spell_map_trim, ← map_trim_eq_self_iff]
  constructor
  · exact spell_injective (maximal_map_trim maximal) maximal
  · intro same
    rw [same]

namespace Decomposition

/-- The text without zeros in front of lengths. -/
def trimmed {raw : Text} (decomposition : Decomposition raw) : Text :=
  spell (decomposition.pieces.map Piece.trim)

def IsTrimmed {raw : Text} (decomposition : Decomposition raw) : Prop :=
  ∀ piece ∈ decomposition.pieces, piece.IsTrimmed

theorem sourceAll_components {raw : Text} (decomposition : Decomposition raw) :
    Component.sourceAll decomposition.components = decomposition.trimmed :=
  (spell_map_trim decomposition.pieces).symm

theorem sourceAll_eq_raw_iff {raw : Text} (decomposition : Decomposition raw) :
    Component.sourceAll decomposition.components = raw ↔ decomposition.IsTrimmed := by
  obtain ⟨pieces, maximal, rfl⟩ := decomposition
  exact sourceAll_eq_spell_iff maximal

theorem readAll_raw {raw : Text} (decomposition : Decomposition raw) :
    Component.readAll 0 raw = .ok decomposition.components := by
  obtain ⟨pieces, maximal, rfl⟩ := decomposition
  exact readAll_spell 0 maximal

theorem exists_of_readAll {raw : Text} {components : List Component}
    (accepted : Component.readAll 0 raw = .ok components) :
    ∃ decomposition : Decomposition raw, decomposition.components = components := by
  obtain ⟨pieces, maximal, spelled, stands⟩ := exists_pieces_of_readAll accepted
  exact ⟨⟨pieces, maximal, spelled⟩, stands⟩

theorem readAll_trimmed {raw : Text} (decomposition : Decomposition raw) :
    Component.readAll 0 decomposition.trimmed = .ok decomposition.components := by
  rw [trimmed, readAll_spell 0 (maximal_map_trim decomposition.maximal), map_component_trim,
    components]

theorem components_eq_iff {raw other : Text} (decomposition : Decomposition raw)
    (otherDecomposition : Decomposition other) :
    otherDecomposition.components = decomposition.components ↔
      otherDecomposition.trimmed = decomposition.trimmed := by
  constructor
  · intro same
    rw [← sourceAll_components, ← sourceAll_components, same]
  · intro same
    have again := otherDecomposition.readAll_trimmed
    rw [same, decomposition.readAll_trimmed] at again
    exact (Except.ok.inj again).symm

end Decomposition

end UriTemplate.Grammar

namespace UriTemplate.Component

open Grammar

/-- What is read is written as the text without zeros in front of its lengths, which is read as the
same, and so as the text itself exactly if it has none.  Texts are read as the same components
exactly if they are the same without such zeros, and only one of them has none. -/
theorem sourceAll_eq_trimmed (raw : Text) (components : List Component)
    (accepted : readAll 0 raw = .ok components) :
    ∃ decomposition : Decomposition raw, decomposition.components = components ∧
      sourceAll components = decomposition.trimmed ∧
      readAll 0 decomposition.trimmed = .ok components ∧
      (sourceAll components = raw ↔ decomposition.IsTrimmed) ∧
      ∀ (other : Text) (otherDecomposition : Decomposition other),
        (readAll 0 other = .ok components ↔
          otherDecomposition.trimmed = decomposition.trimmed) ∧
        (readAll 0 other = .ok components →
          decomposition.IsTrimmed → otherDecomposition.IsTrimmed → other = raw) := by
  obtain ⟨decomposition, rfl⟩ := Decomposition.exists_of_readAll accepted
  refine ⟨decomposition, rfl, decomposition.sourceAll_components,
    decomposition.readAll_trimmed, decomposition.sourceAll_eq_raw_iff, ?_⟩
  intro other otherDecomposition
  rw [otherDecomposition.readAll_raw, Except.ok.injEq]
  refine ⟨decomposition.components_eq_iff otherDecomposition, ?_⟩
  intro same trimmed otherTrimmed
  calc
    other = sourceAll otherDecomposition.components :=
      (otherDecomposition.sourceAll_eq_raw_iff.mpr otherTrimmed).symm
    _ = sourceAll decomposition.components := by rw [same]
    _ = raw := decomposition.sourceAll_eq_raw_iff.mpr trimmed

/-- A length with a zero in front and one without. -/
theorem sourceAll_eq_trimmed_lengths :
    ∃ (components : List Component) (decomposition : Decomposition "x\x7b?a:0120,b*,c:5\x7d"),
      readAll 0 "x\x7b?a:0120,b*,c:5\x7d" = .ok components ∧
      decomposition.trimmed = "x\x7b?a:120,b*,c:5\x7d" ∧ ¬decomposition.IsTrimmed ∧
      sourceAll components = "x\x7b?a:120,b*,c:5\x7d" := by
  have accepted : readAll 0 "x\x7b?a:0120,b*,c:5\x7d" = .ok [.literal "x",
      .expression ⟨.query, [⟨"a", .truncate ⟨120, by decide, by decide⟩⟩, ⟨"b", .explode⟩,
        ⟨"c", .truncate ⟨5, by decide, by decide⟩⟩], by simp⟩] := by
    decide +kernel
  obtain ⟨decomposition, _, written, _, kept, _⟩ := sourceAll_eq_trimmed _ _ accepted
  have source : sourceAll [.literal "x",
      .expression ⟨.query, [⟨"a", .truncate ⟨120, by decide, by decide⟩⟩, ⟨"b", .explode⟩,
        ⟨"c", .truncate ⟨5, by decide, by decide⟩⟩], by simp⟩] = "x\x7b?a:120,b*,c:5\x7d" := by
    decide +kernel
  refine ⟨_, decomposition, accepted, written.symm.trans source, ?_, source⟩
  rw [← kept, source]
  decide +kernel

/-- A text that is accepted, not kept, and not the only one that is read as its components. -/
theorem sourceAll_ne_raw :
    ∃ components, readAll 0 "\x7ba:01\x7d" = .ok components ∧
      sourceAll components = "\x7ba:1\x7d" ∧ sourceAll components ≠ "\x7ba:01\x7d" ∧
      readAll 0 "\x7ba:1\x7d" = .ok components :=
  ⟨[.expression ⟨.simple, [⟨"a", .truncate ⟨1, by decide, by decide⟩⟩], by simp⟩],
    by decide +kernel, by decide +kernel, by decide +kernel, by decide +kernel⟩

end UriTemplate.Component
