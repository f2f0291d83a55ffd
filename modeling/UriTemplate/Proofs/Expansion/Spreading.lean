import UriTemplate.Proofs.Expansion.Streaming

/-!
Spread values beside single texts.

A spread list writes each of its items as a text of its own would be written, and
under a named operator a spread associative list each of its pairs as a text that is
bound to the key.  There is one exception, which `Expression.expandSpecs_spread` is about:
a text without characters is written as the bare name under the operator for
parameters, and an item or a pair without characters keeps the equals sign.
-/

namespace UriTemplate

namespace Streaming

/-- What a variable of a given name writes for a text. -/
def asText (operator : Operator) (label : Text) (chars : List Char) : Text :=
  VarSpec.fragment operator ⟨label, .plain⟩ (.text chars)

/-- What a part of a spread value writes behind that. -/
def excess (operator : Operator) (chars : List Char) : Text :=
  if operator = .parameter ∧ chars = [] then [.scalar '='] else []

theorem excess_eq_nil_iff (operator : Operator) (chars : List Char) :
    excess operator chars = [] ↔ ¬(operator = .parameter ∧ chars = []) := by
  unfold excess
  split <;> simp_all

theorem withName_encode (operator : Operator) (label : Text) (chars : List Char) :
    withName operator label (encode operator chars) =
      asText operator label chars ++ excess operator chars := by
  rw [asText, fragment_eq]
  simp only [pieces, truncate]
  by_cases bare : operator = .parameter ∧ chars = []
  · obtain ⟨rfl, rfl⟩ := bare
    simp [excess, withName, encode, Percent.encode, Operator.isNamed, Text.ofChars]
  · rw [(excess_eq_nil_iff operator chars).mpr bare]
    simp [bare]

section

variable {Item : Type} (operator : Operator) (label : Item → Text) (chars : Item → List Char)

theorem joined_map_withName {items : List Item} (nonempty : items ≠ []) :
    joined operator
        (items.map fun item => withName operator (label item) (encode operator (chars item))) =
      operator.lead ++ List.intercalate operator.separator (items.map fun item =>
        asText operator (label item) (chars item) ++ excess operator (chars item)) := by
  rw [joined_of_ne_nil operator (by simpa using nonempty)]
  simp only [withName_encode]

theorem forall_excess_eq_nil_iff (items : List Item) :
    (∀ item ∈ items, excess operator (chars item) = []) ↔
      ¬(operator = .parameter ∧ [] ∈ items.map chars) := by
  simp only [excess_eq_nil_iff, List.mem_map]
  constructor
  · rintro none ⟨isParameter, item, among, blank⟩
    exact none item among ⟨isParameter, blank⟩
  · rintro none item among ⟨isParameter, blank⟩
    exact none ⟨isParameter, item, among, blank⟩

end

theorem asText_nil {operator : Operator} (named : operator.isNamed = true) (label : Text) :
    asText operator label [] =
      if operator = .parameter then label else label ++ [.scalar '='] := by
  cases operator <;> first | contradiction | rfl

end Streaming

namespace Expression

open Streaming

section

variable (operator : Operator) {environment : Environment} {name : Text}

theorem expandSpecs_singleton {value : Value} (modifier : Modifier)
    (bound : environment name = some value) (defined : value.isDefined = true) :
    expandSpecs operator environment [⟨name, modifier⟩] =
      joined operator (pieces operator ⟨name, modifier⟩ value) := by
  rw [expandSpecs_eq, List.flatMap_singleton, piecesIn, bound]
  simp only [defined, if_true]

theorem expandSpecs_text {chars : List Char} (bound : environment name = some (.text chars)) :
    expandSpecs operator environment [⟨name, .plain⟩] =
      operator.lead ++ asText operator name chars := by
  have defined : (Value.text chars).isDefined = true := rfl
  rw [expandSpecs_singleton operator .plain bound defined,
    joined_of_ne_nil operator (pieces_ne_nil operator _ defined), asText, fragment_eq]

theorem expandSpecs_list {items : List (List Char)} (nonempty : items ≠ [])
    (bound : environment name = some (.list items)) :
    expandSpecs operator environment [⟨name, .explode⟩] =
      operator.lead ++ List.intercalate operator.separator
        (items.map fun item => asText operator name item ++ excess operator item) := by
  rw [expandSpecs_singleton operator .explode bound (by simpa [Value.isDefined] using nonempty),
    pieces, if_pos rfl]
  exact joined_map_withName operator (fun _ => name) id nonempty

theorem expandSpecs_assoc {entries : AssocList} (named : operator.isNamed = true)
    (nonempty : entries.pairs ≠ []) (bound : environment name = some (.assoc entries)) :
    expandSpecs operator environment [⟨name, .explode⟩] =
      operator.lead ++ List.intercalate operator.separator (entries.pairs.map fun pair =>
        asText operator (encode operator pair.1) pair.2 ++ excess operator pair.2) := by
  rw [expandSpecs_singleton operator .explode bound (by simpa [Value.isDefined] using nonempty),
    pieces, if_pos rfl]
  have labelled := joined_map_withName operator
    (fun pair : List Char × List Char => encode operator pair.1) Prod.snd nonempty
  rw [← labelled]
  simp only [withName, if_pos named]

end

/-- A spread value is written as its parts would be written as texts, save that an empty part keeps
the equals sign under the operator for parameters: so exactly if there is no such part. -/
theorem expandSpecs_spread (operator : Operator) (environment : Environment) (name : Text) :
    (∀ items, items ≠ [] → environment name = some (.list items) →
      expandSpecs operator environment [⟨name, .explode⟩] =
          operator.lead ++ List.intercalate operator.separator
            (items.map fun item => asText operator name item ++ excess operator item) ∧
      (expandSpecs operator environment [⟨name, .explode⟩] =
          operator.lead ++ List.intercalate operator.separator
            (items.map fun item => asText operator name item) ↔
        ¬(operator = .parameter ∧ [] ∈ items))) ∧
    (∀ entries : AssocList, operator.isNamed = true → entries.pairs ≠ [] →
      environment name = some (.assoc entries) →
      expandSpecs operator environment [⟨name, .explode⟩] =
          operator.lead ++ List.intercalate operator.separator (entries.pairs.map fun pair =>
            asText operator (encode operator pair.1) pair.2 ++ excess operator pair.2) ∧
      (expandSpecs operator environment [⟨name, .explode⟩] =
          operator.lead ++ List.intercalate operator.separator (entries.pairs.map fun pair =>
            asText operator (encode operator pair.1) pair.2) ↔
        ¬(operator = .parameter ∧ [] ∈ entries.pairs.map Prod.snd))) ∧
    (∀ chars, environment name = some (.text chars) →
      expandSpecs operator environment [⟨name, .plain⟩] =
        operator.lead ++ asText operator name chars) ∧
    (operator.isNamed = true → ∀ label, asText operator label [] =
      if operator = .parameter then label else label ++ [.scalar '=']) := by
  refine ⟨?_, ?_, ?_, ?_⟩
  · intro items nonempty bound
    have written := expandSpecs_list operator nonempty bound
    refine ⟨written, ?_⟩
    rw [written, List.append_cancel_left_eq, Text.intercalate_map_append_eq_iff]
    simpa using forall_excess_eq_nil_iff operator id items
  · intro entries named nonempty bound
    have written := expandSpecs_assoc operator named nonempty bound
    refine ⟨written, ?_⟩
    rw [written, List.append_cancel_left_eq, Text.intercalate_map_append_eq_iff]
    exact forall_excess_eq_nil_iff operator Prod.snd entries.pairs
  · intro chars bound
    exact expandSpecs_text operator bound
  · intro named label
    exact asText_nil named label

/-- Empty parts under an operator that keeps the equals sign of empty texts, and under the one that
does not. -/
theorem expandSpecs_spread_empty :
    ∃ (items : List (List Char)) (entries : AssocList) (environment : Environment),
      items ≠ [] ∧ entries.pairs ≠ [] ∧ environment "l" = some (.list items) ∧
      environment "k" = some (.assoc entries) ∧ environment "t" = some (.text []) ∧
      expandSpecs .query environment [⟨"l", .explode⟩] = "?l=a&l=" ∧
      expandSpecs .query environment [⟨"l", .explode⟩] =
        Operator.query.lead ++ List.intercalate Operator.query.separator
          (items.map fun item => asText .query "l" item) ∧
      expandSpecs .parameter environment [⟨"k", .explode⟩] = ";a%20b=" ∧
      expandSpecs .parameter environment [⟨"k", .explode⟩] ≠
        Operator.parameter.lead ++ List.intercalate Operator.parameter.separator
          (entries.pairs.map fun pair =>
            asText .parameter (encode .parameter pair.1) pair.2) ∧
      expandSpecs .parameter environment [⟨"t", .plain⟩] = ";t" ∧
      asText .query "l" [] = "l=" := by
  let items : List (List Char) := ["a".toList, []]
  let entries : AssocList := ⟨[("a b".toList, [])], by decide⟩
  let environment : Environment := fun name =>
    if name = Text.ofString "l" then some (.list items)
    else if name = Text.ofString "k" then some (.assoc entries)
    else some (.text [])
  have list : environment "l" = some (.list items) := rfl
  have pairs : environment "k" = some (.assoc entries) := by decide +kernel
  have text : environment "t" = some (.text []) := by decide +kernel
  obtain ⟨ofList, _, _, ofEmpty⟩ := expandSpecs_spread .query environment "l"
  have spread := ofList items (by simp [items]) list
  have empty := ofEmpty rfl "l"
  have spreadPairs := (expandSpecs_spread .parameter environment "k").2.1 entries rfl
    (by simp [entries]) pairs
  have single := (expandSpecs_spread .parameter environment "t").2.2.1 [] text
  refine ⟨items, entries, environment, by simp [items], by simp [entries], list, pairs, text,
    by decide +kernel, spread.2.mpr (by simp), by decide +kernel, ?_,
    single.trans (by decide +kernel), empty.trans (by decide +kernel)⟩
  rw [ne_eq, spreadPairs.2]
  simp [entries]

/-- The item without characters is not written as a text without characters is. -/
theorem expandSpecs_spread_ne_texts :
    ∃ (environment : Environment) (items : List (List Char)),
      environment "list" = some (.list items) ∧
      expandSpecs .parameter environment [⟨"list", .explode⟩] = ";list=a;list=" ∧
      Operator.parameter.lead ++ List.intercalate Operator.parameter.separator
        (items.map fun item => asText .parameter "list" item) = ";list=a;list" ∧
      expandSpecs .parameter environment [⟨"list", .explode⟩] ≠
        Operator.parameter.lead ++ List.intercalate Operator.parameter.separator
          (items.map fun item => asText .parameter "list" item) :=
  ⟨fun _ => some (.list ["a".toList, []]), ["a".toList, []], rfl, by decide +kernel,
    by decide +kernel, by decide +kernel⟩

end Expression

end UriTemplate
