import UriTemplate.Proofs.Template.Printing
import UriTemplate.Proofs.Expansion.Streaming
import UriTemplate.Proofs.Value.Coercion
import Mathlib.Algebra.Order.BigOperators.Group.List
import Mathlib.Algebra.Order.Group.Nat

/-!
Which bindings an expansion depends on.

The variables of a template are its names in the order in which they are written.
An expansion depends on them and on nothing else: bindings that agree on them give
the same text, and for each of them there are two bindings that differ in it alone
and give different texts.  `Template.mem_variableNames_iff_relevant` says both.  To
tell such bindings apart it is enough to count code points: whatever is bound, an
expansion is no shorter than with nothing bound, and a text bound to one of the
names makes it longer, however often the name is used.
-/

namespace UriTemplate

namespace Template

/-! ## The list of names -/

/-- The members of a list without its repetitions stand in the order of their first occurrences. -/
theorem pairwise_eraseDups (texts : List Text) :
    texts.eraseDups.Pairwise fun earlier later => texts.idxOf earlier < texts.idxOf later := by
  induction texts using List.reverseRecOn with
  | nil => exact List.Pairwise.nil
  | append_singleton front last inductionHypothesis =>
      have kept : front.eraseDups.Pairwise fun earlier later =>
          (front ++ [last]).idxOf earlier < (front ++ [last]).idxOf later := by
        refine inductionHypothesis.imp_of_mem ?_
        intro earlier later among amongLater before
        rwa [List.idxOf_append_of_mem (List.mem_eraseDups.mp among),
          List.idxOf_append_of_mem (List.mem_eraseDups.mp amongLater)]
      rw [List.eraseDups_append]
      by_cases again : last ∈ front
      · simpa [List.removeAll, again] using kept
      · have new : ([last].removeAll front).eraseDups = [last] := by
          simp [List.removeAll, again, List.eraseDups_cons]
        rw [new, List.pairwise_append]
        refine ⟨kept, List.pairwise_singleton _ _, ?_⟩
        intro earlier among later isLast
        have inFront := List.mem_eraseDups.mp among
        rw [List.mem_singleton.mp isLast, List.idxOf_append_of_mem inFront,
          List.idxOf_append_of_notMem again]
        exact Nat.lt_add_right _ (List.idxOf_lt_length_of_mem inFront)

theorem nodup_eraseDups (texts : List Text) : texts.eraseDups.Nodup :=
  (pairwise_eraseDups texts).imp fun before same => before.ne (congrArg texts.idxOf same)

end Template

/-- The names of the variables of a text, in the order in which they are written. -/
def Grammar.Decomposition.names {raw : Text} (decomposition : Grammar.Decomposition raw) :
    List Text :=
  decomposition.pieces.flatMap fun
    | .run _ _ _ => []
    | .braced expression => expression.listed.map Grammar.Variable.name

theorem Grammar.Decomposition.flatMap_names {raw : Text}
    (decomposition : Grammar.Decomposition raw) :
    decomposition.components.flatMap Component.names = decomposition.names := by
  rw [components, List.flatMap_map, names]
  congr 1
  funext piece
  cases piece with
  | run text nonempty plain => rfl
  | braced expression =>
      simp only [Piece.component, Component.names, Braced.expression, List.map_map]
      rfl

/-! ## What an expansion looks at -/

section Agreement

variable {environment other : Environment}

theorem VarSpec.fragment?_congr (operator : Operator) {spec : VarSpec}
    (agree : environment spec.name = other spec.name) :
    spec.fragment? operator environment = spec.fragment? operator other := by
  rw [fragment?, fragment?, agree]

theorem Expression.expand_congr {parsed : Expression}
    (agree : ∀ spec ∈ parsed.specs, environment spec.name = other spec.name) :
    parsed.expand environment = parsed.expand other := by
  have fragments : parsed.specs.filterMap (VarSpec.fragment? parsed.operator environment) =
      parsed.specs.filterMap (VarSpec.fragment? parsed.operator other) := by
    apply List.filterMap_congr
    intro spec among
    exact VarSpec.fragment?_congr parsed.operator (agree spec among)
  rw [expand, expandSpecs, fragments]
  rfl

theorem Component.expandAll_congr {components : List Component}
    (agree : ∀ name ∈ components.flatMap names, environment name = other name) :
    expandAll environment components = expandAll other components := by
  rw [expandAll, expandAll]
  apply List.flatMap_congr
  intro component among
  cases component with
  | literal run => rfl
  | expression parsed =>
      apply Expression.expand_congr
      intro spec inSpecs
      apply agree
      exact List.mem_flatMap.mpr ⟨_, among, List.mem_map_of_mem inSpecs⟩

end Agreement

/-! ## What makes an expansion longer -/

/-- Nothing is bound. -/
def Environment.silent : Environment :=
  fun _ => none

section Lengths

variable {environment : Environment}

theorem Expression.expand_silent (parsed : Expression) :
    parsed.expand Environment.silent = [] := by
  have noFragment : parsed.specs.filterMap
      (VarSpec.fragment? parsed.operator Environment.silent) = [] := by
    rw [List.filterMap_eq_nil_iff]
    intro spec among
    rfl
  rw [expand, expandSpecs, noFragment]

theorem Component.length_expand_silent_le (component : Component) :
    (component.expand Environment.silent).length ≤ (component.expand environment).length := by
  cases component with
  | literal run => exact Nat.le_refl _
  | expression parsed =>
      rw [expand, Expression.expand_silent]
      exact Nat.zero_le _

theorem Streaming.truncate_singleton (char : Char) (modifier : Modifier) :
    truncate [char] modifier = [char] := by
  cases modifier with
  | plain => rfl
  | explode => rfl
  | truncate length => exact List.take_of_length_le length.positive

theorem Streaming.withName_ne_nil (operator : Operator) (name : Text) {text : Text}
    (nonempty : text ≠ []) : withName operator name text ≠ [] := by
  rw [withName]
  split
  · exact List.append_ne_nil_of_right_ne_nil _ (List.cons_ne_nil _ _)
  · exact nonempty

theorem Streaming.joined_ne_nil (operator : Operator) {pieces : List Text} {piece : Text}
    (among : piece ∈ pieces) (nonempty : piece ≠ []) : joined operator pieces ≠ [] := by
  rw [joined_of_ne_nil operator (List.ne_nil_of_mem among)]
  obtain ⟨earlier, later, rfl⟩ := List.append_of_mem among
  rw [Text.intercalate_append_cons]
  simp [nonempty]

/-- A variable that a letter is bound to leaves a trace, whatever its operator and modifier. -/
theorem Expression.expand_ne_nil {parsed : Expression} {spec : VarSpec}
    (among : spec ∈ parsed.specs) (bound : environment spec.name = some (.text ['a'])) :
    parsed.expand environment ≠ [] := by
  have encoded : Streaming.encode parsed.operator ['a'] ≠ [] := by
    cases parsed.operator <;> decide
  have rendered : Streaming.withName parsed.operator spec.name
      (Streaming.encode parsed.operator ['a']) ∈
        Streaming.piecesIn parsed.operator environment spec := by
    refine Streaming.mem_piecesIn_iff.mpr ⟨_, bound, rfl, ?_⟩
    simp [Streaming.pieces, Streaming.truncate_singleton]
  rw [expand, Streaming.expandSpecs_eq]
  apply Streaming.joined_ne_nil _ (List.mem_flatMap.mpr ⟨spec, among, rendered⟩)
  exact Streaming.withName_ne_nil _ _ encoded

theorem Component.length_expand_silent_lt {component : Component} {name : Text}
    (among : name ∈ component.names) (bound : environment name = some (.text ['a'])) :
    (component.expand Environment.silent).length < (component.expand environment).length := by
  cases component with
  | literal run => exact absurd among List.not_mem_nil
  | expression parsed =>
      obtain ⟨spec, inSpecs, rfl⟩ := List.mem_map.mp among
      rw [expand, Expression.expand_silent]
      exact List.length_pos_of_ne_nil (Expression.expand_ne_nil inSpecs bound)

theorem Component.length_expandAll_silent_lt {components : List Component} {name : Text}
    (among : name ∈ components.flatMap names) (bound : environment name = some (.text ['a'])) :
    (expandAll Environment.silent components).length <
      (expandAll environment components).length := by
  obtain ⟨component, inComponents, inNames⟩ := List.mem_flatMap.mp among
  rw [expandAll, expandAll, List.length_flatMap, List.length_flatMap]
  apply List.sum_lt_sum
  · intro other _
    exact other.length_expand_silent_le
  · exact ⟨component, inComponents, component.length_expand_silent_lt inNames bound⟩

end Lengths

namespace Template

theorem mem_variableNames {template : Template} {name : Text} :
    name ∈ template.variableNames ↔ name ∈ template.components.flatMap Component.names :=
  List.mem_eraseDups

theorem expand_congr {template : Template} {bindings overriding others replacing : Bindings Datum}
    {values otherValues : Bindings Value}
    (coerced : coerce (bindings.overlay overriding) = .ok values)
    (otherCoerced : coerce (others.overlay replacing) = .ok otherValues)
    (agree : ∀ name ∈ template.variableNames, values.find? name = otherValues.find? name) :
    template.expand bindings overriding = template.expand others replacing := by
  rw [expand_of_coerce coerced, expand_of_coerce otherCoerced]
  refine congrArg Except.ok (Component.expandAll_congr ?_)
  intro name among
  exact agree name (mem_variableNames.mpr among)

/-- Binding a letter to a name of a template is seen in its expansion. -/
theorem exists_difference {template : Template} {name : Text}
    (listed : name ∈ template.variableNames) :
    ∃ text otherText, template.expand [] [] = .ok text ∧
      template.expand [(name, .text "a")] [] = .ok otherText ∧ text ≠ otherText := by
  have silent : template.expand [] [] =
      .ok (Component.expandAll Environment.silent template.components) := rfl
  have bound : Bindings.environment [(name, .text ['a'])] name = some (.text ['a']) := by
    rw [Bindings.environment, Bindings.find?, if_pos rfl]
  have coerced : coerce (Bindings.overlay [(name, .text "a")] []) =
      .ok [(name, .text ['a'])] := rfl
  refine ⟨_, _, silent, expand_of_coerce coerced, ?_⟩
  intro same
  have longer := Component.length_expandAll_silent_lt (mem_variableNames.mp listed) bound
  rw [same] at longer
  exact Nat.lt_irrefl _ longer

/-- The variables of a template are the names that are written in it, each once and in the order of
first occurrence, and they are the names that its expansion depends on: each of them can change it
by itself, and bindings that agree on all of them have the same expansion. -/
theorem mem_variableNames_iff_relevant {raw : Text} {template : Template}
    (accepted : ofText raw = .ok template) :
    (∃ decomposition : Grammar.Decomposition raw,
      decomposition.components = template.components ∧
      (∀ name, name ∈ template.variableNames ↔ name ∈ decomposition.names) ∧
      template.variableNames.Nodup ∧
      template.variableNames.Pairwise fun earlier later =>
        decomposition.names.idxOf earlier < decomposition.names.idxOf later) ∧
    (∀ name, name ∈ template.variableNames ↔
      ∃ bindings others : Bindings Datum, bindings.names.Nodup ∧ others.names.Nodup ∧
        (∀ other, other ≠ name → bindings.find? other = others.find? other) ∧
        ∃ text otherText, template.expand bindings [] = .ok text ∧
          template.expand others [] = .ok otherText ∧ text ≠ otherText) ∧
    ∀ bindings overriding values others replacing otherValues,
      coerce (bindings.overlay overriding) = .ok values →
      coerce (others.overlay replacing) = .ok otherValues →
      (∀ name ∈ template.variableNames, values.find? name = otherValues.find? name) →
      ∃ text, template.expand bindings overriding = .ok text ∧
        template.expand others replacing = .ok text := by
  obtain ⟨rfl, read⟩ := ofText_eq_ok_iff.mp accepted
  refine ⟨?_, ?_, ?_⟩
  · obtain ⟨pieces, maximal, spelled, stands⟩ := Grammar.exists_pieces_of_readAll read
    let decomposition : Grammar.Decomposition template.raw := ⟨pieces, maximal, spelled⟩
    have written : template.components.flatMap Component.names = decomposition.names := by
      rw [← decomposition.flatMap_names, ← stands]
      rfl
    refine ⟨decomposition, stands, ?_, nodup_eraseDups _, ?_⟩
    · intro name
      rw [mem_variableNames, written]
    · rw [← written]
      exact pairwise_eraseDups _
  · intro name
    constructor
    · intro listed
      refine ⟨[], [(name, .text "a")], List.nodup_nil, List.pairwise_singleton _ _, ?_,
        exists_difference listed⟩
      intro other differs
      rw [Bindings.find?, Bindings.find?, if_neg (Ne.symm differs), Bindings.find?]
    · rintro ⟨bindings, others, once, otherOnce, agree, text, otherText, expanded,
        otherExpanded, differs⟩
      by_contra unlisted
      obtain ⟨values, coerced, _⟩ := Outcome.bind_eq_ok_iff.mp expanded
      obtain ⟨otherValues, otherCoerced, _⟩ := Outcome.bind_eq_ok_iff.mp otherExpanded
      have same : template.expand bindings [] = template.expand others [] := by
        apply expand_congr coerced otherCoerced
        intro other among
        apply find?_coerce_congr once otherOnce coerced otherCoerced
        apply agree
        rintro rfl
        exact unlisted among
      rw [expanded, otherExpanded] at same
      exact differs (Except.ok.inj same)
  · intro bindings overriding values others replacing otherValues coerced otherCoerced agree
    refine ⟨_, expand_of_coerce coerced, ?_⟩
    rw [← expand_congr coerced otherCoerced agree]
    exact expand_of_coerce coerced

/-- A name that is used twice matters, and one that is bound beside it does not. -/
theorem mem_variableNames_iff_relevant_unused :
    ∃ template, ofText "{x:1}{?y*,x}" = .ok template ∧
      template.variableNames = [Text.ofString "x", Text.ofString "y"] ∧
      (∃ bindings others : Bindings Datum,
        (∀ other, other ≠ Text.ofString "x" → bindings.find? other = others.find? other) ∧
        ∃ text otherText, template.expand bindings [] = .ok text ∧
          template.expand others [] = .ok otherText ∧ text ≠ otherText) ∧
      ∃ text, template.expand [("z", .text "q"), ("x", .integer 70)] [] = .ok text ∧
        template.expand [("x", .null)] [("x", .text "70")] = .ok text := by
  have reads : Component.readAll 0 "{x:1}{?y*,x}" = .ok
      [.expression ⟨.simple, [⟨"x", .truncate ⟨1, by decide, by decide⟩⟩], by simp⟩,
        .expression ⟨.query, [⟨"y", .explode⟩, ⟨"x", .plain⟩], by simp⟩] := by
    decide +kernel
  let template : Template := ⟨_, _, reads⟩
  have accepted : ofText template.raw = .ok template := ofText_raw template
  have listed : template.variableNames = [Text.ofString "x", Text.ofString "y"] := by rfl
  obtain ⟨_, relevant, agreement⟩ := mem_variableNames_iff_relevant accepted
  refine ⟨template, accepted, listed, ?_, ?_⟩
  · obtain ⟨bindings, others, _, _, differing⟩ := (relevant "x").mp (by rw [listed]; decide)
    exact ⟨bindings, others, differing⟩
  · apply agreement _ _ [("z", .text ['q']), ("x", .text ['7', '0'])] _ _ [("x", .text ['7', '0'])]
    · rfl
    · rfl
    · rw [listed]
      decide

end Template

end UriTemplate
