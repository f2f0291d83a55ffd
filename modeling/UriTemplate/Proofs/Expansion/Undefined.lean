import UriTemplate.Proofs.Expansion.Relevance
import UriTemplate.Proofs.Value.Refusal

/-!
Undefined variables.

A variable is undefined if nothing is bound to its name, or null, or something
without parts.  An expansion cannot tell these apart, and it cannot tell an
undefined variable from one that is not written: `Template.expand_undefined` says
both.  The reason is the same for both, namely that an expansion only looks at
the defined values of an environment (`Component.expandAll_defined`).
-/

namespace UriTemplate

/-- Whether a datum leaves the name that it is bound to undefined.  A text without characters
does not. -/
def Datum.isVoid : Datum → Bool
  | .null => true
  | .list [] => true
  | .tuple [] => true
  | .mapping [] => true
  | .shaped (.list []) => true
  | .shaped (.assoc ⟨[], _⟩) => true
  | _ => false

namespace Bindings

def isUndefined (bindings : Bindings Datum) (name : Text) : Bool :=
  (bindings.find? name).all Datum.isVoid

/-- Bindings differ at most in what leaves a name undefined. -/
def MatchesDefined (bindings others : Bindings Datum) : Prop :=
  ∀ name, others.find? name = bindings.find? name ∨
    others.isUndefined name = true ∧ bindings.isUndefined name = true

end Bindings

/-- A component without the variables that are undefined; nothing is left of an expression if
all of them are. -/
def Component.prune? (isUndefined : Text → Bool) : Component → Option Component
  | .literal run => some (.literal run)
  | .expression parsed =>
      (Expression.ofSpecs? parsed.operator
        (parsed.specs.filter fun spec => !isUndefined spec.name)).map .expression

/-- The values of an environment that count as defined. -/
def Environment.defined (environment : Environment) : Environment :=
  fun name => (environment name).filter Value.isDefined

/-! ## What an expansion sees of its environment -/

section

variable (operator : Operator) (environment : Environment)

theorem VarSpec.fragment?_defined :
    fragment? operator environment.defined = fragment? operator environment := by
  funext spec
  rw [fragment?, fragment?, Environment.defined]
  cases environment spec.name with
  | none => rfl
  | some value =>
      rw [Option.filter_some]
      by_cases defined : value.isDefined = true <;> simp [defined]

theorem Component.expandAll_defined (components : List Component) :
    expandAll environment.defined components = expandAll environment components := by
  rw [expandAll, expandAll]
  apply List.flatMap_congr
  intro component _
  cases component with
  | literal run => rfl
  | expression parsed =>
      rw [expand, expand, Expression.expand, Expression.expand, Expression.expandSpecs,
        Expression.expandSpecs, VarSpec.fragment?_defined]

end

section Erasure

variable {environment : Environment} {isUndefined : Text → Bool}
  (erasable : ∀ name, isUndefined name = true → environment.defined name = none)
include erasable

theorem VarSpec.fragment?_eq_none (operator : Operator) {spec : VarSpec}
    (undefined : isUndefined spec.name = true) :
    spec.fragment? operator environment = none := by
  rw [← fragment?_defined, fragment?, erasable spec.name undefined]

theorem Expression.expandSpecs_filter (operator : Operator) (specs : List VarSpec) :
    expandSpecs operator environment (specs.filter fun spec => !isUndefined spec.name) =
      expandSpecs operator environment specs := by
  have sameFragments :
      (specs.filter fun spec => !isUndefined spec.name).filterMap
          (VarSpec.fragment? operator environment) =
        specs.filterMap (VarSpec.fragment? operator environment) := by
    rw [List.filterMap_filter]
    apply List.filterMap_congr
    intro spec _
    by_cases undefined : isUndefined spec.name = true
    · simp [undefined, VarSpec.fragment?_eq_none erasable operator undefined]
    · simp [undefined]
  rw [expandSpecs, expandSpecs, sameFragments]

theorem Component.expand_prune? (component : Component) :
    (component.prune? isUndefined).elim [] (expand environment) =
      component.expand environment := by
  cases component with
  | literal run => rfl
  | expression parsed =>
      have whole := Expression.expandSpecs_filter erasable parsed.operator parsed.specs
      rw [expand, Expression.expand, ← whole, prune?, Expression.ofSpecs?]
      by_cases silent : (parsed.specs.filter fun spec => !isUndefined spec.name) = []
      · -- No variable is left, and an expression without variables writes nothing.
        rw [dif_neg (not_not.mpr silent), silent]
        rfl
      · rw [dif_pos silent]
        rfl

theorem Component.expandAll_prune (components : List Component) :
    expandAll environment (components.filterMap (prune? isUndefined)) =
      expandAll environment components := by
  induction components with
  | nil => rfl
  | cons component rest inductionHypothesis =>
      have written := expand_prune? erasable component
      rw [expandAll, expandAll] at inductionHypothesis
      rw [expandAll, expandAll, List.flatMap_cons, ← inductionHypothesis, ← written,
        List.filterMap_cons]
      cases component.prune? isUndefined <;> rfl

end Erasure

/-! ## What coercion makes of void data -/

namespace Datum

theorem isVoid_list_iff (items : List Datum) :
    (list items).isVoid = true ↔
      ∃ value?, (list items).toValue = .ok value? ∧ value?.filter Value.isDefined = none := by
  simp only [toValue_list_eq_ok_iff]
  constructor
  · intro void
    cases items with
    | nil => exact ⟨_, ⟨[], rfl, .nil⟩, rfl⟩
    | cons item rest => contradiction
  · rintro ⟨_, ⟨contents, rfl, texts⟩, silent⟩
    cases texts with
    | nil => rfl
    | cons first others => contradiction

theorem isVoid_mapping_iff (entries : List (Datum × Datum)) :
    (mapping entries).isVoid = true ↔
      ∃ value?, (mapping entries).toValue = .ok value? ∧
        value?.filter Value.isDefined = none := by
  simp only [toValue_mapping_eq_ok_iff]
  constructor
  · intro void
    cases entries with
    | nil => exact ⟨_, ⟨⟨[], List.nodup_nil⟩, rfl, .nil⟩, rfl⟩
    | cons entry rest => contradiction
  · rintro ⟨_, ⟨⟨pairs, distinct⟩, rfl, denoted⟩, silent⟩
    cases denoted with
    | nil => rfl
    | cons first others => contradiction

/-- The void data are those that are coerced to nothing, or to a value that does not count as
defined. -/
theorem isVoid_iff {datum : Datum} :
    datum.isVoid = true ↔
      ∃ value?, datum.toValue = .ok value? ∧ value?.filter Value.isDefined = none := by
  have ofScalar (scalar : Except ValueError Text) :
      ¬∃ value?, (do return some (Value.text (← Role.textValue.chars (← scalar)))) = .ok value? ∧
        value?.filter Value.isDefined = none := by
    rintro ⟨value?, denotes, silent⟩
    simp only [Outcome.bind_eq_ok_iff] at denotes
    obtain ⟨_, _, chars, _, combined⟩ := denotes
    cases combined
    contradiction
  cases datum with
  | null => simp [isVoid, toValue]
  | list items => exact isVoid_list_iff items
  | tuple items =>
      have sameVoid : (tuple items).isVoid = (list items).isVoid := by cases items <;> rfl
      rw [sameVoid]
      exact isVoid_list_iff items
  | mapping entries => exact isVoid_mapping_iff entries
  | shaped value =>
      rcases value with chars | (_ | _) | ⟨_ | _, _⟩ <;>
        simp [isVoid, toValue, Value.isDefined]
  | _ => exact iff_of_false Bool.false_ne_true (ofScalar _)

end Datum

/-! ## Bindings that match -/

namespace Bindings

variable {bindings others overriding : Bindings Datum} {name : Text} {datum : Datum}

theorem matchesDefined_of_agree (undefined : bindings.isUndefined name = true)
    (otherUndefined : others.isUndefined name = true)
    (agree : ∀ other ≠ name, others.find? other = bindings.find? other) :
    bindings.MatchesDefined others := by
  intro other
  by_cases isName : other = name
  · rw [isName]
    exact Or.inr ⟨otherUndefined, undefined⟩
  · exact Or.inl (agree other isName)

theorem matchesDefined_remove (undefined : bindings.isUndefined name = true) :
    bindings.MatchesDefined (bindings.remove name) := by
  apply matchesDefined_of_agree undefined
  · rw [isUndefined, find?_remove, if_pos rfl, Option.all_none]
  · intro other differs
    rw [find?_remove, if_neg differs]

theorem matchesDefined_insert (undefined : bindings.isUndefined name = true)
    (void : datum.isVoid = true) : bindings.MatchesDefined (bindings.insert name datum) := by
  apply matchesDefined_of_agree undefined
  · rw [isUndefined, find?_insert, if_pos rfl, Option.all_some, void]
  · intro other differs
    rw [find?_insert, if_neg (Ne.symm differs)]

theorem MatchesDefined.overlay (matching : bindings.MatchesDefined others)
    (overridingOnce : overriding.names.Nodup) :
    (bindings.overlay overriding).MatchesDefined (others.overlay overriding) := by
  intro name
  rw [isUndefined, isUndefined, find?_overlay overridingOnce, find?_overlay overridingOnce]
  cases overriding.find? name with
  | none => exact matching name
  | some datum => exact Or.inl rfl

theorem matchesDefined_overlay_insert (overridingOnce : overriding.names.Nodup)
    (undefined : (bindings.overlay overriding).isUndefined name = true)
    (void : datum.isVoid = true) :
    (bindings.overlay overriding).MatchesDefined
      (bindings.overlay (overriding.insert name datum)) := by
  have insertedOnce := nodup_insert overridingOnce name datum
  apply matchesDefined_of_agree undefined
  · rw [isUndefined, find?_overlay insertedOnce, find?_insert, if_pos rfl, Option.some_or,
      Option.all_some, void]
  · intro other differs
    rw [find?_overlay insertedOnce, find?_overlay overridingOnce, find?_insert,
      if_neg (Ne.symm differs)]

end Bindings

section Matching

variable {bindings others : Bindings Datum} (once : bindings.names.Nodup)
include once

theorem Bindings.isUndefined_iff {values : Bindings Value} (coerced : coerce bindings = .ok values)
    (name : Text) :
    bindings.isUndefined name = true ↔ values.environment.defined name = none := by
  rw [isUndefined, Environment.defined, environment, find?_coerce once coerced]
  cases bound : bindings.find? name with
  | none => simp
  | some datum =>
      have among : (name, datum) ∈ bindings := (find?_eq_some_iff once).mp bound
      obtain ⟨value?, denotes⟩ := exists_coerce_eq_ok_iff.mp ⟨values, coerced⟩ _ among
      rw [Option.all_some, Datum.isVoid_iff, Option.bind_some, denotes]
      simp [Except.toOption]

variable (otherOnce : others.names.Nodup) (matching : bindings.MatchesDefined others)
include otherOnce matching

theorem Bindings.MatchesDefined.exists_coerce_eq_ok {values : Bindings Value}
    (coerced : coerce bindings = .ok values) : ∃ otherValues, coerce others = .ok otherValues := by
  rw [exists_coerce_eq_ok_iff]
  rintro ⟨name, datum⟩ among
  have bound : others.find? name = some datum := (find?_eq_some_iff otherOnce).mpr among
  rcases matching name with same | ⟨undefined, _⟩
  · rw [bound, eq_comm, find?_eq_some_iff once] at same
    exact exists_coerce_eq_ok_iff.mp ⟨values, coerced⟩ _ same
  · rw [isUndefined, bound, Option.all_some, Datum.isVoid_iff] at undefined
    obtain ⟨value?, denotes, _⟩ := undefined
    exact ⟨value?, denotes⟩

theorem Bindings.MatchesDefined.defined_eq {values otherValues : Bindings Value}
    (coerced : coerce bindings = .ok values) (otherCoerced : coerce others = .ok otherValues) :
    otherValues.environment.defined = values.environment.defined := by
  funext name
  rcases matching name with same | ⟨otherUndefined, undefined⟩
  · rw [Environment.defined, Environment.defined, environment, environment,
      find?_coerce_congr otherOnce once otherCoerced coerced same]
  · rw [isUndefined_iff once coerced] at undefined
    rw [isUndefined_iff otherOnce otherCoerced] at otherUndefined
    rw [undefined, otherUndefined]

end Matching

namespace Template

theorem expand_of_matchesDefined {bindings overriding others replacing : Bindings Datum}
    {values : Bindings Value} (template : Template)
    (once : (bindings.overlay overriding).names.Nodup)
    (otherOnce : (others.overlay replacing).names.Nodup)
    (coerced : coerce (bindings.overlay overriding) = .ok values)
    (matching : (bindings.overlay overriding).MatchesDefined (others.overlay replacing)) :
    template.expand others replacing = template.expand bindings overriding := by
  obtain ⟨otherValues, otherCoerced⟩ := matching.exists_coerce_eq_ok once otherOnce coerced
  have sameDefined := matching.defined_eq once otherOnce coerced otherCoerced
  rw [expand_of_coerce coerced, expand_of_coerce otherCoerced,
    ← Component.expandAll_defined otherValues.environment, sameDefined,
    Component.expandAll_defined]

/-- Whatever leaves a name undefined may be replaced by anything else that does, or left out, and
the variables of such names may be left out of the template. -/
theorem expand_undefined (template : Template) {bindings overriding : Bindings Datum}
    {values : Bindings Value} (once : bindings.names.Nodup)
    (overridingOnce : overriding.names.Nodup)
    (coerced : coerce (bindings.overlay overriding) = .ok values) :
    (∀ name, bindings.isUndefined name = true →
      template.expand (bindings.remove name) overriding = template.expand bindings overriding ∧
      ∀ datum, datum.isVoid = true →
        template.expand (bindings.insert name datum) overriding =
          template.expand bindings overriding) ∧
    (∀ name datum, (bindings.overlay overriding).isUndefined name = true →
      datum.isVoid = true →
      template.expand bindings (overriding.insert name datum) =
        template.expand bindings overriding) ∧
    (∀ others replacing, others.names.Nodup →
      (bindings.overlay overriding).MatchesDefined (others.overlay replacing) →
      template.expand others replacing = template.expand bindings overriding) ∧
    template.expand bindings overriding =
      .ok (Component.expandAll values.environment (template.components.filterMap
        (Component.prune? (bindings.overlay overriding).isUndefined))) := by
  have mergedOnce := Bindings.nodup_overlay once overriding
  have interchange (others replacing : Bindings Datum) (otherOnce : others.names.Nodup) :=
    template.expand_of_matchesDefined mergedOnce (Bindings.nodup_overlay otherOnce replacing)
      coerced
  refine ⟨?_, ?_, interchange, ?_⟩
  · intro name undefined
    constructor
    · apply interchange _ _ (Bindings.nodup_remove once name)
      exact (Bindings.matchesDefined_remove undefined).overlay overridingOnce
    · intro datum void
      apply interchange _ _ (Bindings.nodup_insert once name datum)
      exact (Bindings.matchesDefined_insert undefined void).overlay overridingOnce
  · intro name datum undefined void
    apply interchange _ _ once
    exact Bindings.matchesDefined_overlay_insert overridingOnce undefined void
  · rw [expand_of_coerce coerced, Component.expandAll_prune]
    intro name undefined
    exact (Bindings.isUndefined_iff mergedOnce coerced name).mp undefined

/-- Every kind of void datum, in the first and last place and all over an expression, beside a text
without characters. -/
theorem expand_undefined_blank :
    let bindings : Bindings Datum :=
      [("a", .tuple []), ("c", .text ""), ("d", .null), ("e", .mapping [])]
    let overriding : Bindings Datum := [("b", .shaped (.assoc ⟨[], by decide⟩))]
    ∃ template, ofText "{?a,b*,c,e:2}{/d}!" = .ok template ∧
      bindings.isUndefined "a" = true ∧ bindings.isUndefined "c" = false ∧
      template.expand bindings overriding = .ok "?c=!" ∧
      template.expand (bindings.remove "a") overriding = .ok "?c=!" ∧
      template.expand (bindings.insert "d" (.list [])) overriding = .ok "?c=!" ∧
      template.expand bindings (overriding.insert "e" (.shaped (.list []))) = .ok "?c=!" ∧
      template.expand [("c", .text "")] [] = .ok "?c=!" ∧
      template.components.filterMap
          (Component.prune? (bindings.overlay overriding).isUndefined) =
        [.expression ⟨.query, [⟨"c", .plain⟩], by simp⟩, .literal "!"] ∧
      ∃ values, coerce (bindings.overlay overriding) = .ok values ∧
        template.expand bindings overriding = .ok (Component.expandAll values.environment
          [.expression ⟨.query, [⟨"c", .plain⟩], by simp⟩, .literal "!"]) := by
  intro bindings overriding
  have reads : Component.readAll 0 "{?a,b*,c,e:2}{/d}!" = .ok
      [.expression ⟨.query, [⟨"a", .plain⟩, ⟨"b", .explode⟩, ⟨"c", .plain⟩,
          ⟨"e", .truncate ⟨2, by decide, by decide⟩⟩], by simp⟩,
        .expression ⟨.path, [⟨"d", .plain⟩], by simp⟩, .literal "!"] := by
    decide +kernel
  let template : Template := ⟨_, _, reads⟩
  have once : bindings.names.Nodup := by decide +kernel
  have overridingOnce : overriding.names.Nodup := by decide +kernel
  have mergedOnce := Bindings.nodup_overlay once overriding
  have coerced : coerce (bindings.overlay overriding) = .ok
      [("a", .list []), ("c", .text []), ("e", .assoc ⟨[], by decide⟩),
        ("b", .assoc ⟨[], by decide⟩)] := by rfl
  have matching : (bindings.overlay overriding).MatchesDefined [("c", .text "")] := by
    intro name
    by_cases isText : name = "c"
    · rw [isText]
      exact Or.inl (by rfl)
    · refine Or.inr ⟨by simp [Bindings.isUndefined, Bindings.find?, Ne.symm isText], ?_⟩
      rw [Bindings.isUndefined, Option.all_eq_true]
      intro datum bound
      have among : (name, datum) ∈ ([("a", .tuple []), ("c", .text ""), ("d", .null),
          ("e", .mapping []), ("b", .shaped (.assoc ⟨[], by decide⟩))] : Bindings Datum) :=
        (Bindings.find?_eq_some_iff mergedOnce).mp bound
      simp only [List.mem_cons, Prod.mk.injEq, List.not_mem_nil, or_false] at among
      rcases among with ⟨_, rfl⟩ | ⟨same, _⟩ | ⟨_, rfl⟩ | ⟨_, rfl⟩ | ⟨_, rfl⟩
      · rfl
      · contradiction
      · rfl
      · rfl
      · rfl
  have written : template.expand bindings overriding = .ok "?c=!" := by rfl
  obtain ⟨each, keywords, all, erased⟩ :=
    expand_undefined template once overridingOnce coerced
  have pruned : template.components.filterMap
      (Component.prune? (bindings.overlay overriding).isUndefined) =
        [.expression ⟨.query, [⟨"c", .plain⟩], by simp⟩, .literal "!"] := by rfl
  rw [pruned] at erased
  refine ⟨template, ofText_raw template, by rfl, by rfl, written, ?_, ?_, ?_, ?_, pruned,
    _, coerced, erased⟩
  · exact (each "a" (by rfl)).1.trans written
  · exact ((each "d" (by rfl)).2 (.list []) rfl).trans written
  · exact (keywords "e" (.shaped (.list [])) (by rfl) rfl).trans written
  · exact (all [("c", .text "")] [] (by decide +kernel) matching).trans written

end Template

end UriTemplate
