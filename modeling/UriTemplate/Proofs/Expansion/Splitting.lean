import UriTemplate.Proofs.Expansion.Streaming

/-!
Splitting an expression in two.

What the later variables of an expression write depends on the earlier ones only in
what stands before it: the lead of the operator if none of them is defined, else the
separator.  An expression of its own writes its lead there.  So it can stand for the
later variables under an operator that has the separator as lead and writes values
alike (`Operator.following`); where there is none, the separator is written between
the two expressions (`Operator.gap`).
-/

namespace UriTemplate

namespace Operator

/-- The operator under which an expression goes on. -/
def following : Operator → Operator
  | query => continuation
  | fragment => reserved
  | operator => operator

/-- What stands between the two expressions. -/
def gap : Operator → Text
  | simple => [.scalar ',']
  | reserved => [.scalar ',']
  | fragment => [.scalar ',']
  | _ => []

theorem gap_append_lead_following (operator : Operator) :
    operator.gap ++ operator.following.lead = operator.separator := by
  cases operator <;> rfl

theorem separator_following (operator : Operator) :
    operator.following.separator = operator.separator := by
  cases operator <;> rfl

end Operator

/-- Whether one of the variables is bound to a value that counts as defined. -/
def Environment.HasDefined (environment : Environment) (specs : List VarSpec) : Prop :=
  ∃ spec ∈ specs, ∃ value, environment spec.name = some value ∧ value.isDefined = true

namespace Streaming

theorem pieces_following (operator : Operator) (spec : VarSpec) (value : Value) :
    pieces operator.following spec value = pieces operator spec value := by
  cases operator <;> cases value <;> rfl

theorem piecesIn_following (operator : Operator) (environment : Environment) :
    piecesIn operator.following environment = piecesIn operator environment := by
  funext spec
  simp only [piecesIn, pieces_following]

/-- Every defined variable writes a piece, and no other does. -/
theorem flatMap_piecesIn_ne_nil_iff (operator : Operator) (environment : Environment)
    (specs : List VarSpec) :
    specs.flatMap (piecesIn operator environment) ≠ [] ↔ environment.HasDefined specs := by
  constructor
  · intro nonempty
    obtain ⟨piece, among⟩ := List.exists_mem_of_ne_nil _ nonempty
    obtain ⟨spec, listed, written⟩ := List.mem_flatMap.mp among
    obtain ⟨value, bound, defined, _⟩ := mem_piecesIn_iff.mp written
    exact ⟨spec, listed, value, bound, defined⟩
  · rintro ⟨spec, listed, value, bound, defined⟩
    obtain ⟨piece, written⟩ := List.exists_mem_of_ne_nil _ (pieces_ne_nil operator spec defined)
    exact List.ne_nil_of_mem (List.mem_flatMap.mpr
      ⟨spec, listed, mem_piecesIn_iff.mpr ⟨value, bound, defined, written⟩⟩)

theorem flatMap_piecesIn_eq_nil (operator : Operator) {environment : Environment}
    {specs : List VarSpec} (undefined : ¬environment.HasDefined specs) :
    specs.flatMap (piecesIn operator environment) = [] :=
  Decidable.not_not.mp (mt (flatMap_piecesIn_ne_nil_iff operator environment specs).mp undefined)

theorem joined_append (operator : Operator) {texts others : List Text} (nonempty : texts ≠ [])
    (othersNonempty : others ≠ []) :
    joined operator (texts ++ others) =
      joined operator texts ++ (operator.gap ++ joined operator.following others) := by
  rw [joined_of_ne_nil operator nonempty, joined_of_ne_nil operator.following othersNonempty,
    joined_of_ne_nil operator (List.append_ne_nil_of_left_ne_nil nonempty others),
    Text.intercalate_append nonempty othersNonempty, operator.separator_following,
    ← operator.gap_append_lead_following]
  simp only [List.append_assoc]

end Streaming

namespace Expression

open Streaming

section

variable (operator : Operator) {environment : Environment} {earlier later : List VarSpec}

theorem expandSpecs_of_undefined (undefined : ¬environment.HasDefined later) :
    expandSpecs operator environment later = [] := by
  rw [expandSpecs_eq, flatMap_piecesIn_eq_nil operator undefined, joined]

theorem expandSpecs_append_defined (earlierDefined : environment.HasDefined earlier)
    (laterDefined : environment.HasDefined later) :
    expandSpecs operator environment (earlier ++ later) =
      expandSpecs operator environment earlier ++
        (operator.gap ++ expandSpecs operator.following environment later) := by
  rw [← flatMap_piecesIn_ne_nil_iff operator] at earlierDefined laterDefined
  rw [expandSpecs_eq, expandSpecs_eq, expandSpecs_eq, List.flatMap_append, piecesIn_following,
    joined_append operator earlierDefined laterDefined]

theorem expandSpecs_append_of_later_undefined (undefined : ¬environment.HasDefined later) :
    expandSpecs operator environment (earlier ++ later) =
      expandSpecs operator environment earlier := by
  rw [expandSpecs_eq, expandSpecs_eq, List.flatMap_append,
    flatMap_piecesIn_eq_nil operator undefined, List.append_nil]

theorem expandSpecs_append_of_earlier_undefined (undefined : ¬environment.HasDefined earlier) :
    expandSpecs operator environment (earlier ++ later) =
      expandSpecs operator environment later := by
  rw [expandSpecs_eq, expandSpecs_eq, List.flatMap_append,
    flatMap_piecesIn_eq_nil operator undefined, List.nil_append]

/-- Where nothing has to stand between them, the second expression may be without a value. -/
theorem expandSpecs_append_following (adjacent : operator.gap = [])
    (defined : environment.HasDefined earlier) :
    expandSpecs operator environment (earlier ++ later) =
      expandSpecs operator environment earlier ++
        expandSpecs operator.following environment later := by
  by_cases laterDefined : environment.HasDefined later
  · rw [expandSpecs_append_defined operator defined laterDefined, adjacent, List.nil_append]
  · rw [expandSpecs_append_of_later_undefined operator laterDefined,
      expandSpecs_of_undefined operator.following laterDefined, List.append_nil]

theorem expandSpecs_append_self (adjacent : operator.gap = [])
    (same : operator.following = operator) :
    expandSpecs operator environment (earlier ++ later) =
      expandSpecs operator environment earlier ++ expandSpecs operator environment later := by
  by_cases defined : environment.HasDefined earlier
  · rw [expandSpecs_append_following operator adjacent defined, same]
  · rw [expandSpecs_append_of_earlier_undefined operator defined,
      expandSpecs_of_undefined operator defined, List.nil_append]

end

/-- An expression is written as two, one after the other, with the later variables under the
operator that goes on and a comma between them where it writes none. -/
theorem expandSpecs_append :
    (∀ (environment : Environment) (earlier later : List VarSpec),
      (∀ operator ∈ [Operator.label, .path, .parameter, .continuation],
        expandSpecs operator environment (earlier ++ later) =
          expandSpecs operator environment earlier ++
            expandSpecs operator environment later) ∧
      (environment.HasDefined earlier →
        expandSpecs .query environment (earlier ++ later) =
          expandSpecs .query environment earlier ++
            expandSpecs .continuation environment later) ∧
      (¬environment.HasDefined earlier →
        expandSpecs .query environment (earlier ++ later) =
          expandSpecs .query environment later) ∧
      ∀ operator following, (operator, following) ∈
          [(Operator.simple, Operator.simple), (.reserved, .reserved), (.fragment, .reserved)] →
        (environment.HasDefined earlier → environment.HasDefined later →
          expandSpecs operator environment (earlier ++ later) =
            expandSpecs operator environment earlier ++
              .scalar ',' :: expandSpecs following environment later) ∧
        (¬environment.HasDefined later →
          expandSpecs operator environment (earlier ++ later) =
            expandSpecs operator environment earlier) ∧
        (¬environment.HasDefined earlier →
          expandSpecs operator environment (earlier ++ later) =
            expandSpecs operator environment later)) ∧
    ∀ (bindings : Bindings (Option Value)) (parsed : Expression),
      parsed.expandUnchecked (given bindings) =
        .ok (expandSpecs parsed.operator (fun name => (bindings.find? name).join)
          parsed.specs) := by
  refine ⟨?_, ?_⟩
  · intro environment earlier later
    refine ⟨?_, expandSpecs_append_following .query rfl,
      expandSpecs_append_of_earlier_undefined .query, ?_⟩
    · intro operator among
      simp only [List.mem_cons, List.not_mem_nil, or_false] at among
      rcases among with rfl | rfl | rfl | rfl
      all_goals exact expandSpecs_append_self _ rfl rfl
    · intro operator following among
      refine ⟨?_, expandSpecs_append_of_later_undefined operator,
        expandSpecs_append_of_earlier_undefined operator⟩
      intro earlierDefined laterDefined
      have whole := expandSpecs_append_defined operator earlierDefined laterDefined
      simp only [List.mem_cons, Prod.mk.injEq, List.not_mem_nil, or_false] at among
      rcases among with ⟨rfl, rfl⟩ | ⟨rfl, rfl⟩ | ⟨rfl, rfl⟩
      all_goals exact whole
  · intro bindings parsed
    have written := expand_given bindings (.expression parsed)
    rw [values_given] at written
    exact written

/-- A list that is spread, a variable without a value and an empty text. -/
theorem expandSpecs_append_empty :
    ∃ (environment : Environment) (spread silent blank : VarSpec),
      environment.HasDefined [spread, silent] ∧ environment.HasDefined [blank] ∧
      ¬environment.HasDefined [silent] ∧
      expandSpecs .fragment environment [spread, silent, blank] =
        expandSpecs .fragment environment [spread, silent] ++
          .scalar ',' :: expandSpecs .reserved environment [blank] ∧
      expandSpecs .fragment environment [spread, silent, blank] = "#x,y," ∧
      expandSpecs .query environment [silent, blank] = expandSpecs .query environment [blank] ∧
      expandSpecs .query environment [blank, silent] =
        expandSpecs .query environment [blank] ++
          expandSpecs .continuation environment [silent] := by
  let bindings : Bindings (Option Value) :=
    [("a", some (.list ["x".toList, "y".toList])), ("b", none), ("c", some (.text []))]
  let environment : Environment := fun name => (bindings.find? name).join
  have spreadDefined : environment.HasDefined [⟨"a", .explode⟩, ⟨"b", .plain⟩] :=
    ⟨_, List.mem_cons_self, .list ["x".toList, "y".toList], by decide +kernel, rfl⟩
  have blankDefined : environment.HasDefined [⟨"c", .plain⟩] :=
    ⟨_, List.mem_cons_self, .text [], by decide +kernel, rfl⟩
  have silentUndefined : ¬environment.HasDefined [⟨"b", .plain⟩] := by
    rintro ⟨spec, among, value, bound, _⟩
    rw [List.mem_singleton.mp among] at bound
    have unbound : environment "b" = none := by decide +kernel
    rw [unbound] at bound
    contradiction
  have split := expandSpecs_append.1 environment
  refine ⟨environment, ⟨"a", .explode⟩, ⟨"b", .plain⟩, ⟨"c", .plain⟩, spreadDefined,
    blankDefined, silentUndefined, ?_, by decide +kernel, ?_, ?_⟩
  · exact ((split [⟨"a", .explode⟩, ⟨"b", .plain⟩] [⟨"c", .plain⟩]).2.2.2
      .fragment .reserved (by decide)).1 spreadDefined blankDefined
  · exact (split [⟨"b", .plain⟩] [⟨"c", .plain⟩]).2.2.1 silentUndefined
  · exact (split [⟨"c", .plain⟩] [⟨"b", .plain⟩]).2.1 blankDefined

end Expression

end UriTemplate
