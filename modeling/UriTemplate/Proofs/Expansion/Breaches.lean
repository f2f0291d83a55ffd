import UriTemplate.Proofs.Expansion.Faults
import UriTemplate.Proofs.Expansion.Undefined

/-!
Where an expansion of unchecked parts breaks off.

An expansion looks at places, one after the other: at members that are no
components and at the variables of expressions.  It fails exactly if there is a bad
place, and then for the first one, whatever comes behind it
(`Part.expandAll_breaches`).  Values never fail to be rendered, so that a place is
bad for what stands there alone; what is skipped might as well not be bound.
-/

namespace UriTemplate

open Outcome

/-- What an expansion has to look at. -/
inductive Place where
  | foreign (datum : Datum)
  | bound (spec : VarSpec)

namespace Part

/-- The places of a part in their order; there is nothing to look at in a literal. -/
def places : Part → List Place
  | .component (.literal _) => []
  | .component (.expression parsed) => parsed.specs.map .bound
  | .foreign datum => [.foreign datum]

end Part

/-- Null and values may be bound to a variable. -/
inductive Datum.IsBindable : Datum → Prop
  | null : IsBindable .null
  | shaped (value : Value) : IsBindable (.shaped value)

/-- How an expansion fails at a place. -/
inductive Place.Fails (bindings : Bindings Datum) : Place → Report → Prop
  | unknown (datum : Datum) :
      Fails bindings (.foreign datum)
        ⟨.expansion, Text.concat ["Unknown template component: ", datum.kind], none, none⟩
  | unsupported {spec datum} :
      bindings.find? spec.name = some datum →
      ¬datum.IsBindable →
      Fails bindings (.bound spec)
        ⟨.expansion, Text.concat ["Unsupported value for '", spec.name, "': ", datum.kind], none,
          none⟩

/-- Whether an expansion passes over what is bound to a name. -/
def Bindings.isSkipped (bindings : Bindings Datum) (name : Text) : Bool :=
  match bindings.find? name with
  | none => true
  | some .null => true
  | some (.shaped value) => !value.isDefined
  | some _ => false

/-! ## The first bad place -/

section

variable {bindings : Bindings Datum} {report : Report}

theorem VarSpec.check_fails_iff {spec : VarSpec} :
    (spec.check bindings).mapError Breach.report = .error report ↔
      Place.Fails bindings (.bound spec) report := by
  constructor
  · intro failed
    unfold check at failed
    split at failed
    · contradiction
    · contradiction
    · contradiction
    · next datum notNull notShaped bound =>
        cases failed
        refine .unsupported bound ?_
        rintro (_ | value)
        · exact notNull rfl
        · exact notShaped value rfl
  · intro fails
    cases fails with
    | @unsupported _ datum bound notBindable =>
        rw [check, bound]
        cases datum with
        | null => exact absurd .null notBindable
        | shaped value => exact absurd (.shaped value) notBindable
        | _ => rfl

theorem Expression.expandUnchecked_fails_iff {parsed : Expression} :
    (parsed.expandUnchecked bindings).mapError Breach.report = .error report ↔
      FirstRefused (Place.Fails bindings) (parsed.specs.map .bound) report := by
  rw [expandUnchecked, mapError_bind, mapError_forM, bind_eq_error_iff, firstRefused_map_iff,
    forM_eq_error_iff fun _ _ => VarSpec.check_fails_iff]
  simp

theorem Part.expand_fails_iff {part : Part} :
    (part.expand bindings).mapError Breach.report = .error report ↔
      FirstRefused (Place.Fails bindings) part.places report := by
  rcases part with (run | parsed) | datum
  · simp [expand, places]
  · exact Expression.expandUnchecked_fails_iff
  · rw [expand, places, firstRefused_cons_iff, mapError_error, Except.error.injEq]
    constructor
    · rintro rfl
      exact Or.inl (.unknown datum)
    · rintro (fails | ⟨_, impossible⟩)
      · cases fails
        rfl
      · exact absurd impossible not_firstRefused_nil

theorem Part.expandAll_fails_iff {parts : List Part} :
    (Part.expandAll bindings parts).mapError Breach.report = .error report ↔
      FirstRefused (Place.Fails bindings) (parts.flatMap Part.places) report := by
  rw [expandAll, mapError_bind, mapError_mapM, bind_eq_error_iff, firstRefused_flatMap_iff,
    mapM_eq_error_iff fun _ _ => Part.expand_fails_iff]
  simp

/-- There is a bad place if there is a member that is no component, or a variable with a datum
that cannot be bound. -/
theorem exists_place_fails_iff {parts : List Part} :
    (∃ place ∈ parts.flatMap Part.places, ∃ report, place.Fails bindings report) ↔
      (∃ datum, Part.foreign datum ∈ parts) ∨
      ∃ parsed, Part.component (.expression parsed) ∈ parts ∧
        ∃ spec ∈ parsed.specs, ∃ datum, bindings.find? spec.name = some datum ∧
          ¬datum.IsBindable := by
  constructor
  · rintro ⟨place, among, report, fails⟩
    obtain ⟨part, isPart, inPart⟩ := List.mem_flatMap.mp among
    rcases part with (run | parsed) | datum
    · contradiction
    · obtain ⟨spec, isSpec, rfl⟩ := List.mem_map.mp inPart
      cases fails with
      | unsupported bound notBindable =>
          exact Or.inr ⟨parsed, isPart, spec, isSpec, _, bound, notBindable⟩
    · exact Or.inl ⟨datum, isPart⟩
  · rintro (⟨datum, isPart⟩ | ⟨parsed, isPart, spec, isSpec, datum, bound, notBindable⟩)
    · exact ⟨.foreign datum, List.mem_flatMap.mpr ⟨_, isPart, List.mem_singleton_self _⟩, _,
        .unknown datum⟩
    · exact ⟨.bound spec, List.mem_flatMap.mpr ⟨_, isPart, List.mem_map_of_mem isSpec⟩, _,
        .unsupported bound notBindable⟩

end

/-! ## What is skipped -/

section

variable {bindings : Bindings Datum} {name : Text} (skipped : bindings.isSkipped name = true)
include skipped

theorem VarSpec.check_remove :
    VarSpec.check (bindings.remove name) = VarSpec.check bindings := by
  funext spec
  rw [check, check, Bindings.find?_remove]
  by_cases isName : spec.name = name
  · rw [if_pos isName, isName]
    unfold Bindings.isSkipped at skipped
    cases bound : bindings.find? name with
    | none => rfl
    | some datum =>
        rw [bound] at skipped
        cases datum with
        | null => rfl
        | shaped value => rfl
        | _ => contradiction
  · rw [if_neg isName]

theorem Bindings.defined_values_remove :
    (bindings.remove name).values.defined = bindings.values.defined := by
  funext other
  rw [Environment.defined, Environment.defined, values, values, find?_remove]
  by_cases isName : other = name
  · rw [if_pos isName, isName]
    unfold isSkipped at skipped
    split at skipped
    · next bound => rw [bound]
    · next bound => rw [bound]
    · next value bound =>
        rw [Bool.not_eq_true'] at skipped
        rw [bound, Option.filter_some, skipped]
        rfl
    · contradiction
  · rw [if_neg isName]

theorem Expression.expand_values_remove (parsed : Expression) :
    parsed.expand (bindings.remove name).values = parsed.expand bindings.values := by
  rw [expand, expand, expandSpecs, expandSpecs, ← VarSpec.fragment?_defined,
    Bindings.defined_values_remove skipped, VarSpec.fragment?_defined]

theorem Part.expandAll_remove (parts : List Part) :
    Part.expandAll (bindings.remove name) parts = Part.expandAll bindings parts := by
  have each : Part.expand (bindings.remove name) = Part.expand bindings := by
    funext part
    rcases part with (run | parsed) | datum
    · rfl
    · rw [expand, expand, Expression.expandUnchecked, Expression.expandUnchecked,
        VarSpec.check_remove skipped, Expression.expand_values_remove skipped]
    · rfl
  rw [expandAll, expandAll, each]

end

/-- An expansion of parts fails as the first of their places that is bad, so exactly if some member
is no component or some variable is bound to a datum other than null that is no value.  Rendering
what is bound never fails.  Null and values that do not count as defined are skipped: without them
there is the same text or the same failure. -/
theorem Part.expandAll_breaches (bindings : Bindings Datum) (parts : List Part) :
    (∀ report, (Part.expandAll bindings parts).mapError Breach.report = .error report ↔
      FirstRefused (Place.Fails bindings) (parts.flatMap Part.places) report) ∧
    ((∃ breach, Part.expandAll bindings parts = .error breach) ↔
      (∃ datum, Part.foreign datum ∈ parts) ∨
      ∃ parsed, Part.component (.expression parsed) ∈ parts ∧
        ∃ spec ∈ parsed.specs, ∃ datum, bindings.find? spec.name = some datum ∧
          ¬datum.IsBindable) ∧
    Guarded.expandParts (Guarded.contents bindings) parts =
      (Part.expandAll bindings parts).mapError .breach ∧
    ∀ name, bindings.isSkipped name = true →
      Part.expandAll (bindings.remove name) parts = Part.expandAll bindings parts := by
  refine ⟨?_, ?_, Guarded.expandParts_contents bindings parts, ?_⟩
  · intro report
    exact Part.expandAll_fails_iff
  · rw [← exists_place_fails_iff, ← exists_firstRefused_iff]
    simp only [← Part.expandAll_fails_iff, mapError_eq_error_iff]
    simp
  · intro name skipped
    exact Part.expandAll_remove skipped parts

/-- Null and an empty list stand before a truth value, and something that is no component behind
it. -/
theorem Part.expandAll_breaches_skipped :
    let bindings : Bindings Datum :=
      [("x", .null), ("l", .shaped (.list [])), ("y", .truth true)]
    let specs : List VarSpec := [⟨"x", .plain⟩, ⟨"l", .explode⟩, ⟨"y", .plain⟩]
    let parts : List Part :=
      [.component (.literal "a"), .component (.expression ⟨.query, specs, by simp⟩),
        .foreign (.integer 7)]
    bindings.isSkipped "l" = true ∧
    Part.expandAll bindings parts = .error (.unsupportedValue "y" "bool") ∧
    Part.expandAll (bindings.remove "l") parts = .error (.unsupportedValue "y" "bool") := by
  intro bindings specs parts
  have failed : Part.expandAll bindings parts = .error (.unsupportedValue "y" "bool") := by rfl
  obtain ⟨_, _, _, skips⟩ := Part.expandAll_breaches bindings parts
  have skipped : bindings.isSkipped "l" = true := by rfl
  exact ⟨skipped, failed, (skips "l" skipped).trans failed⟩

end UriTemplate
