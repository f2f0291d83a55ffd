import UriTemplate.Value.Coercion
import UriTemplate.Proofs.Outcome
import UriTemplate.Proofs.Value.Bindings

/-!
Coercion of bindings.

Bindings are coerced one by one: coercion succeeds if each bound datum denotes a
value or nothing, and fails as the first of them that does not.  Where it succeeds,
what a name is coerced to is a matter of what it is bound to alone (`find?_coerce`).
-/

namespace UriTemplate

theorem coerce_cons (name : Text) (datum : Datum) (rest : Bindings Datum) :
    coerce ((name, datum) :: rest) = do
      let value? ← datum.toValue
      let values ← coerce rest
      return (value?.map fun value => (name, value)).toList ++ values := by
  rw [coerce]
  rcases datum.toValue with error | (_ | value) <;> rfl

/-- Bindings are refused as the first bound datum that is refused. -/
theorem coerce_eq_error_iff {bindings : Bindings Datum} {error : ValueError} :
    coerce bindings = .error error ↔
      Outcome.FirstRefused (fun entry cause => entry.2.toValue = .error cause) bindings error := by
  induction bindings with
  | nil => simp [coerce]
  | cons entry rest inductionHypothesis =>
      rw [coerce_cons, Outcome.bind_eq_error_iff, Outcome.firstRefused_cons_iff,
        ← inductionHypothesis]
      simp only [Outcome.bind_eq_error_iff]
      cases entry.2.toValue <;> simp

theorem exists_coerce_eq_ok_iff {bindings : Bindings Datum} :
    (∃ values, coerce bindings = .ok values) ↔
      ∀ entry ∈ bindings, ∃ value?, entry.2.toValue = .ok value? := by
  rw [← not_iff_not, ← Outcome.exists_eq_error_iff]
  simp only [coerce_eq_error_iff, Outcome.exists_firstRefused_iff, Outcome.exists_eq_error_iff]
  simp

/-- A name that is bound to null may as well not be bound. -/
theorem coerce_remove {bindings : Bindings Datum} (once : bindings.names.Nodup) {name : Text}
    (bound : bindings.find? name = some .null) :
    coerce (bindings.remove name) = coerce bindings := by
  induction bindings with
  | nil => contradiction
  | cons entry rest inductionHypothesis =>
      obtain ⟨first, datum⟩ := entry
      rw [Bindings.names, List.map_cons, List.nodup_cons] at once
      rw [Bindings.find?] at bound
      rw [coerce_cons, Bindings.remove, List.filter_cons]
      by_cases isFirst : first = name
      · rw [if_pos isFirst] at bound
        cases bound
        subst isFirst
        rw [if_neg (by simp), ← Bindings.remove, Bindings.remove_of_unbound once.1]
        cases coerce rest <;> rfl
      · rw [if_neg isFirst] at bound
        rw [if_pos (decide_eq_true isFirst), ← Bindings.remove, coerce_cons,
          inductionHypothesis once.2 bound]

/-- What a name is coerced to is a matter of what it is bound to alone. -/
theorem find?_coerce {bindings : Bindings Datum} {values : Bindings Value}
    (once : bindings.names.Nodup) (coerced : coerce bindings = .ok values) (name : Text) :
    values.find? name = (bindings.find? name).bind fun datum => datum.toValue.toOption.join := by
  induction bindings generalizing values with
  | nil =>
      cases coerced
      rfl
  | cons entry rest inductionHypothesis =>
      obtain ⟨first, datum⟩ := entry
      rw [Bindings.names, List.map_cons, List.nodup_cons] at once
      rw [coerce_cons, Outcome.bind_eq_ok_iff] at coerced
      obtain ⟨value?, denotes, coercesRest⟩ := coerced
      obtain ⟨others, coercedRest, combined⟩ := Outcome.bind_eq_ok_iff.mp coercesRest
      have later := inductionHypothesis once.2 coercedRest
      cases combined
      rw [Bindings.find?_append, later, Bindings.find?]
      by_cases isFirst : first = name
      · subst isFirst
        -- A name that is bound to null is not bound again further on.
        have noLater : Bindings.find? first rest = none := Bindings.find?_eq_none once.1
        rw [noLater, if_pos rfl, Option.bind_some, denotes]
        cases value? <;> simp [Bindings.find?, Except.toOption]
      · cases value? <;> simp [Bindings.find?, isFirst]

theorem find?_coerce_congr {bindings others : Bindings Datum}
    {values otherValues : Bindings Value} (once : bindings.names.Nodup)
    (otherOnce : others.names.Nodup) (coerced : coerce bindings = .ok values)
    (otherCoerced : coerce others = .ok otherValues) {name : Text}
    (agree : bindings.find? name = others.find? name) :
    values.find? name = otherValues.find? name := by
  rw [find?_coerce once coerced, find?_coerce otherOnce otherCoerced, agree]

end UriTemplate
