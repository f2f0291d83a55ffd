import UriTemplate.Proofs.Store.Service
import UriTemplate.Proofs.Template.Scanning

/-!
Keeping templates does not show in the answers.

`Service.run_answers_afresh` says that whatever has been asked, cleared and
changed before, a question about a text is answered as if the text were read for
the first time.  A template in the store has its own text read as itself, so that
a template that is found is the one that reading would give.
-/

namespace UriTemplate.Store

/-- What reading a text afresh gives. -/
def readAfresh (raw : Text) : Except Refusal Template :=
  (Template.ofText raw).mapError (Refusal.defective raw)

def expandAfresh (raw : Text) (bindings overriding : Bindings Datum) :
    Except ExpandError Text := do
  let template ← (readAfresh raw).mapError ExpandError.refused
  (template.expand bindings overriding).mapError ExpandError.badValue

/-- The answer to a question about a text that is read afresh. -/
def Query.afresh (raw : Text) : Query → Answer
  | .fetch => .template (readAfresh raw)
  | .validate => .truth (.ok (readAfresh raw).isOk)
  | .variableNames => .names ((readAfresh raw).map Template.variableNames)
  | .expand bindings overriding => .expansion (expandAfresh raw bindings overriding)

theorem ofText_of_find? {store : Store} {raw : Text} {template : Template}
    (found : store.find? (.text raw) = some template) :
    Template.ofText raw = .ok template := by
  have sameRaw : template.raw = raw := by
    simpa using List.find?_some found
  rw [← sameRaw]
  exact Template.ofText_raw template

theorem ofDatum_text (raw : Text) : Template.ofDatum (.text raw) = readAfresh raw := by
  rw [Template.ofDatum, readAfresh]
  cases Template.ofText raw <;> rfl

/-- A text is fetched as it is read, whether it is kept or not. -/
theorem fetch_text (limits : Limits) (store : Store) (raw : Text) :
    (store.fetch limits (.text raw)).1 = readAfresh raw := by
  unfold fetch
  by_cases off : limits.capacity = 0
  · rw [if_pos off]
    exact ofDatum_text raw
  · rw [if_neg off]
    simp only [Datum.unkeyable?]
    cases found : store.find? (.text raw) with
    | some template =>
        rw [readAfresh, ofText_of_find? found]
        rfl
    | none =>
        rw [← ofDatum_text]
        cases Template.ofDatum (.text raw) <;> rfl

theorem validate_text (limits : Limits) (store : Store) (raw : Text) :
    (store.validate limits (.text raw)).1 = .ok (readAfresh raw).isOk := by
  have fetched := fetch_text limits store raw
  unfold validate
  generalize store.fetch limits (.text raw) = result at fetched ⊢
  obtain ⟨outcome, after⟩ := result
  subst fetched
  unfold readAfresh
  cases Template.ofText raw <;> rfl

theorem variableNames_text (limits : Limits) (store : Store) (raw : Text) :
    (store.variableNames limits (.text raw)).1 =
      (readAfresh raw).map Template.variableNames := by
  have fetched := fetch_text limits store raw
  unfold variableNames
  generalize store.fetch limits (.text raw) = result at fetched ⊢
  obtain ⟨outcome, after⟩ := result
  subst fetched
  cases readAfresh raw <;> rfl

theorem expand_text (limits : Limits) (store : Store) (raw : Text)
    (bindings overriding : Bindings Datum) :
    (store.expand limits (.text raw) bindings overriding).1 =
      expandAfresh raw bindings overriding := by
  have fetched := fetch_text limits store raw
  unfold expand expandAfresh
  generalize store.fetch limits (.text raw) = result at fetched ⊢
  obtain ⟨outcome, after⟩ := result
  subst fetched
  cases readAfresh raw with
  | error refusal => rfl
  | ok template =>
      simp only [Outcome.mapError_ok, Outcome.ok_bind]
      cases template.expand bindings overriding <;> rfl

namespace Service

/-- What is asked about a text is answered afresh, whatever the store holds. -/
theorem serve_ask_text (service : Service) (query : Query) (raw : Text) :
    (service.serve (.ask query (.text raw))).1 = query.afresh raw := by
  cases query with
  | fetch => exact congrArg Answer.template (fetch_text service.limits service.store raw)
  | validate => exact congrArg Answer.truth (validate_text service.limits service.store raw)
  | variableNames =>
      exact congrArg Answer.names (variableNames_text service.limits service.store raw)
  | expand bindings overriding =>
      exact congrArg Answer.expansion
        (expand_text service.limits service.store raw bindings overriding)

/-- Among any requests to a store that has been cleared, what is asked about a text is answered
afresh. -/
theorem run_answers_afresh (limits : Limits) (before after : List Request) (query : Query)
    (raw : Text) :
    ((cleared limits).run (before ++ .ask query (.text raw) :: after)).1[before.length]? =
      some (query.afresh raw) := by
  have place := length_run (cleared limits) before
  rw [run_append, run_cons, serve_ask_text, List.getElem?_append_right (by omega), place,
    Nat.sub_self]
  rfl

end Service

end UriTemplate.Store
