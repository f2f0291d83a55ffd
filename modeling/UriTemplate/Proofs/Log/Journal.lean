import UriTemplate.Log.Basic
import UriTemplate.Proofs.Outcome

/-!
Work that emits records.

A journal tells how a piece of work ends and what it emits until then.  Work that
fails has emitted what it has emitted: a failure ends what follows it, but takes
back no record.
-/

namespace UriTemplate.Log

structure Journal (Error Content : Type) where
  outcome : Except Error Content
  records : List Record

namespace Journal

variable {Error Other Content Result : Type}

def silent (outcome : Except Error Content) : Journal Error Content := ⟨outcome, []⟩

def fail (error : Error) : Journal Error Content := silent (.error error)

def emit (record : Record) : Journal Error Unit := ⟨.ok (), [record]⟩

instance : Monad (Journal Error) where
  pure content := silent (.ok content)
  bind journal next :=
    match journal.outcome with
    | .ok content =>
        ⟨(next content).outcome, journal.records ++ (next content).records⟩
    | .error error => ⟨.error error, journal.records⟩

/-- What is done instead of failing. -/
def rescue (journal : Journal Error Content) (handle : Error → Journal Other Content) :
    Journal Other Content :=
  match journal.outcome with
  | .ok content => ⟨.ok content, journal.records⟩
  | .error error => ⟨(handle error).outcome, journal.records ++ (handle error).records⟩

/-- Fails with another error. -/
def mapError (change : Error → Other) (journal : Journal Error Content) : Journal Other Content :=
  journal.rescue fun error => fail (change error)

@[simp]
theorem outcome_mapError (change : Error → Other) (journal : Journal Error Content) :
    (journal.mapError change).outcome = journal.outcome.mapError change := by
  obtain ⟨outcome, records⟩ := journal
  cases outcome <;> rfl

@[simp]
theorem records_mapError (change : Error → Other) (journal : Journal Error Content) :
    (journal.mapError change).records = journal.records := by
  obtain ⟨outcome, records⟩ := journal
  cases outcome with
  | ok content => rfl
  | error error => exact List.append_nil _

/-! ## Records that are told by the outcome -/

/-- What the work emits is told by how it ends. -/
def Records (done : Content → List Record) (failed : Error → List Record)
    (journal : Journal Error Content) : Prop :=
  (∀ content, journal.outcome = .ok content → journal.records = done content) ∧
    ∀ error, journal.outcome = .error error → journal.records = failed error

/-- The work emits nothing unless it fails. -/
def RecordsErrors (failed : Error → List Record) (journal : Journal Error Content) : Prop :=
  Records (fun _ => []) failed journal

namespace Records

variable {done : Result → List Record} {failed : Error → List Record}
  {journal : Journal Error Content}

theorem silent {outcome : Except Error Content}
    (unrecorded : ∀ error, outcome = .error error → failed error = []) :
    RecordsErrors failed (silent outcome) :=
  ⟨fun _ _ => rfl, fun error fails => (unrecorded error fails).symm⟩

theorem pure (content : Content) :
    RecordsErrors failed (pure content : Journal Error Content) :=
  ⟨fun _ _ => rfl, nofun⟩

theorem fail {error : Error} (unrecorded : failed error = []) :
    Records done failed (fail error) := by
  refine ⟨nofun, ?_⟩
  rintro _ ⟨rfl⟩
  exact unrecorded.symm

/-- What follows a success follows no record. -/
theorem bind {next : Content → Journal Error Result} (first : RecordsErrors failed journal)
    (later : ∀ content, journal.outcome = .ok content → Records done failed (next content)) :
    Records done failed (journal >>= next) := by
  obtain ⟨outcome, records⟩ := journal
  cases outcome with
  | ok content =>
      obtain rfl : records = [] := first.1 content rfl
      exact later content rfl
  | error error =>
      refine ⟨nofun, ?_⟩
      rintro _ ⟨rfl⟩
      exact first.2 error rfl

theorem mapError {journal : Journal Error Result} {change : Error → Other}
    {changed : Other → List Record} (first : Records done failed journal)
    (same : ∀ error, changed (change error) = failed error) :
    Records done changed (journal.mapError change) := by
  rw [Records, outcome_mapError, records_mapError]
  constructor
  · intro content succeeds
    exact first.1 content (Outcome.mapError_eq_ok_iff.mp succeeds)
  · intro other fails
    obtain ⟨error, failsFirst, rfl⟩ := Outcome.mapError_eq_error_iff.mp fails
    rw [same]
    exact first.2 error failsFirst

end Records

end Journal

end UriTemplate.Log
