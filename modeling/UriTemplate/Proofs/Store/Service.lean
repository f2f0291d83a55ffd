import UriTemplate.Store.Basic

/-!
Requests to the store, one after the other.

A service is a store together with its limits.  A request asks something about a
datum, asks for the counts, clears the store or changes one of the limits, and is
answered at once.
-/

namespace UriTemplate.Store

/-- What can be asked about a datum that should be the text of a template. -/
inductive Query where
  | fetch
  | validate
  | variableNames
  | expand (bindings overriding : Bindings Datum)

inductive Request where
  | ask (query : Query) (datum : Datum)
  | counts
  | clear
  | setMaxsize (maxsize : Int)
  | setEnabled (enabled : Bool)

/-- The limits after a request. -/
def Request.adjust (limits : Limits) : Request → Limits
  | .setMaxsize maxsize => { limits with maxsize := maxsize }
  | .setEnabled enabled => { limits with enabled := enabled }
  | _ => limits

/-- The counts of look-ups, the number of templates and how many there may be. -/
structure Counts where
  hits : Nat
  misses : Nat
  size : Nat
  maxsize : Nat
deriving DecidableEq, Repr

inductive Answer where
  | template (outcome : Except Refusal Template)
  | truth (outcome : Except Refusal Bool)
  | names (outcome : Except Refusal (List Text))
  | expansion (outcome : Except ExpandError Text)
  | counts (counts : Counts)
  | done

structure Service where
  limits : Limits
  store : Store

namespace Service

/-- A service whose store has been cleared. -/
def cleared (limits : Limits) : Service := ⟨limits, .empty⟩

def counts (service : Service) : Counts where
  hits := service.store.hits
  misses := service.store.misses
  size := service.store.templates.length
  maxsize := service.limits.capacity

def answer (service : Service) (datum : Datum) : Query → Answer × Store
  | .fetch =>
      let (outcome, store) := service.store.fetch service.limits datum
      (.template outcome, store)
  | .validate =>
      let (outcome, store) := service.store.validate service.limits datum
      (.truth outcome, store)
  | .variableNames =>
      let (outcome, store) := service.store.variableNames service.limits datum
      (.names outcome, store)
  | .expand bindings overriding =>
      let (outcome, store) := service.store.expand service.limits datum bindings overriding
      (.expansion outcome, store)

def serve (service : Service) : Request → Answer × Service
  | .ask query datum =>
      let (answer, store) := service.answer datum query
      (answer, { service with store := store })
  | .counts => (.counts service.counts, service)
  | .clear => (.done, { service with store := .empty })
  | .setMaxsize maxsize =>
      (.done, { service with limits := { service.limits with maxsize := maxsize } })
  | .setEnabled enabled =>
      (.done, { service with limits := { service.limits with enabled := enabled } })

/-- The answers to requests in their order, and the service after all of them. -/
def run (service : Service) : List Request → List Answer × Service
  | [] => ([], service)
  | request :: rest =>
      let (answer, next) := service.serve request
      let (answers, last) := next.run rest
      (answer :: answers, last)

/-- Whatever is asked about a datum, the store changes as it does when the datum is looked up. -/
theorem serve_ask_store (service : Service) (query : Query) (datum : Datum) :
    (service.serve (.ask query datum)).2 =
      { service with store := (service.store.fetch service.limits datum).2 } := by
  cases query with
  | fetch => rfl
  | validate =>
      simp only [serve, answer, validate]
      rcases service.store.fetch service.limits datum with ⟨refusal | template, after⟩
      · cases refusal <;> rfl
      · rfl
  | variableNames =>
      simp only [serve, answer, variableNames]
      rcases service.store.fetch service.limits datum with ⟨refusal | template, after⟩ <;> rfl
  | expand bindings overriding =>
      simp only [serve, answer, expand]
      rcases service.store.fetch service.limits datum with ⟨refusal | template, after⟩
      · rfl
      · dsimp only
        cases template.expand bindings overriding <;> rfl

theorem serve_limits (service : Service) (request : Request) :
    (service.serve request).2.limits = request.adjust service.limits := by
  cases request <;> rfl

theorem run_cons (service : Service) (request : Request) (rest : List Request) :
    service.run (request :: rest) =
      ((service.serve request).1 :: ((service.serve request).2.run rest).1,
        ((service.serve request).2.run rest).2) := rfl

theorem run_append (service : Service) (before after : List Request) :
    service.run (before ++ after) =
      ((service.run before).1 ++ ((service.run before).2.run after).1,
        ((service.run before).2.run after).2) := by
  induction before generalizing service with
  | nil => rfl
  | cons request rest inductionHypothesis =>
      rw [List.cons_append, run_cons, inductionHypothesis, run_cons]
      rfl

@[simp]
theorem length_run (service : Service) (requests : List Request) :
    (service.run requests).1.length = requests.length := by
  induction requests generalizing service with
  | nil => rfl
  | cons request rest inductionHypothesis =>
      rw [run_cons, List.length_cons, inductionHypothesis, List.length_cons]

end Service

end UriTemplate.Store
