import UriTemplate.Proofs.Store.Keyed
import UriTemplate.Proofs.Store.Transparency

/-!
Counts and sizes over a run.

A `Period` tells from the requests alone what has happened since the store was
last cleared: how many look-ups have been made while templates could be kept, and
how many could be kept at most.  `Tallies` is the invariant that ties the store to
it, and `Service.run_bookkeeping` says what follows for any run.
-/

namespace UriTemplate.Store

/-- The time since a store was last cleared: the limits at its end, the look-ups of what can be
looked up that were made while templates could be kept, and the largest capacity in force. -/
structure Period where
  limits : Limits
  lookups : Nat
  largest : Nat

namespace Period

def start (limits : Limits) : Period := ⟨limits, 0, limits.capacity⟩

def next (period : Period) : Request → Period
  | .ask _ datum =>
      if 0 < period.limits.capacity ∧ datum.unkeyable? = none then
        { period with lookups := period.lookups + 1 }
      else period
  | .clear => start period.limits
  | request =>
      let limits := request.adjust period.limits
      { period with
        limits := limits
        largest := max period.largest limits.capacity }

/-- The period at the end of requests, the first of which is made under the given limits. -/
def after (limits : Limits) (requests : List Request) : Period :=
  requests.foldl next (start limits)

end Period

/-- The service is in step with a period: its counts are those of the period, and it holds no more
templates than have been missed or could be kept. -/
structure Tallies (period : Period) (service : Service) : Prop where
  limits : service.limits = period.limits
  distinct : service.store.raws.Nodup
  counted : service.store.hits + service.store.misses = period.lookups
  missed : service.store.templates.length ≤ service.store.misses
  bounded : service.store.templates.length ≤ period.largest
  reached : period.limits.capacity ≤ period.largest

namespace Tallies

variable {period : Period} {service : Service}

theorem start (limits : Limits) : Tallies (.start limits) (.cleared limits) where
  limits := rfl
  distinct := List.nodup_nil
  counted := rfl
  missed := Nat.le_refl _
  bounded := Nat.zero_le _
  reached := Nat.le_refl _

/-- A change of the limits leaves the store as it is. -/
theorem adjust (tallies : Tallies period service) (limits : Limits) :
    Tallies { period with limits := limits, largest := max period.largest limits.capacity }
      { service with limits := limits } where
  limits := rfl
  distinct := tallies.distinct
  counted := tallies.counted
  missed := tallies.missed
  bounded := Nat.le_trans tallies.bounded (Nat.le_max_left _ _)
  reached := Nat.le_max_right _ _

theorem ask (tallies : Tallies period service) (query : Query) (datum : Datum) :
    Tallies (period.next (.ask query datum)) (service.serve (.ask query datum)).2 := by
  obtain ⟨limits, lookups, largest⟩ := period
  obtain ⟨same, distinct, counted, missed, bounded, reached⟩ := tallies
  obtain rfl : service.limits = limits := same
  dsimp only at counted bounded reached
  have step := fetched service.limits service.store datum
  have stillDistinct := step.nodup distinct
  rw [Service.serve_ask_store, Period.next]
  generalize (service.store.fetch service.limits datum).1 = outcome at step
  generalize (service.store.fetch service.limits datum).2 = after at step stillDistinct
  cases step with
  | off off =>
      rw [if_neg (by simp [off])]
      exact ⟨rfl, distinct, counted, missed, bounded, reached⟩
  | unkeyable _ kind =>
      rw [if_neg (by simp [kind])]
      exact ⟨rfl, distinct, counted, missed, bounded, reached⟩
  | hit positive held =>
      have width := length_touch_of_mem distinct held
      rw [if_pos ⟨Nat.pos_of_ne_zero positive, rfl⟩]
      constructor <;> dsimp only
      · exact stillDistinct
      · omega
      · omega
      · omega
      · exact reached
  | refused positive keyable =>
      rw [if_pos ⟨Nat.pos_of_ne_zero positive, keyable⟩]
      constructor <;> dsimp only
      · exact distinct
      · omega
      · omega
      · exact bounded
      · exact reached
  | @stored template positive absent =>
      have width := length_trim service.limits.capacity (touch template service.store.templates)
      rw [length_touch_of_notMem absent] at width
      rw [if_pos ⟨Nat.pos_of_ne_zero positive, rfl⟩]
      constructor <;> dsimp only
      · exact stillDistinct
      · omega
      · omega
      · omega
      · exact reached

theorem serve (tallies : Tallies period service) (request : Request) :
    Tallies (period.next request) (service.serve request).2 := by
  obtain ⟨limits, lookups, largest⟩ := period
  obtain rfl : service.limits = limits := tallies.limits
  cases request with
  | ask query datum => exact tallies.ask query datum
  | clear => exact start service.limits
  | counts => exact tallies.adjust service.limits
  | setMaxsize maxsize => exact tallies.adjust { service.limits with maxsize := maxsize }
  | setEnabled enabled => exact tallies.adjust { service.limits with enabled := enabled }

theorem run (tallies : Tallies period service) (requests : List Request) :
    Tallies (requests.foldl Period.next period) (service.run requests).2 := by
  induction requests generalizing period service with
  | nil => exact tallies
  | cons request rest inductionHypothesis => exact inductionHypothesis (tallies.serve request)

end Tallies

namespace Service

theorem tallies (limits : Limits) (requests : List Request) :
    Tallies (.after limits requests) ((cleared limits).run requests).2 :=
  (Tallies.start limits).run requests

theorem serve_ask_of_off {service : Service} (off : service.limits.capacity = 0)
    (query : Query) (datum : Datum) : (service.serve (.ask query datum)).2 = service := by
  rw [serve_ask_store, fetch, if_pos off]

/-- A look-up that fails is counted as a miss and leaves no other trace. -/
theorem serve_fetch_of_error {service : Service} (positive : 0 < service.limits.capacity)
    {datum : Datum} (keyable : datum.unkeyable? = none) {refusal : Refusal}
    (fails : (service.serve (.ask .fetch datum)).1 = .template (.error refusal)) :
    (service.serve (.ask .fetch datum)).2 =
      { service with store := { service.store with misses := service.store.misses + 1 } } := by
  rw [serve_ask_store]
  have step := fetched service.limits service.store datum
  have outcome : (service.store.fetch service.limits datum).1 = .error refusal := by
    injection fails
  rw [outcome] at step
  generalize (service.store.fetch service.limits datum).2 = after at step
  generalize stopped : Except.error refusal = failed at step
  cases step with
  | off off => omega
  | unkeyable _ kind => simp [kind] at keyable
  | hit => contradiction
  | refused => rfl
  | stored => contradiction

/-- Over any requests to a store that has been cleared, whatever is looked up and however the
limits change: the keys are the texts of distinct templates, each with its own template; the hits
and the misses are the look-ups since the store was last cleared that were made while templates
could be kept; and there are no more templates than misses, nor than could be kept at any time since
then.  A look-up that fails adds a miss and does nothing else, and while nothing can be kept, a
look-up does nothing. -/
theorem run_bookkeeping (limits : Limits) (requests : List Request) :
    let service := ((cleared limits).run requests).2
    let period := Period.after limits requests
    let keyed := Keyed.run limits .empty requests
    service.limits = period.limits ∧
    keyed = .ofStore service.store ∧
    (keyed.entries.Pairwise fun earlier later => earlier.1.sameKey later.1 = false) ∧
    (∀ entry ∈ keyed.entries, ∃ raw, entry.1 = .text raw ∧ entry.2.raw = raw ∧
      Template.ofText raw = .ok entry.2) ∧
    service.store.hits + service.store.misses = period.lookups ∧
    service.store.templates.length ≤ service.store.misses ∧
    service.store.templates.length ≤ period.largest ∧
    (∀ datum refusal, 0 < service.limits.capacity → datum.unkeyable? = none →
      (service.serve (.ask .fetch datum)).1 = .template (.error refusal) →
      (service.serve (.ask .fetch datum)).2 =
        { service with store := { service.store with misses := service.store.misses + 1 } }) ∧
    (service.limits.capacity = 0 →
      ∀ query datum, (service.serve (.ask query datum)).2 = service) := by
  intro service period keyed
  have invariant : Tallies period service := tallies limits requests
  have simulated : keyed = .ofStore service.store :=
    Keyed.run_ofStore (cleared limits) requests
  refine ⟨invariant.limits, simulated, ?_, ?_, invariant.counted, invariant.missed,
    invariant.bounded, fun datum refusal positive keyable fails =>
      serve_fetch_of_error positive keyable fails, fun off => serve_ask_of_off off⟩
  · rw [simulated]
    exact Keyed.pairwise_ofStore invariant.distinct
  · rw [simulated]
    intro entry among
    obtain ⟨template, _, rfl⟩ := List.mem_map.mp among
    exact ⟨template.raw, rfl, rfl, Template.ofText_raw template⟩

/-- The store is cleared, more is looked up than can be kept, the limit is lowered, and a look-up
fails. -/
theorem run_bookkeeping_lowered :
    let requests : List Request :=
      [.ask .fetch (.text "z"), .clear, .ask .fetch (.text "a"), .ask .validate (.text "b"),
        .ask .fetch (.integer 1), .ask .fetch (.text "c"), .setMaxsize 1,
        .ask .fetch (.text "b"), .setEnabled false, .ask .fetch (.text "d"), .setEnabled true]
    let service := ((cleared ⟨(2 : Nat), true⟩).run requests).2
    service.store.raws = [Text.ofString "c", "b"] ∧
    service.store.hits + service.store.misses = 5 ∧
    service.store.templates.length ≤ 2 ∧
    (Keyed.run ⟨(2 : Nat), true⟩ .empty requests).entries.length = 2 ∧
    0 < service.limits.capacity ∧
    (service.serve (.ask .fetch (.text "\x7d"))).1 =
      .template (.error (.defective "\x7d" (.strayClose 0))) ∧
    (service.serve (.ask .fetch (.text "\x7d"))).2.store.raws = [Text.ofString "c", "b"] := by
  intro requests service
  have kept : service.store.raws = [Text.ofString "c", "b"] := by decide +kernel
  have positive : 0 < service.limits.capacity := by decide +kernel
  have rejected : Template.ofText "\x7d" = .error (.strayClose 0) :=
    Template.ofText_eq_error_iff.mpr (by decide +kernel)
  have fails : (service.serve (.ask .fetch (.text "\x7d"))).1 =
      .template (.error (.defective "\x7d" (.strayClose 0))) := by
    rw [serve_ask_text, Query.afresh, readAfresh, rejected]
    rfl
  obtain ⟨_, simulated, _, _, counted, _, bounded, failing, _⟩ :=
    run_bookkeeping ⟨(2 : Nat), true⟩ requests
  refine ⟨kept, counted.trans (by decide +kernel),
    Nat.le_trans bounded (by decide +kernel), ?_, positive, fails, ?_⟩
  · rw [simulated, Keyed.ofStore, List.length_map, ← List.length_map Template.raw]
    exact congrArg List.length kept
  · rw [failing (.text "\x7d") _ positive rfl fails]
    exact kept

end Service

end UriTemplate.Store
