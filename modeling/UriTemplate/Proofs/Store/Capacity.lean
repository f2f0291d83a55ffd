import UriTemplate.Proofs.Store.Bookkeeping

/-!
When the store is within its capacity.

The capacity may be lowered while templates are kept.  Only a look-up that stores
another template makes room then: one that finds its template, or that fails,
leaves the store as full as it was (`Service.ask_isWithin_iff`).
-/

namespace UriTemplate.Store

variable {limits : Limits} {store : Store} {datum : Datum}

theorem isAccepted_iff {raw : Text} :
    isAccepted raw = true ↔ ∃ template : Template, template.raw = raw := by
  rw [isAccepted, Outcome.isOk_iff]
  constructor
  · rintro ⟨template, read⟩
    exact ⟨template, (Template.ofText_eq_ok_iff.mp read).1⟩
  · rintro ⟨template, rfl⟩
    exact ⟨template, Template.ofText_raw template⟩

/-- Whether a look-up of the datum stores a template: it is the text of one that is not kept. -/
def Adds (store : Store) (datum : Datum) : Prop :=
  ∃ raw, datum = .text raw ∧ isAccepted raw = true ∧ raw ∉ store.raws

theorem adds_text_iff {raw : Text} :
    store.Adds (.text raw) ↔ isAccepted raw = true ∧ raw ∉ store.raws := by
  constructor
  · rintro ⟨other, same, adds⟩
    cases same
    exact adds
  · exact fun adds => ⟨raw, rfl, adds⟩

/-- How many templates a look-up leaves while templates can be kept. -/
theorem Fetched.length_templates {after : Store} {outcome : Except Refusal Template}
    (step : Fetched limits store datum outcome after) (positive : 0 < limits.capacity)
    (distinct : store.raws.Nodup) :
    (store.Adds datum ∧
      after.templates.length = min (store.templates.length + 1) limits.capacity) ∨
    (¬store.Adds datum ∧ after.templates.length = store.templates.length) := by
  cases step with
  | off off => omega
  | unkeyable _ kind =>
      right
      refine ⟨?_, rfl⟩
      rintro ⟨raw, rfl, _⟩
      contradiction
  | @hit template _ held =>
      right
      refine ⟨?_, length_touch_of_mem distinct held⟩
      intro adds
      exact (adds_text_iff.mp adds).2 (List.mem_map_of_mem held)
  | refused _ _ fails =>
      right
      refine ⟨?_, rfl⟩
      rintro ⟨raw, rfl, accepted, _⟩
      obtain ⟨template, rfl⟩ := isAccepted_iff.mp accepted
      rw [ofDatum_eq_ok_iff.mpr rfl] at fails
      contradiction
  | @stored template _ absent =>
      left
      refine ⟨adds_text_iff.mpr ⟨isAccepted_iff.mpr ⟨template, rfl⟩, absent⟩, ?_⟩
      dsimp only
      rw [length_trim, length_touch_of_notMem absent]

/-- A period that goes on from a service, the largest capacity being the one in force now. -/
def Period.resumed (service : Service) : Period where
  limits := service.limits
  lookups := service.store.hits + service.store.misses
  largest := service.limits.capacity

namespace Service

variable {service : Service}

/-- Whether the service keeps no more templates than it may. -/
def IsWithin (service : Service) : Prop :=
  service.counts.size ≤ service.counts.maxsize

instance : Decidable service.IsWithin := Nat.decLe _ _

theorem tallies_resumed {period : Period} (tallies : Tallies period service)
    (within : service.IsWithin) : Tallies (.resumed service) service where
  limits := rfl
  distinct := tallies.distinct
  counted := rfl
  missed := tallies.missed
  bounded := within
  reached := Nat.le_refl _

theorem serve_ask_size (distinct : service.store.raws.Nodup)
    (positive : 0 < service.limits.capacity) (query : Query) (datum : Datum) :
    (service.store.Adds datum ∧
      (service.serve (.ask query datum)).2.counts.size =
        min (service.counts.size + 1) service.limits.capacity) ∨
    (¬service.store.Adds datum ∧
      (service.serve (.ask query datum)).2.counts.size = service.counts.size) := by
  rw [serve_ask_store]
  exact (fetched service.limits service.store datum).length_templates positive distinct

/-- In any state that can be reached, whatever is asked while templates can be kept: afterwards
there are no more templates than may be kept if and only if one has been stored or there were no
more before.  Storing one makes all the room that is needed, and anything else leaves as many as
there were, so a capacity that has not been lowered since the store was cleared is never exceeded.
Once it is kept to, it is until it is lowered again. -/
theorem ask_isWithin_iff (limits : Limits) (requests : List Request) (query : Query)
    (datum : Datum) (positive : 0 < ((cleared limits).run requests).2.limits.capacity) :
    let service := ((cleared limits).run requests).2
    let next := (service.serve (.ask query datum)).2
    (next.IsWithin ↔ service.store.Adds datum ∨ service.IsWithin) ∧
    (service.store.Adds datum →
      next.counts.size = min (service.counts.size + 1) service.limits.capacity) ∧
    (¬service.store.Adds datum → next.counts.size = service.counts.size) ∧
    ((Period.after limits requests).largest ≤ service.limits.capacity → next.IsWithin) ∧
    (next.IsWithin → ∀ later,
      (next.run later).2.counts.size ≤ (later.foldl Period.next (.resumed next)).largest) := by
  intro service next
  have invariant : Tallies (.after limits requests) service := tallies limits requests
  have same : next.counts.maxsize = service.limits.capacity :=
    congrArg Limits.capacity (serve_limits service (.ask query datum))
  have size := serve_ask_size invariant.distinct positive query datum
  have within : next.IsWithin ↔ service.store.Adds datum ∨ service.IsWithin := by
    unfold IsWithin
    rw [same]
    obtain ⟨adds, grown⟩ | ⟨adds, kept⟩ := size
    · exact iff_of_true (grown ▸ Nat.min_le_right _ _) (.inl adds)
    · rw [show next.counts.size = service.counts.size from kept]
      exact (or_iff_right adds).symm
  refine ⟨within, ?_, ?_, ?_, ?_⟩
  · intro adds
    obtain ⟨_, grown⟩ | ⟨unadded, _⟩ := size
    · exact grown
    · exact absurd adds unadded
  · intro unadded
    obtain ⟨adds, _⟩ | ⟨_, kept⟩ := size
    · exact absurd adds unadded
    · exact kept
  · intro unlowered
    exact within.mpr (.inr (Nat.le_trans invariant.bounded unlowered))
  · intro holds later
    exact ((tallies_resumed (invariant.serve (.ask query datum)) holds).run later).bounded

/-- Two templates are kept when the capacity is lowered to one.  Finding one of them leaves both;
storing a third leaves one, and the capacity is kept to from then on. -/
theorem ask_isWithin_iff_lowered :
    let requests : List Request :=
      [.ask .fetch (.text "a"), .ask .validate (.text "b"), .setMaxsize 1]
    let service := ((cleared {}).run requests).2
    let found := (service.serve (.ask .fetch (.text "b"))).2
    let stored := (service.serve (.ask .variableNames (.text "c"))).2
    0 < service.limits.capacity ∧
    ¬found.IsWithin ∧
    stored.counts.size = 1 ∧
    (stored.run [.ask .fetch (.text "a"), .ask .fetch (.text "a")]).2.counts.size ≤ 1 := by
  intro requests service found stored
  have kept : service.store.raws = [Text.ofString "a", "b"] := by decide +kernel
  have one : service.limits.capacity = 1 := by decide +kernel
  have positive : 0 < service.limits.capacity := one ▸ Nat.one_pos
  have finds : ¬service.store.Adds (.text "b") := by
    rw [adds_text_iff, kept]
    decide +kernel
  have stores : service.store.Adds (.text "c") := by
    rw [adds_text_iff, kept]
    decide +kernel
  have asked := ask_isWithin_iff {} requests .fetch (.text "b") positive
  obtain ⟨within, size, _, _, later⟩ :=
    ask_isWithin_iff {} requests .variableNames (.text "c") positive
  refine ⟨positive, ?_, ?_, ?_⟩
  · rw [asked.1, or_iff_right finds]
    decide +kernel
  · rw [size stores, one]
    decide +kernel
  · exact later (within.mpr (.inl stores)) _

/-- A look-up need not leave as few templates as may be kept: neither one that finds its template
nor one that fails does when the capacity has been lowered. -/
theorem ask_exceeds :
    let requests : List Request :=
      [.ask .fetch (.text "a"), .ask .fetch (.text "b"), .setMaxsize 1]
    let service := ((cleared {}).run requests).2
    0 < service.limits.capacity ∧
    ¬(service.serve (.ask .fetch (.text "b"))).2.IsWithin ∧
    ¬(service.serve (.ask .fetch (.text "\x7d"))).2.IsWithin := by
  decide +kernel

end Service

end UriTemplate.Store
