import UriTemplate.Proofs.Store.Service
import UriTemplate.Proofs.Template.Scanning
import Mathlib.Data.List.Dedup
import Mathlib.Data.List.DropRight

/-!
What the store holds after a history of questions.

`Service.asked_recent` says it from the history alone: the store holds the
templates that were asked for last, in the order of their last use, and a look-up
finds a text exactly if it is one of them.  The invariant is that the kept texts
are the end of the list of last uses.  A step keeps it because of `rtake_touch`:
moving a text to the end and cutting the list off may be done in either order, so
that whatever has been cut off is never missed.
-/

namespace UriTemplate.Store

section LastUses

variable {Item : Type} {size : Nat}

theorem rtake_eq_self {items : List Item} (short : items.length ≤ size) :
    items.rtake size = items := by
  rw [List.rtake, Nat.sub_eq_zero_of_le short, List.drop_zero]

theorem rtake_append_of_le {back : List Item} (long : size ≤ back.length)
    (front : List Item) : (front ++ back).rtake size = back.rtake size := by
  rw [List.rtake, List.rtake, List.length_append, Nat.add_sub_assoc long, List.drop_append]
  simp

theorem length_rtake_le (items : List Item) : (items.rtake size).length ≤ size := by
  rw [List.rtake, List.length_drop]
  omega

variable [DecidableEq Item]

/-- An item that is used again has its last use at the end. -/
theorem dedup_concat (items : List Item) (item : Item) :
    (items ++ [item]).dedup = items.dedup.filter (· ≠ item) ++ [item] := by
  induction items with
  | nil => simp
  | cons head rest inductionHypothesis =>
      rw [List.cons_append]
      by_cases later : head ∈ rest
      · rw [List.dedup_cons_of_mem (List.mem_append_left _ later),
          List.dedup_cons_of_mem later, inductionHypothesis]
      by_cases same : head = item
      · subst same
        rw [List.dedup_cons_of_mem (by simp), inductionHypothesis,
          List.dedup_cons_of_notMem later]
        simp
      · rw [List.dedup_cons_of_notMem (by simp [later, same]), inductionHypothesis,
          List.dedup_cons_of_notMem later]
        simp [same]

theorem filter_ne_eq_erase {items : List Item} (nodup : items.Nodup) (item : Item) :
    items.filter (· ≠ item) = items.erase item := by
  rw [nodup.erase_eq_filter]
  congr 1
  funext other
  by_cases same : other = item <;> simp [same]

theorem length_filter_ne_of_mem {items : List Item} (nodup : items.Nodup) {item : Item}
    (among : item ∈ items) : (items.filter (· ≠ item)).length + 1 = items.length := by
  have positive := List.length_pos_of_mem among
  rw [filter_ne_eq_erase nodup, List.length_erase_of_mem among]
  omega

theorem length_le_length_filter {items : List Item} (nodup : items.Nodup) (item : Item) :
    items.length ≤ (items.filter (· ≠ item)).length + 1 := by
  rw [filter_ne_eq_erase nodup, List.length_erase]
  split <;> omega

/-- Among distinct items, the last ones may be cut out before or after an item is moved to the
end. -/
theorem rtake_touch {items : List Item} (nodup : items.Nodup) (item : Item) :
    ((items.rtake size).filter (· ≠ item) ++ [item]).rtake size =
      (items.filter (· ≠ item) ++ [item]).rtake size := by
  by_cases short : items.length ≤ size
  · rw [rtake_eq_self short]
  -- Enough of the last items are left after the move to fill the cut on their own.
  have split : items.rdrop size ++ items.rtake size = items := List.take_append_drop _ _
  have full : (items.rtake size).length = size := by
    rw [List.rtake, List.length_drop]
    omega
  have distinct : (items.rtake size).Nodup := nodup.sublist (List.drop_sublist _ _)
  have long : size ≤ ((items.rtake size).filter (· ≠ item) ++ [item]).length := by
    have most := length_le_length_filter distinct item
    rw [List.length_append, List.length_singleton]
    omega
  conv_rhs => rw [← split, List.filter_append, List.append_assoc]
  rw [rtake_append_of_le long]

end LastUses

def isAccepted (raw : Text) : Bool :=
  (Template.ofText raw).isOk

/-- The templates among the texts asked for, each where it was asked for last. -/
def lastUses (history : List Text) : List Text :=
  (history.filter isAccepted).dedup

/-- The templates asked for most recently, as many as may be kept. -/
def recent (size : Nat) (history : List Text) : List Text :=
  (lastUses history).rtake size

theorem isAccepted_of_mem_recent {size : Nat} {history : List Text} {raw : Text}
    (among : raw ∈ recent size history) : isAccepted raw = true := by
  have used : raw ∈ lastUses history := List.mem_of_mem_drop among
  exact (List.mem_filter.mp (List.mem_dedup.mp used)).2

theorem notMem_recent_of_rejected {size : Nat} {history : List Text} {raw : Text}
    (rejected : isAccepted raw = false) : raw ∉ recent size history := by
  intro among
  rw [isAccepted_of_mem_recent among] at rejected
  contradiction

theorem recent_concat_of_rejected {raw : Text} (rejected : isAccepted raw = false)
    (size : Nat) (history : List Text) :
    recent size (history ++ [raw]) = recent size history := by
  simp [recent, lastUses, rejected]

theorem recent_concat_of_accepted {raw : Text} (accepted : isAccepted raw = true)
    (size : Nat) (history : List Text) :
    recent size (history ++ [raw]) =
      ((recent size history).filter (· ≠ raw) ++ [raw]).rtake size := by
  have appended : (history ++ [raw]).filter isAccepted = history.filter isAccepted ++ [raw] := by
    simp [accepted]
  rw [recent, lastUses, appended, dedup_concat, ← rtake_touch (List.nodup_dedup _)]
  rfl

/-- A template that is asked for again is moved to the end, and none is cut off. -/
theorem recent_concat_of_mem {size : Nat} {history : List Text} {raw : Text}
    (among : raw ∈ recent size history) :
    recent size (history ++ [raw]) = (recent size history).filter (· ≠ raw) ++ [raw] := by
  have fewer : ((recent size history).filter (· ≠ raw)).length <
      (recent size history).length :=
    List.length_filter_lt_length_iff_exists.mpr ⟨raw, among, by simp⟩
  have bound : (recent size history).length ≤ size := length_rtake_le _
  rw [recent_concat_of_accepted (isAccepted_of_mem_recent among), rtake_eq_self]
  rw [List.length_append, List.length_singleton]
  omega

/-! ## One look-up -/

theorem raws_touch (template : Template) (templates : List Template) :
    (touch template templates).map Template.raw =
      (templates.map Template.raw).filter (· ≠ template.raw) ++ [template.raw] := by
  rw [touch, List.map_append, List.filter_map, List.map_singleton]
  congr 3
  funext other
  by_cases same : other.raw = template.raw <;> simp [same]

theorem raws_trim (size : Nat) (templates : List Template) :
    (trim size templates).map Template.raw = (templates.map Template.raw).rtake size := by
  rw [trim, List.map_drop, List.rtake, List.length_map]

theorem fetch_text_of_mem {limits : Limits} (kept : limits.capacity ≠ 0) {store : Store}
    {raw : Text} (among : raw ∈ store.raws) :
    ∃ template, template.raw = raw ∧
      (store.fetch limits (.text raw)).2 =
        { store with
          templates := touch template store.templates
          hits := store.hits + 1 } := by
  cases found : store.find? (.text raw) with
  | some template =>
      have sameRaw : template.raw = raw := by
        simpa using List.find?_some found
      refine ⟨template, sameRaw, ?_⟩
      rw [fetch, if_neg kept]
      simp only [Datum.unkeyable?, found]
  | none =>
      obtain ⟨template, held, sameRaw⟩ := List.mem_map.mp among
      have different := List.find?_eq_none.mp found template held
      simp [sameRaw] at different

theorem fetch_text_of_notMem {limits : Limits} (kept : limits.capacity ≠ 0) {store : Store}
    {raw : Text} (absent : raw ∉ store.raws) :
    (store.fetch limits (.text raw)).2 =
      match Template.ofText raw with
      | .ok template =>
          { store with
            templates := trim limits.capacity (touch template store.templates)
            misses := store.misses + 1 }
      | .error _ => { store with misses := store.misses + 1 } := by
  have unfound : store.find? (.text raw) = none := by
    rw [find?, List.find?_eq_none]
    intro template held same
    rw [beq_iff_eq] at same
    exact absent (List.mem_map.mpr ⟨template, held, same⟩)
  rw [fetch, if_neg kept]
  simp only [Datum.unkeyable?, unfound, Template.ofDatum]
  cases Template.ofText raw <;> rfl

/-- A look-up keeps the store in step with the history, and counts what the history says. -/
theorem fetch_recent {limits : Limits} (kept : limits.capacity ≠ 0) {store : Store}
    {history : List Text} (holds : store.raws = recent limits.capacity history) (raw : Text) :
    (store.fetch limits (.text raw)).2.raws = recent limits.capacity (history ++ [raw]) ∧
    (raw ∈ recent limits.capacity history →
      (store.fetch limits (.text raw)).2.hits = store.hits + 1 ∧
      (store.fetch limits (.text raw)).2.misses = store.misses) ∧
    (raw ∉ recent limits.capacity history →
      (store.fetch limits (.text raw)).2.hits = store.hits ∧
      (store.fetch limits (.text raw)).2.misses = store.misses + 1) ∧
    (isAccepted raw = false →
      (store.fetch limits (.text raw)).2 = { store with misses := store.misses + 1 }) := by
  by_cases among : raw ∈ recent limits.capacity history
  -- What is kept is a template, and moving it to the end leaves room for all of them.
  · obtain ⟨template, sameRaw, after⟩ := fetch_text_of_mem kept (holds ▸ among)
    rw [after]
    refine ⟨?_, fun _ => ⟨rfl, rfl⟩, fun absent => absurd among absent,
      fun rejected => absurd among (notMem_recent_of_rejected rejected)⟩
    rw [recent_concat_of_mem among, raws, raws_touch, sameRaw, ← holds]
    rfl
  -- What is not kept is read, and then stored only if it is a template.
  · have after := fetch_text_of_notMem kept (holds ▸ among)
    cases read : Template.ofText raw with
    | error defect =>
        have rejected : isAccepted raw = false := by rw [isAccepted, read]; rfl
        rw [read] at after
        rw [after, recent_concat_of_rejected rejected]
        exact ⟨holds, fun inside => absurd inside among, fun _ => ⟨rfl, rfl⟩, fun _ => rfl⟩
    | ok template =>
        have accepted : isAccepted raw = true := by rw [isAccepted, read]; rfl
        rw [read] at after
        rw [after, recent_concat_of_accepted accepted]
        refine ⟨?_, fun inside => absurd inside among, fun _ => ⟨rfl, rfl⟩, ?_⟩
        · rw [raws, raws_trim, raws_touch, (Template.ofText_eq_ok_iff.mp read).1, ← holds]
          rfl
        · intro rejected
          rw [accepted] at rejected
          contradiction

namespace Service

def asking (asks : List (Query × Text)) : List Request :=
  asks.map fun ask => .ask ask.1 (.text ask.2)

/-- A service that has been cleared and then been asked about texts. -/
def asked (limits : Limits) (asks : List (Query × Text)) : Service :=
  ((cleared limits).run (asking asks)).2

theorem asked_concat (limits : Limits) (asks : List (Query × Text)) (query : Query)
    (raw : Text) :
    asked limits (asks ++ [(query, raw)]) =
      ((asked limits asks).serve (.ask query (.text raw))).2 := by
  rw [asked, asking, List.map_append, run_append]
  rfl

theorem limits_asked (limits : Limits) (asks : List (Query × Text)) :
    (asked limits asks).limits = limits := by
  induction asks using List.reverseRecOn with
  | nil => rfl
  | append_singleton asks ask inductionHypothesis =>
      rw [asked_concat, serve_ask_store]
      exact inductionHypothesis

/-- The invariant of a run: the kept texts are the end of the list of last uses. -/
theorem raws_asked {limits : Limits} (kept : limits.capacity ≠ 0)
    (asks : List (Query × Text)) :
    (asked limits asks).store.raws = recent limits.capacity (asks.map Prod.snd) := by
  induction asks using List.reverseRecOn with
  | nil =>
      rw [List.map_nil, recent, lastUses, List.filter_nil, List.dedup_nil, List.rtake_nil]
      rfl
  | append_singleton asks ask inductionHypothesis =>
      rw [asked_concat, serve_ask_store, limits_asked, List.map_append]
      exact (fetch_recent kept inductionHypothesis ask.2).1

/-- After any questions about texts, the store holds the most recent templates among them in the
order of their last use.  The next question is a hit if it is about one of these and a miss if
not, and one about a text that is no template changes nothing else. -/
theorem asked_recent {size : Nat} (positive : 1 ≤ size) (asks : List (Query × Text)) :
    (asked ⟨size, true⟩ asks).store.raws = recent size (asks.map Prod.snd) ∧
    ∀ query raw,
      let store := (asked ⟨size, true⟩ asks).store
      let next := (asked ⟨size, true⟩ (asks ++ [(query, raw)])).store
      (raw ∈ recent size (asks.map Prod.snd) →
        next.hits = store.hits + 1 ∧ next.misses = store.misses) ∧
      (raw ∉ recent size (asks.map Prod.snd) →
        next.hits = store.hits ∧ next.misses = store.misses + 1) ∧
      (isAccepted raw = false →
        raw ∉ recent size (asks.map Prod.snd) ∧
          next = { store with misses := store.misses + 1 }) := by
  have kept : (⟨size, true⟩ : Limits).capacity ≠ 0 := Nat.ne_of_gt positive
  have holds := raws_asked kept asks
  refine ⟨holds, ?_⟩
  intro query raw store next
  have step : next = (store.fetch ⟨size, true⟩ (.text raw)).2 := by
    simp only [next, asked_concat, serve_ask_store, limits_asked]
    rfl
  obtain ⟨_, hit, miss, refused⟩ := fetch_recent kept holds raw
  rw [step]
  exact ⟨hit, miss, fun rejected => ⟨notMem_recent_of_rejected rejected, refused rejected⟩⟩

/-- Two templates are kept: one that was asked for before both of them is gone. -/
theorem asked_recent_two :
    let asks : List (Query × Text) :=
      [(.fetch, "a"), (.validate, "b"), (.fetch, "\x7d"), (.variableNames, "a"),
        (.expand [] [], "c")]
    let store := fun more => (asked ⟨(2 : Nat), true⟩ (asks ++ more)).store
    (store []).raws = [Text.ofString "a", "c"] ∧
    (store [(.fetch, "a")]).hits = (store []).hits + 1 ∧
    (store [(.fetch, "b")]).misses = (store []).misses + 1 ∧
    (store [(.validate, "\x7bx")]).raws = [Text.ofString "a", "c"] := by
  intro asks store
  have last : recent 2 (asks.map Prod.snd) = [Text.ofString "a", "c"] := by decide +kernel
  obtain ⟨holds, counted⟩ := asked_recent (by decide : 1 ≤ 2) asks
  rw [last] at holds counted
  refine ⟨holds, ?_, ?_, ?_⟩
  · exact ((counted .fetch "a").1 (by decide)).1
  · exact ((counted .fetch "b").2.1 (by decide)).2
  · have refused := ((counted .validate "\x7bx").2.2 (by decide +kernel)).2
    exact (congrArg Store.raws refused).trans holds

end Service

end UriTemplate.Store
