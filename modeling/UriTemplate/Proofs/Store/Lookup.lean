import UriTemplate.Proofs.Store.Recency

/-!
What a look-up can do.

`Fetched` lists the ways in which a look-up ends, each with its conditions, its
outcome and the store after it.  Whatever holds of all look-ups is shown by going
through them.
-/

namespace UriTemplate.Store

theorem ofDatum_eq_ok_iff {datum : Datum} {template : Template} :
    Template.ofDatum datum = .ok template ↔ datum = .text template.raw := by
  constructor
  · intro read
    cases datum with
    | text raw =>
        rw [Template.ofDatum] at read
        cases reads : Template.ofText raw with
        | error defect =>
            rw [reads] at read
            contradiction
        | ok other =>
            rw [reads] at read
            cases read
            rw [(Template.ofText_eq_ok_iff.mp reads).1]
    | _ => contradiction
  · rintro rfl
    rw [Template.ofDatum, Template.ofText_raw]

/-- How a look-up of a datum ends, and with which store. -/
inductive Fetched (limits : Limits) (store : Store) :
    Datum → Except Refusal Template → Store → Prop where
  | off {datum} : limits.capacity = 0 → Fetched limits store datum (Template.ofDatum datum) store
  | unkeyable {datum kind} : limits.capacity ≠ 0 → datum.unkeyable? = some kind →
      Fetched limits store datum (.error (.unkeyable kind)) store
  | hit {template} : limits.capacity ≠ 0 → template ∈ store.templates →
      Fetched limits store (.text template.raw) (.ok template)
        { store with
          templates := touch template store.templates
          hits := store.hits + 1 }
  | refused {datum refusal} : limits.capacity ≠ 0 → datum.unkeyable? = none →
      Template.ofDatum datum = .error refusal →
      Fetched limits store datum (.error refusal) { store with misses := store.misses + 1 }
  | stored {template} : limits.capacity ≠ 0 → template.raw ∉ store.raws →
      Fetched limits store (.text template.raw) (.ok template)
        { store with
          templates := trim limits.capacity (touch template store.templates)
          misses := store.misses + 1 }

theorem mem_of_find? {store : Store} {datum : Datum} {template : Template}
    (found : store.find? datum = some template) :
    datum = .text template.raw ∧ template ∈ store.templates := by
  cases datum with
  | text raw =>
      have sameRaw : template.raw = raw := by
        simpa using List.find?_some found
      rw [sameRaw]
      exact ⟨rfl, List.mem_of_find?_eq_some found⟩
  | _ => contradiction

theorem find?_text_eq_none_iff {store : Store} {raw : Text} :
    store.find? (.text raw) = none ↔ raw ∉ store.raws := by
  simp [find?, raws]

theorem fetched (limits : Limits) (store : Store) (datum : Datum) :
    Fetched limits store datum (store.fetch limits datum).1 (store.fetch limits datum).2 := by
  unfold fetch
  by_cases off : limits.capacity = 0
  · rw [if_pos off]
    exact .off off
  rw [if_neg off]
  cases keyable : datum.unkeyable? with
  | some kind => exact .unkeyable off keyable
  | none =>
      dsimp only
      cases found : store.find? datum with
      | some template =>
          obtain ⟨rfl, held⟩ := mem_of_find? found
          exact .hit off held
      | none =>
          cases read : Template.ofDatum datum with
          | error refusal => exact .refused off keyable read
          | ok template =>
              cases ofDatum_eq_ok_iff.mp read
              exact .stored off (find?_text_eq_none_iff.mp found)

theorem Fetched.nodup {limits : Limits} {store after : Store} {datum : Datum}
    {outcome : Except Refusal Template} (step : Fetched limits store datum outcome after)
    (distinct : store.raws.Nodup) : after.raws.Nodup := by
  have touched (template : Template) :
      ((touch template store.templates).map Template.raw).Nodup := by
    rw [raws_touch, List.nodup_append]
    refine ⟨distinct.filter _, List.nodup_singleton _, ?_⟩
    intro raw among other isLast same
    rw [List.mem_singleton] at isLast
    simp [same, isLast] at among
  cases step with
  | off => exact distinct
  | unkeyable => exact distinct
  | hit => exact touched _
  | refused => exact distinct
  | stored =>
      rw [raws, raws_trim]
      exact (touched _).sublist (List.drop_sublist _ _)

theorem length_touch_of_mem {template : Template} {templates : List Template}
    (distinct : (templates.map Template.raw).Nodup) (held : template ∈ templates) :
    (touch template templates).length = templates.length := by
  have among : template.raw ∈ templates.map Template.raw := List.mem_map_of_mem held
  have width := congrArg List.length (raws_touch template templates)
  rw [List.length_append, List.length_singleton, length_filter_ne_of_mem distinct among,
    List.length_map, List.length_map] at width
  exact width

theorem length_touch_of_notMem {template : Template} {templates : List Template}
    (absent : template.raw ∉ templates.map Template.raw) :
    (touch template templates).length = templates.length + 1 := by
  have width := congrArg List.length (raws_touch template templates)
  rw [List.filter_eq_self.mpr, List.length_append] at width
  · simpa using width
  · intro raw among
    rw [decide_eq_true_iff]
    rintro rfl
    exact absent among

theorem length_trim (capacity : Nat) (templates : List Template) :
    (trim capacity templates).length = min templates.length capacity := by
  rw [trim, List.length_drop]
  omega

end UriTemplate.Store
