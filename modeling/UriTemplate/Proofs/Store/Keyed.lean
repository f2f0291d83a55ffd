import UriTemplate.Proofs.Store.Lookup
import UriTemplate.Proofs.Value.Native

/-!
A store with keys.

A keyed store binds whatever has been asked for to the template that was read for
it, and nothing in it says that the two belong together.  The store of templates
alone does all that the keyed store does (`Keyed.run_ofStore`): it can leave the
keys out because each of them is the text of its own template.
-/

namespace UriTemplate.Store

/-- What has been asked for with the templates read for it, the least recently used first. -/
structure Keyed where
  entries : List (Datum × Template)
  hits : Nat
  misses : Nat

namespace Keyed

def empty : Keyed := ⟨[], 0, 0⟩

def find? (key : Datum) (entries : List (Datum × Template)) : Option (Datum × Template) :=
  entries.find? fun entry => entry.1.sameKey key

/-- Moves the entry with a key to the end. -/
def touch (key : Datum) (entries : List (Datum × Template)) : List (Datum × Template) :=
  entries.filter (fun entry => !entry.1.sameKey key) ++ (find? key entries).toList

/-- Looks a datum up under the keys, and binds it to what is read for it if it is none of them. -/
def fetch (limits : Limits) (keyed : Keyed) (key : Datum) : Except Refusal Template × Keyed :=
  if limits.capacity = 0 then (Template.ofDatum key, keyed)
  else
    match key.unkeyable? with
    | some kind => (.error (.unkeyable kind), keyed)
    | none =>
        match find? key keyed.entries with
        | some entry =>
            (.ok entry.2,
              { keyed with
                entries := touch key keyed.entries
                hits := keyed.hits + 1 })
        | none =>
            match Template.ofDatum key with
            | .error refusal => (.error refusal, { keyed with misses := keyed.misses + 1 })
            | .ok template =>
                let entries := touch key (Datum.insertEntry key template keyed.entries)
                (.ok template,
                  { keyed with
                    entries := entries.drop (entries.length - limits.capacity)
                    misses := keyed.misses + 1 })

def serve (limits : Limits) (keyed : Keyed) : Request → Keyed
  | .ask _ datum => (keyed.fetch limits datum).2
  | .clear => .empty
  | _ => keyed

/-- The keyed store after requests, the first of which is made under the given limits. -/
def run (limits : Limits) (keyed : Keyed) : List Request → Keyed
  | [] => keyed
  | request :: rest => run (request.adjust limits) (keyed.serve limits request) rest

def entryOf (template : Template) : Datum × Template :=
  (.text template.raw, template)

/-- A store of templates with the text of each as its key. -/
def ofStore (store : Store) : Keyed :=
  ⟨store.templates.map entryOf, store.hits, store.misses⟩

theorem find?_entryOf (key : Datum) (store : Store) :
    find? key (store.templates.map entryOf) = (store.find? key).map entryOf := by
  rw [find?, List.find?_map]
  refine congrArg (Option.map entryOf) ?_
  cases key with
  | text raw => rfl
  | _ =>
      change List.find? _ store.templates = none
      rw [List.find?_eq_none]
      intro template _ same
      rw [Function.comp_apply, entryOf, Datum.sameKey_text_iff] at same
      contradiction

theorem filter_entryOf (raw : Text) (templates : List Template) :
    (templates.map entryOf).filter (fun entry => !entry.1.sameKey (.text raw)) =
      (templates.filter fun template => template.raw != raw).map entryOf := by
  rw [List.filter_map]
  rfl

theorem insertEntry_of_find?_eq_none {key : Datum} {entries : List (Datum × Template)}
    (absent : find? key entries = none) (template : Template) :
    Datum.insertEntry key template entries = entries ++ [(key, template)] := by
  rw [find?, List.find?_eq_none] at absent
  exact Datum.insertEntry_of_absent
    (fun entry among => Bool.eq_false_iff.mpr (absent entry among)) template

theorem touch_entryOf_of_mem {template : Template} {store : Store}
    (found : store.find? (.text template.raw) = some template) :
    touch (.text template.raw) (store.templates.map entryOf) =
      (Store.touch template store.templates).map entryOf := by
  rw [touch, filter_entryOf, find?_entryOf, found, Store.touch, List.map_append]
  rfl

theorem touch_insertEntry {template : Template} {store : Store}
    (absent : store.find? (.text template.raw) = none) :
    touch (.text template.raw)
        (Datum.insertEntry (.text template.raw) template (store.templates.map entryOf)) =
      (Store.touch template store.templates).map entryOf := by
  have unbound : find? (.text template.raw) (store.templates.map entryOf) = none := by
    rw [find?_entryOf, absent, Option.map_none]
  have same : (Datum.text template.raw).sameKey (.text template.raw) = true :=
    Datum.sameKey_text_iff.mpr rfl
  have bound : find? (.text template.raw) (store.templates.map entryOf ++
      [(.text template.raw, template)]) = some (.text template.raw, template) := by
    rw [find?] at unbound ⊢
    rw [List.find?_append, unbound, Option.none_or, List.find?_singleton, same]
    rfl
  rw [insertEntry_of_find?_eq_none unbound, touch, bound, List.filter_append, filter_entryOf,
    List.filter_singleton, same, Store.touch, List.map_append]
  simp [entryOf]

/-- A look-up in the keyed store finds what a look-up in the store of templates finds. -/
theorem fetch_ofStore (limits : Limits) (store : Store) (datum : Datum) :
    (ofStore store).fetch limits datum =
      ((store.fetch limits datum).1, ofStore (store.fetch limits datum).2) := by
  unfold fetch Store.fetch
  by_cases off : limits.capacity = 0
  · rw [if_pos off, if_pos off]
  rw [if_neg off, if_neg off]
  cases datum.unkeyable? with
  | some kind => rfl
  | none =>
      dsimp only [ofStore]
      rw [find?_entryOf]
      cases found : store.find? datum with
      | some template =>
          obtain ⟨rfl, _⟩ := mem_of_find? found
          dsimp only [Option.map_some]
          rw [touch_entryOf_of_mem found]
          rfl
      | none =>
          cases read : Template.ofDatum datum with
          | error refusal => rfl
          | ok template =>
              cases ofDatum_eq_ok_iff.mp read
              dsimp only [Option.map_none]
              rw [touch_insertEntry found, List.length_map, ← List.map_drop]
              rfl

theorem serve_ofStore (service : Service) (request : Request) :
    (ofStore service.store).serve service.limits request =
      ofStore (service.serve request).2.store := by
  cases request with
  | ask query datum => rw [serve, fetch_ofStore, Service.serve_ask_store]
  | clear => rfl
  | counts => rfl
  | setMaxsize maxsize => rfl
  | setEnabled enabled => rfl

theorem run_ofStore (service : Service) (requests : List Request) :
    run service.limits (ofStore service.store) requests =
      ofStore (service.run requests).2.store := by
  induction requests generalizing service with
  | nil => rfl
  | cons request rest inductionHypothesis =>
      rw [run, serve_ofStore, ← Service.serve_limits, inductionHypothesis, Service.run_cons]

/-- Keys that are texts of templates differ if the templates do. -/
theorem pairwise_ofStore {store : Store} (distinct : store.raws.Nodup) :
    (ofStore store).entries.Pairwise fun earlier later =>
      earlier.1.sameKey later.1 = false := by
  rw [ofStore, List.pairwise_map]
  rw [raws, List.Nodup, List.pairwise_map] at distinct
  refine distinct.imp ?_
  intro earlier later different
  rw [Bool.eq_false_iff, entryOf, entryOf, ne_eq, Datum.sameKey_text_iff, Datum.text.injEq]
  exact fun same => different same.symm

end Keyed

end UriTemplate.Store
