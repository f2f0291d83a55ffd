import UriTemplate.Value.Binding
import Mathlib.Data.List.Nodup

/-!
What names are bound to.

Bindings in which no name stands twice are determined by the order of their names
and by what each name is looked up as (`Bindings.eq_of_find?_eq`).  Both are known
of bindings that are laid over others: the names of the others keep their places,
the new ones follow in their own order, and the new bindings are looked up first.
-/

namespace UriTemplate.Bindings

variable {Content : Type}

/-! ## Looking up -/

@[simp]
theorem find?_nil (name : Text) : find? name ([] : Bindings Content) = none := rfl

theorem find?_map {Other : Type} (change : Content → Other) (bindings : Bindings Content)
    (name : Text) :
    find? name (bindings.map fun entry => (entry.1, change entry.2)) =
      (find? name bindings).map change := by
  induction bindings with
  | nil => rfl
  | cons entry rest inductionHypothesis =>
      rw [List.map_cons, find?, find?, inductionHypothesis]
      split <;> rfl

/-- What a name is bound to may be changed depending on the name. -/
theorem find?_map_named (change : Text → Content → Content) (bindings : Bindings Content)
    (name : Text) :
    find? name (bindings.map fun entry => (entry.1, change entry.1 entry.2)) =
      (find? name bindings).map (change name) := by
  induction bindings with
  | nil => rfl
  | cons entry rest inductionHypothesis =>
      rw [List.map_cons, find?, find?, inductionHypothesis]
      by_cases isFirst : entry.1 = name <;> simp [isFirst]

theorem find?_append (bindings others : Bindings Content) (name : Text) :
    find? name (bindings ++ others) = (find? name bindings).or (find? name others) := by
  induction bindings with
  | nil => simp
  | cons entry rest inductionHypothesis =>
      rw [List.cons_append, find?, find?, inductionHypothesis]
      by_cases isFirst : entry.1 = name <;> simp [isFirst]

theorem find?_filter (keep : Text → Bool) (bindings : Bindings Content) (name : Text) :
    find? name (bindings.filter fun entry => keep entry.1) =
      if keep name then find? name bindings else none := by
  induction bindings with
  | nil => simp
  | cons entry rest inductionHypothesis =>
      by_cases isFirst : entry.1 = name
      · by_cases kept : keep name = true <;>
          simp [isFirst, kept, find?, inductionHypothesis]
      · by_cases kept : keep entry.1 = true <;>
          simp [isFirst, kept, find?, inductionHypothesis]

theorem isSome_find?_iff {bindings : Bindings Content} {name : Text} :
    (bindings.find? name).isSome = true ↔ name ∈ bindings.names := by
  induction bindings with
  | nil => simp [names]
  | cons entry rest inductionHypothesis =>
      rw [names, List.map_cons, List.mem_cons, find?]
      by_cases isFirst : entry.1 = name
      · simp [isFirst]
      · rw [if_neg isFirst, inductionHypothesis]
        exact (or_iff_right (Ne.symm isFirst)).symm

theorem find?_eq_none {bindings : Bindings Content} {name : Text}
    (unbound : name ∉ bindings.names) : bindings.find? name = none := by
  rwa [← isSome_find?_iff, Option.not_isSome_iff_eq_none] at unbound

theorem find?_eq_some_iff {bindings : Bindings Content} (once : bindings.names.Nodup)
    {name : Text} {content : Content} :
    bindings.find? name = some content ↔ (name, content) ∈ bindings := by
  induction bindings with
  | nil => simp
  | cons entry rest inductionHypothesis =>
      obtain ⟨first, held⟩ := entry
      rw [names, List.map_cons, List.nodup_cons] at once
      rw [find?, List.mem_cons, Prod.mk.injEq]
      by_cases isFirst : first = name
      · subst isFirst
        have noLater : (first, content) ∉ rest := fun among =>
          once.1 (List.mem_map.mpr ⟨_, among, rfl⟩)
        rw [if_pos rfl, Option.some.injEq, or_iff_left noLater, and_iff_right rfl, eq_comm]
      · rw [if_neg isFirst, inductionHypothesis once.2]
        exact (or_iff_right fun isEntry => isFirst isEntry.1.symm).symm

theorem nodup_perm {bindings others : Bindings Content} (rearranged : others.Perm bindings) :
    others.names.Nodup ↔ bindings.names.Nodup :=
  (rearranged.map Prod.fst).nodup_iff

/-- Where the bindings stand does not matter for what is looked up. -/
theorem find?_perm {bindings others : Bindings Content} (once : bindings.names.Nodup)
    (rearranged : others.Perm bindings) (name : Text) :
    others.find? name = bindings.find? name := by
  have otherOnce : others.names.Nodup := (nodup_perm rearranged).mpr once
  apply Option.ext
  intro content
  rw [find?_eq_some_iff otherOnce, find?_eq_some_iff once, rearranged.mem_iff]

/-- Bindings are known by the order of their names and by what these are bound to. -/
theorem eq_of_find?_eq {bindings others : Bindings Content} (once : bindings.names.Nodup)
    (sameNames : others.names = bindings.names)
    (agree : ∀ name ∈ bindings.names, others.find? name = bindings.find? name) :
    others = bindings := by
  induction bindings generalizing others with
  | nil => exact List.map_eq_nil_iff.mp sameNames
  | cons entry rest inductionHypothesis =>
      obtain ⟨other, later, rfl, sameFirst, sameLater⟩ := List.map_eq_cons_iff.mp sameNames
      rw [names, List.map_cons, List.nodup_cons] at once
      rw [names, List.map_cons, List.forall_mem_cons] at agree
      have sameContent : other.2 = entry.2 := by
        have first := agree.1
        rw [find?, find?, if_pos sameFirst, if_pos rfl] at first
        exact Option.some.inj first
      have sameRest : later = rest := by
        apply inductionHypothesis once.2 sameLater
        intro name among
        have differs : entry.1 ≠ name := by
          rintro rfl
          exact once.1 among
        have here := agree.2 name among
        rwa [find?, find?, sameFirst, if_neg differs, if_neg differs] at here
      rw [sameRest, Prod.ext sameFirst sameContent]

/-! ## Binding and removing a name -/

/-- The bindings of all other names. -/
def remove (name : Text) (bindings : Bindings Content) : Bindings Content :=
  bindings.filter fun entry => entry.1 ≠ name

theorem find?_remove (bindings : Bindings Content) (removed name : Text) :
    (bindings.remove removed).find? name =
      if name = removed then none else bindings.find? name := by
  have looked := find?_filter (fun other => decide (other ≠ removed)) bindings name
  rw [remove, looked]
  by_cases isRemoved : name = removed <;> simp [isRemoved]

theorem remove_of_unbound {bindings : Bindings Content} {name : Text}
    (unbound : name ∉ bindings.names) : bindings.remove name = bindings := by
  rw [remove, List.filter_eq_self]
  intro entry among
  apply decide_eq_true
  rintro rfl
  exact unbound (List.mem_map_of_mem among)

theorem names_remove (bindings : Bindings Content) (removed : Text) :
    (bindings.remove removed).names = bindings.names.filter (· ≠ removed) := by
  rw [names, names, List.filter_map, remove]
  rfl

theorem nodup_remove {bindings : Bindings Content} (once : bindings.names.Nodup)
    (removed : Text) : (bindings.remove removed).names.Nodup := by
  rw [names_remove]
  exact once.filter _

theorem find?_insert (bindings : Bindings Content) (bound : Text) (content : Content)
    (name : Text) :
    (bindings.insert bound content).find? name =
      if bound = name then some content else bindings.find? name := by
  induction bindings with
  | nil => rfl
  | cons entry rest inductionHypothesis =>
      obtain ⟨other, held⟩ := entry
      by_cases isBound : other = bound
      · by_cases isName : bound = name <;> simp [insert, find?, isBound, isName]
      · by_cases isFirst : other = name
        · have differs : bound ≠ name := fun same => isBound (isFirst.trans same.symm)
          simp [insert, find?, isFirst, differs, differs.symm]
        · simp [insert, find?, isBound, isFirst, inductionHypothesis]

theorem names_insert (bindings : Bindings Content) (bound : Text) (content : Content) :
    (bindings.insert bound content).names =
      if bound ∈ bindings.names then bindings.names else bindings.names ++ [bound] := by
  induction bindings with
  | nil => rfl
  | cons entry rest inductionHypothesis =>
      rw [insert]
      by_cases isBound : entry.1 = bound
      · simp [names, isBound]
      · rw [if_neg isBound, names, List.map_cons, ← names, inductionHypothesis]
        by_cases later : bound ∈ names rest <;>
          simp_all [names, Ne.symm isBound]

theorem nodup_insert {bindings : Bindings Content} (once : bindings.names.Nodup) (bound : Text)
    (content : Content) : (bindings.insert bound content).names.Nodup := by
  rw [names_insert]
  split
  · exact once
  · next unbound =>
      apply once.append (List.nodup_singleton bound)
      simpa using unbound

/-! ## Bindings laid over others -/

theorem nodup_overlay {bindings : Bindings Content} (once : bindings.names.Nodup)
    (overriding : Bindings Content) : (bindings.overlay overriding).names.Nodup := by
  induction overriding generalizing bindings with
  | nil => exact once
  | cons entry rest inductionHypothesis =>
      exact inductionHypothesis (nodup_insert once entry.1 entry.2)

section

variable {overriding : Bindings Content} (overridingOnce : overriding.names.Nodup)
include overridingOnce

theorem find?_overlay (bindings : Bindings Content) (name : Text) :
    (bindings.overlay overriding).find? name =
      (overriding.find? name).or (bindings.find? name) := by
  induction overriding generalizing bindings with
  | nil => rfl
  | cons entry rest inductionHypothesis =>
      rw [names, List.map_cons, List.nodup_cons] at overridingOnce
      rw [overlay, inductionHypothesis overridingOnce.2, find?_insert, find?]
      by_cases isFirst : entry.1 = name
      · -- The name is not bound again, so the look-up comes to the binding just made.
        rw [find?_eq_none (isFirst ▸ overridingOnce.1)]
        simp [isFirst]
      · simp [isFirst]

theorem names_overlay (bindings : Bindings Content) :
    (bindings.overlay overriding).names =
      bindings.names ++ overriding.names.filter (· ∉ bindings.names) := by
  induction overriding generalizing bindings with
  | nil => simp [overlay, names]
  | cons entry rest inductionHypothesis =>
      rw [names, List.map_cons, List.nodup_cons] at overridingOnce
      rw [overlay, inductionHypothesis overridingOnce.2, names_insert, names.eq_1 (_ :: _),
        List.map_cons, ← names, List.filter_cons]
      by_cases isBound : entry.1 ∈ bindings.names
      · simp [isBound]
      · have others : ∀ name ∈ names rest,
            (name ∉ bindings.names ++ [entry.1]) ↔ name ∉ bindings.names := by
          intro name among
          have differs : name ≠ entry.1 := fun same => overridingOnce.1 (same ▸ among)
          simp [differs]
        simp only [isBound, if_false, not_false_eq_true, decide_true, if_true,
          List.append_assoc, List.singleton_append]
        rw [List.filter_congr fun name among => decide_eq_decide.mpr (others name among)]

/-- Names that are bound below keep their places, with what is bound above where there is
something; the others follow. -/
theorem overlay_eq {bindings : Bindings Content} (once : bindings.names.Nodup) :
    bindings.overlay overriding =
      (bindings.map fun entry => (entry.1, (overriding.find? entry.1).getD entry.2)) ++
        overriding.filter fun entry => entry.1 ∉ bindings.names := by
  have kept (name : Text) := find?_filter (fun other => decide (other ∉ bindings.names))
    overriding name
  have replaced (name : Text) := find?_map_named (fun other => (overriding.find? other).getD)
    bindings name
  symm
  apply eq_of_find?_eq (nodup_overlay once overriding)
  · rw [names_overlay overridingOnce, names, List.map_append, List.map_map, names, names,
      List.filter_map]
    rfl
  · intro name _
    rw [find?_append, find?_overlay overridingOnce, kept, replaced]
    by_cases isBound : name ∈ bindings.names
    · obtain ⟨content, bound⟩ := Option.isSome_iff_exists.mp (isSome_find?_iff.mpr isBound)
      rw [bound]
      cases overriding.find? name <;> rfl
    · rw [find?_eq_none isBound]
      simp [isBound]

/-- What is hidden does not matter. -/
theorem overlay_congr {bindings others : Bindings Content} (once : bindings.names.Nodup)
    (sameNames : others.names = bindings.names)
    (agree : ∀ name, name ∉ overriding.names → others.find? name = bindings.find? name) :
    others.overlay overriding = bindings.overlay overriding := by
  apply eq_of_find?_eq (nodup_overlay once overriding)
  · rw [names_overlay overridingOnce, names_overlay overridingOnce, sameNames]
  · intro name _
    rw [find?_overlay overridingOnce, find?_overlay overridingOnce]
    by_cases hidden : name ∈ overriding.names
    · obtain ⟨content, bound⟩ := Option.isSome_iff_exists.mp (isSome_find?_iff.mpr hidden)
      rw [bound, Option.some_or, Option.some_or]
    · rw [agree name hidden]

theorem overlay_remove {bindings : Bindings Content} (once : bindings.names.Nodup) (name : Text) :
    (bindings.remove name).overlay (overriding.remove name) =
      (bindings.overlay overriding).remove name := by
  have removedOnce := nodup_remove overridingOnce name
  apply eq_of_find?_eq (nodup_remove (nodup_overlay once overriding) name)
  · rw [names_overlay removedOnce, names_remove, names_remove, names_remove,
      names_overlay overridingOnce, List.filter_append, List.filter_filter, List.filter_filter]
    congr 1
    apply List.filter_congr
    intro other _
    by_cases isRemoved : other = name <;> simp [isRemoved]
  · intro other _
    rw [find?_overlay removedOnce, find?_remove, find?_remove, find?_remove,
      find?_overlay overridingOnce]
    by_cases isRemoved : other = name <;> simp [isRemoved]

theorem find?_overlay_perm {bindings others replacing : Bindings Content}
    (once : bindings.names.Nodup) (rearranged : others.Perm bindings)
    (replaced : replacing.Perm overriding) (name : Text) :
    (others.overlay replacing).find? name = (bindings.overlay overriding).find? name := by
  have replacingOnce : replacing.names.Nodup := (nodup_perm replaced).mpr overridingOnce
  rw [find?_overlay replacingOnce, find?_overlay overridingOnce, find?_perm once rearranged,
    find?_perm overridingOnce replaced]

end

end UriTemplate.Bindings
