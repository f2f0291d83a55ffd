import UriTemplate.Proofs.Expansion.Faults
import UriTemplate.Proofs.Expansion.Undefined

/-!
Expansion with bindings laid over others.

What is bound above hides what is bound below, null included.  Since a value depends
on its datum alone, the order of bindings cannot be seen in an expansion that
succeeds; it decides only which of several defects is reported.  All of this is
`Template.expand_overlay`.
-/

namespace UriTemplate.Template

variable (template : Template) {bindings overriding others replacing : Bindings Datum}

theorem expand_of_find?_eq (once : (bindings.overlay overriding).names.Nodup)
    (otherOnce : (others.overlay replacing).names.Nodup)
    (agree : ∀ name, (others.overlay replacing).find? name =
      (bindings.overlay overriding).find? name)
    {text : Text} (expanded : template.expand bindings overriding = .ok text) :
    template.expand others replacing = .ok text := by
  obtain ⟨values, coerced, _⟩ := Outcome.bind_eq_ok_iff.mp expanded
  rw [← expanded]
  apply expand_of_matchesDefined template once otherOnce coerced
  intro name
  exact Or.inl (agree name)

/-- Rearranging the bindings on either side does not change an expansion that succeeds. -/
theorem expand_perm (once : bindings.names.Nodup) (overridingOnce : overriding.names.Nodup)
    (rearranged : others.Perm bindings) (replaced : replacing.Perm overriding) (text : Text) :
    template.expand others replacing = .ok text ↔
      template.expand bindings overriding = .ok text := by
  have mergedOnce := Bindings.nodup_overlay once overriding
  have otherMergedOnce :=
    Bindings.nodup_overlay ((Bindings.nodup_perm rearranged).mpr once) replacing
  have agree := Bindings.find?_overlay_perm overridingOnce once rearranged replaced
  constructor
  · exact expand_of_find?_eq template otherMergedOnce mergedOnce fun name => (agree name).symm
  · exact expand_of_find?_eq template mergedOnce otherMergedOnce agree

theorem expand_remove (once : bindings.names.Nodup) (overridingOnce : overriding.names.Nodup)
    {name : Text} (bound : overriding.find? name = some .null) :
    template.expand (bindings.remove name) (overriding.remove name) =
      template.expand bindings overriding := by
  have boundMerged : (bindings.overlay overriding).find? name = some .null := by
    rw [Bindings.find?_overlay overridingOnce, bound, Option.some_or]
  rw [expand, expand, Bindings.overlay_remove overridingOnce once,
    coerce_remove (Bindings.nodup_overlay once overriding) boundMerged]

/-- What is bound below a name that is bound above is never looked at, and null above leaves the
name unbound.  Rearranging the bindings changes neither an expansion that succeeds nor whether it
does.  The defect that is reported is the first one in the order of the bindings below, with those
above in their places, and then of the new ones above. -/
theorem expand_overlay (once : bindings.names.Nodup) (overridingOnce : overriding.names.Nodup) :
    (∀ others : Bindings Datum, others.names = bindings.names →
      (∀ name, name ∉ overriding.names → others.find? name = bindings.find? name) →
      template.expand others overriding = template.expand bindings overriding) ∧
    (∀ name, overriding.find? name = some .null →
      template.expand (bindings.remove name) (overriding.remove name) =
        template.expand bindings overriding) ∧
    (∀ others replacing : Bindings Datum, others.Perm bindings → replacing.Perm overriding →
      (∀ text, template.expand others replacing = .ok text ↔
        template.expand bindings overriding = .ok text) ∧
      ((∃ error, template.expand others replacing = .error error) ↔
        ∃ error, template.expand bindings overriding = .error error)) ∧
    ∀ error, template.expand bindings overriding = .error error ↔
      Outcome.FirstRefused (fun entry cause => entry.2.toValue = .error cause)
        ((bindings.map fun entry => (entry.1, (overriding.find? entry.1).getD entry.2)) ++
          overriding.filter fun entry => entry.1 ∉ bindings.names) error := by
  refine ⟨?_, ?_, ?_, ?_⟩
  · intro others sameNames agree
    rw [expand, expand, Bindings.overlay_congr overridingOnce once sameNames agree]
  · intro name bound
    exact expand_remove template once overridingOnce bound
  · intro others replacing rearranged replaced
    have same := expand_perm template once overridingOnce rearranged replaced
    refine ⟨same, ?_⟩
    simp only [Outcome.exists_eq_error_iff, same]
  · intro error
    rw [expand_eq_error_iff, coerce_eq_error_iff, Bindings.overlay_eq overridingOnce once]

/-- A truth value is hidden, and null hides a text.  Of two defects the first is reported. -/
theorem expand_overlay_hidden :
    let bindings : Bindings Datum := [("x", .truth true), ("n", .text "b")]
    let overriding : Bindings Datum := [("n", .null), ("x", .integer 7)]
    let defective : Bindings Datum := [("x", .text "a"), ("y", .octets [])]
    let defects : Bindings Datum := [("z", .truth true), ("x", .set [])]
    ∃ template, ofText "{x}{n}" = .ok template ∧
      template.expand bindings overriding = .ok "7" ∧
      template.expand [("x", .octets []), ("n", .set [])] overriding = .ok "7" ∧
      template.expand (bindings.remove "n") (overriding.remove "n") = .ok "7" ∧
      template.expand bindings.reverse overriding.reverse = .ok "7" ∧
      template.expand defective defects = .error (.unsupported "set") ∧
      (∃ error, template.expand defective.reverse defects = .error error) ∧
      template.expand defective.reverse defects = .error (.unsupported "bytes") := by
  intro bindings overriding defective defects
  have reads : Component.readAll 0 "{x}{n}" = .ok
      [.expression ⟨.simple, [⟨"x", .plain⟩], by simp⟩,
        .expression ⟨.simple, [⟨"n", .plain⟩], by simp⟩] := by
    decide +kernel
  let template : Template := ⟨_, _, reads⟩
  have written : template.expand bindings overriding = .ok "7" := by rfl
  have once : bindings.names.Nodup := by decide +kernel
  have overridingOnce : overriding.names.Nodup := by decide +kernel
  have covered : bindings.names ⊆ overriding.names := by decide +kernel
  have defectiveOnce : defective.names.Nodup := by decide +kernel
  have defectsOnce : defects.names.Nodup := by decide +kernel
  obtain ⟨hides, unbinds, rearranges, _⟩ := expand_overlay template once overridingOnce
  obtain ⟨_, _, rearrangesDefects, reports⟩ :=
    expand_overlay template defectiveOnce defectsOnce
  have refused : template.expand defective defects = .error (.unsupported "set") :=
    (reports _).mpr ⟨[], ("x", .set []), _, by rfl, by simp, by rfl⟩
  refine ⟨template, ofText_raw template, written, ?_, ?_, ?_, refused, ?_, by rfl⟩
  · refine (hides [("x", .octets []), ("n", .set [])] (by rfl) ?_).trans written
    intro name notHidden
    have unbound : name ∉ bindings.names := fun bound => notHidden (covered bound)
    rw [Bindings.find?_eq_none unbound]
    exact Bindings.find?_eq_none unbound
  · exact (unbinds "n" (by rfl)).trans written
  · exact ((rearranges _ _ bindings.reverse_perm overriding.reverse_perm).1 _).mpr written
  · exact (rearrangesDefects _ _ defective.reverse_perm (.refl defects)).2.mpr ⟨_, refused⟩

end UriTemplate.Template
