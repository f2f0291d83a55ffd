import UriTemplate.Log.Name

/-!
Which loggers stand in the package.

A logger stands in the package only if its name is that of the package logger or
goes on behind it with a dot.  Such a name is enough as well if no two dots stand
side by side in it, whatever loggers have been obtained: then nothing is lost when
the search up the name passes over the character before a dot, which is no dot.
-/

namespace UriTemplate.Log

/-- The name is that of the package logger, or starts with it and a dot. -/
def IsPackageName (name : Text) : Prop :=
  name = packageName ∨ packageName ++ [.scalar '.'] <+: name

/-- No two dots stand side by side. -/
def IsSpaced (name : Text) : Prop :=
  ¬[CodePoint.scalar '.', .scalar '.'] <:+: name

instance (name : Text) : Decidable (IsPackageName name) :=
  inferInstanceAs (Decidable (_ ∨ _))

instance (name : Text) : Decidable (IsSpaced name) :=
  inferInstanceAs (Decidable (¬_))

namespace IsSpaced

variable {point : CodePoint} {rest : Text}

theorem tail (spaced : IsSpaced (point :: rest)) : IsSpaced rest :=
  fun dots => spaced (List.infix_cons dots)

theorem ne_dot (spaced : IsSpaced (.scalar '.' :: point :: rest)) : point ≠ .scalar '.' := by
  rintro rfl
  exact spaced ⟨[], rest, rfl⟩

theorem reverse (spaced : IsSpaced rest) : IsSpaced rest.reverse :=
  fun dots => spaced (List.reverse_infix.mp dots)

end IsSpaced

variable {obtained : List Text}

theorem isBelowPackage_cons_of_ne {point : CodePoint} (undotted : point ≠ .scalar '.')
    (rest : Text) : isBelowPackage obtained (point :: rest) = isBelowPackage obtained rest := by
  cases rest with
  | nil => rfl
  | cons before others => rw [isBelowPackage, if_pos undotted]

/-- The search is on the name backwards, so what it finds at a dot is the start of the name. -/
theorem prefix_of_isBelowPackage {backwards : Text}
    (below : isBelowPackage obtained backwards = true) :
    packageName ++ [.scalar '.'] <+: backwards.reverse := by
  fun_induction isBelowPackage obtained backwards with
  | case1 => contradiction
  | case2 => contradiction
  | case3 last before rest undotted inductionHypothesis =>
      rw [List.reverse_cons]
      exact (inductionHypothesis below).trans (List.prefix_append _ _)
  | case4 last before rest dotted above found =>
      have whole : (last :: before :: rest).reverse = packageName ++ [.scalar '.'] := by
        rw [List.reverse_cons, Decidable.not_not.mp dotted,
          show (before :: rest).reverse = packageName from found]
      exact whole ▸ List.prefix_rfl
  | case5 last before rest dotted above unfound isObtained inductionHypothesis =>
      rw [List.reverse_cons]
      exact (inductionHypothesis below).trans (List.prefix_append _ _)
  | case6 last before rest dotted above unfound unobtained inductionHypothesis =>
      rw [List.reverse_cons, List.reverse_cons, List.append_assoc]
      exact (inductionHypothesis below).trans (List.prefix_append _ _)

theorem isBelowPackage_of_spaced {part : Text}
    (spaced : IsSpaced (part ++ .scalar '.' :: packageName.reverse)) :
    isBelowPackage obtained (part ++ .scalar '.' :: packageName.reverse) = true := by
  -- The induction is on what comes before the dot behind the name of the package is met.
  induction part with
  | nil =>
      obtain ⟨last, others, split⟩ : ∃ last others, packageName.reverse = last :: others :=
        List.exists_cons_of_ne_nil (by decide +kernel)
      have above : (last :: others).reverse = packageName := by rw [← split, List.reverse_reverse]
      rw [List.nil_append, split, isBelowPackage, if_neg (not_not_intro rfl), if_pos above]
  | cons point rest inductionHypothesis =>
      have below := inductionHypothesis spaced.tail
      obtain ⟨before, others, split⟩ : ∃ before others,
          rest ++ .scalar '.' :: packageName.reverse = before :: others :=
        List.exists_cons_of_ne_nil (by simp)
      rw [List.cons_append, split] at spaced ⊢
      rw [split] at below
      by_cases dotted : point = .scalar '.'
      · subst dotted
        rw [isBelowPackage_cons_of_ne spaced.ne_dot] at below
        rw [isBelowPackage, if_neg (not_not_intro rfl)]
        dsimp only
        rw [isBelowPackage_cons_of_ne spaced.ne_dot, below, ite_self, ite_self]
      · rw [isBelowPackage_cons_of_ne dotted]
        exact below

theorem isPackageName_of_inPackage {name : Text} (stands : inPackage obtained name = true) :
    IsPackageName name := by
  obtain same | below := (Bool.or_eq_true _ _).mp stands
  · exact Or.inl (of_decide_eq_true same)
  · have start := prefix_of_isBelowPackage below
    rw [List.reverse_reverse] at start
    exact Or.inr start

theorem inPackage_of_isPackageName {name : Text} (spaced : IsSpaced name)
    (named : IsPackageName name) : inPackage obtained name = true := by
  obtain rfl | ⟨part, rfl⟩ := named
  · rw [inPackage, decide_eq_true rfl, Bool.true_or]
  · have backwards : (packageName ++ [CodePoint.scalar '.'] ++ part).reverse =
        part.reverse ++ .scalar '.' :: packageName.reverse := by simp
    have reversed := spaced.reverse
    rw [backwards] at reversed
    rw [inPackage, backwards, isBelowPackage_of_spaced reversed, Bool.or_true]

/-- What has been obtained does not matter to a name without two dots side by side. -/
theorem inPackage_iff {name : Text} (spaced : IsSpaced name) :
    inPackage obtained name = true ↔ IsPackageName name :=
  ⟨isPackageName_of_inPackage, inPackage_of_isPackageName spaced⟩

end UriTemplate.Log
