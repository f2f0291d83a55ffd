import UriTemplate.Text.Basic

/-!
Texts cut at marks and joined with them.

A cut finds the first mark and nothing else: what stands before it is free of the
mark.  Splitting at a mark and joining with it are inverse to one another on lists
of parts that are free of it.
-/

namespace UriTemplate.Text

variable {mark : CodePoint}

theorem cut?_eq_none_iff {text : Text} : cut? mark text = none ↔ mark ∉ text := by
  induction text with
  | nil => simp [cut?]
  | cons point rest inductionHypothesis =>
      by_cases found : point = mark
      · simp [cut?, found]
      · simp [cut?, found, inductionHypothesis, Ne.symm found]

theorem cut?_append_cons {before : Text} (free : mark ∉ before) (after : Text) :
    cut? mark (before ++ mark :: after) = some (before, after) := by
  induction before with
  | nil => simp [cut?]
  | cons point rest inductionHypothesis =>
      rw [List.mem_cons, not_or] at free
      simp [cut?, Ne.symm free.1, inductionHypothesis free.2]

theorem cut?_eq_some_iff {text before after : Text} :
    cut? mark text = some (before, after) ↔
      text = before ++ mark :: after ∧ mark ∉ before := by
  constructor
  · intro found
    induction text generalizing before with
    | nil => simp [cut?] at found
    | cons point rest inductionHypothesis =>
        by_cases isMark : point = mark
        · simp only [cut?, isMark, if_true, Option.some.injEq, Prod.mk.injEq] at found
          obtain ⟨rfl, rfl⟩ := found
          exact ⟨by simp [isMark], by simp⟩
        · simp only [cut?, isMark, if_false, Option.map_eq_some_iff, Prod.mk.injEq] at found
          obtain ⟨⟨front, back⟩, cutRest, rfl, rfl⟩ := found
          obtain ⟨restShape, free⟩ := inductionHypothesis cutRest
          exact ⟨by simp [restShape], by simp [free, Ne.symm isMark]⟩
  · rintro ⟨rfl, free⟩
    exact cut?_append_cons free after

theorem mem_intercalate {separator : Text} {texts : List Text} {point : CodePoint}
    (membership : point ∈ separator.intercalate texts) :
    point ∈ separator ∨ ∃ text ∈ texts, point ∈ text := by
  induction texts with
  | nil => cases membership
  | cons text rest inductionHypothesis =>
      cases rest with
      | nil => exact Or.inr ⟨text, by simp, by simpa using membership⟩
      | cons next others =>
          rw [List.intercalate_cons_cons, List.mem_append, List.mem_append] at membership
          rcases membership with (inText | inSeparator) | inRest
          · exact Or.inr ⟨text, by simp, inText⟩
          · exact Or.inl inSeparator
          · rcases inductionHypothesis inRest with inSeparator | ⟨other, among, inOther⟩
            · exact Or.inl inSeparator
            · exact Or.inr ⟨other, List.mem_cons_of_mem text among, inOther⟩

theorem intercalate_cons (separator text : Text) (rest : List Text) :
    separator.intercalate (text :: rest) = text ++ rest.flatMap (separator ++ ·) := by
  induction rest generalizing text with
  | nil => simp
  | cons next others inductionHypothesis =>
      rw [List.intercalate_cons_cons, inductionHypothesis, List.flatMap_cons]
      simp only [List.append_assoc]

/-- A part among others, with what stands before it and what stands after it. -/
theorem intercalate_append_cons (separator : Text) (earlier : List Text) (part : Text)
    (later : List Text) :
    separator.intercalate (earlier ++ part :: later) =
      earlier.flatMap (· ++ separator) ++ (part ++ later.flatMap (separator ++ ·)) := by
  induction earlier with
  | nil => exact intercalate_cons separator part later
  | cons first rest inductionHypothesis =>
      cases rest with
      | nil =>
          rw [List.nil_append] at inductionHypothesis
          simp [inductionHypothesis]
      | cons next others =>
          rw [List.cons_append] at inductionHypothesis ⊢
          simp only [List.cons_append, List.intercalate_cons_cons, List.flatMap_cons,
            List.append_assoc] at inductionHypothesis ⊢
          rw [inductionHypothesis]

/-- Joined texts with the separator in front of each of them and not between them. -/
theorem append_intercalate {texts : List Text} (nonempty : texts ≠ []) (separator : Text) :
    separator ++ separator.intercalate texts = texts.flatMap (separator ++ ·) := by
  cases texts with
  | nil => contradiction
  | cons text rest => rw [intercalate_cons, List.flatMap_cons, List.append_assoc]

theorem intercalate_append {texts others : List Text} (nonempty : texts ≠ [])
    (othersNonempty : others ≠ []) (separator : Text) :
    separator.intercalate (texts ++ others) =
      separator.intercalate texts ++ (separator ++ separator.intercalate others) := by
  cases texts with
  | nil => contradiction
  | cons text rest =>
      rw [List.cons_append, intercalate_cons, intercalate_cons, append_intercalate othersNonempty,
        List.flatMap_append, List.append_assoc]

theorem flatMap_append_intercalate {separator : Text} {groups : List (List Text)}
    (nonempty : ∀ group ∈ groups, group ≠ []) :
    (groups.map (separator.intercalate)).flatMap (separator ++ ·) =
      groups.flatten.flatMap (separator ++ ·) := by
  induction groups with
  | nil => rfl
  | cons group others inductionHypothesis =>
      rw [List.forall_mem_cons] at nonempty
      rw [List.map_cons, List.flatMap_cons, inductionHypothesis nonempty.2,
        append_intercalate nonempty.1, List.flatten_cons, List.flatMap_append]

/-- A join of joins is one join, if there is no empty one among them. -/
theorem intercalate_map_intercalate {separator : Text} {groups : List (List Text)}
    (nonempty : ∀ group ∈ groups, group ≠ []) :
    separator.intercalate (groups.map (separator.intercalate)) =
      separator.intercalate groups.flatten := by
  cases groups with
  | nil => rfl
  | cons group others =>
      rw [List.forall_mem_cons] at nonempty
      cases group with
      | nil => exact absurd rfl nonempty.1
      | cons text rest =>
          rw [List.map_cons, intercalate_cons, flatMap_append_intercalate nonempty.2,
            List.flatten_cons, List.cons_append, intercalate_cons, intercalate_cons,
            List.flatMap_append, List.append_assoc]

section

variable {Item : Type} (separator : Text) (fragment extra : Item → Text)

theorem length_flatMap_append (items : List Item) :
    (items.flatMap fun item => separator ++ (fragment item ++ extra item)).length =
      (items.flatMap fun item => separator ++ fragment item).length +
        (items.flatMap extra).length := by
  induction items with
  | nil => rfl
  | cons item rest inductionHypothesis =>
      simp only [List.flatMap_cons, List.length_append, inductionHypothesis]
      omega

/-- Joined texts grow by what is added to each of them. -/
theorem length_intercalate_map_append (items : List Item) :
    (separator.intercalate (items.map fun item => fragment item ++ extra item)).length =
      (separator.intercalate (items.map fragment)).length + (items.flatMap extra).length := by
  cases items with
  | nil => rfl
  | cons item rest =>
      simp only [List.map_cons, intercalate_cons, List.flatMap_map, List.length_append,
        List.flatMap_cons, length_flatMap_append]
      omega

/-- They stay the same exactly if nothing is added to any of them. -/
theorem intercalate_map_append_eq_iff (items : List Item) :
    separator.intercalate (items.map fun item => fragment item ++ extra item) =
        separator.intercalate (items.map fragment) ↔
      ∀ item ∈ items, extra item = [] := by
  constructor
  · intro same
    have grown := length_intercalate_map_append separator fragment extra items
    rw [same, Nat.left_eq_add, List.length_eq_zero_iff] at grown
    exact List.flatMap_eq_nil_iff.mp grown
  · intro none
    congr 1
    apply List.map_congr_left
    intro item among
    rw [none item among, List.append_nil]

end

end UriTemplate.Text
