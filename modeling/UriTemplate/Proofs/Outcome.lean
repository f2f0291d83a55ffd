import Mathlib.Data.List.Forall2

/-!
Outcomes of readings that may fail.

A reading that is made of several readings succeeds if each of them does, and
fails as the first of them that fails.
-/

namespace UriTemplate.Outcome

variable {Error Other Content Result : Type}

@[simp]
theorem ok_bind (content : Content) (next : Content → Except Error Result) :
    (Except.ok content >>= next) = next content := rfl

@[simp]
theorem error_bind (error : Error) (next : Content → Except Error Result) :
    (Except.error error >>= next) = Except.error error := rfl

@[simp]
theorem pure_eq_ok (content : Content) :
    (pure content : Except Error Content) = Except.ok content := rfl

@[simp]
theorem mapError_ok (change : Error → Other) (content : Content) :
    (Except.ok content : Except Error Content).mapError change = Except.ok content := rfl

@[simp]
theorem mapError_error (change : Error → Other) (error : Error) :
    (Except.error error : Except Error Content).mapError change =
      Except.error (change error) := rfl

theorem isOk_iff {outcome : Except Error Content} :
    outcome.isOk = true ↔ ∃ content, outcome = Except.ok content := by
  cases outcome <;> simp [Except.isOk, Except.toBool]

theorem exists_eq_error_iff {outcome : Except Error Content} :
    (∃ error, outcome = Except.error error) ↔ ¬∃ content, outcome = Except.ok content := by
  cases outcome <;> simp

/-- A step that can fail in one way only. -/
theorem eq_error_iff_of_only {outcome : Except Error Content} {cause : Error}
    (only : ∀ error, outcome = .error error → error = cause) {error : Error} :
    outcome = .error error ↔ (∀ content, outcome ≠ .ok content) ∧ error = cause := by
  cases outcome with
  | ok content => simp
  | error other =>
      cases only other rfl
      simp [eq_comm]

theorem bind_eq_ok_iff
    {outcome : Except Error Content} {next : Content → Except Error Result}
    {result : Result} :
    (outcome >>= next) = Except.ok result ↔
      ∃ content, outcome = Except.ok content ∧ next content = Except.ok result := by
  cases outcome <;> simp

theorem bind_eq_error_iff
    {outcome : Except Error Content} {next : Content → Except Error Result}
    {error : Error} :
    (outcome >>= next) = Except.error error ↔
      outcome = Except.error error ∨
        ∃ content, outcome = Except.ok content ∧ next content = Except.error error := by
  cases outcome <;> simp

/-- Two steps, the second of which may depend on what the first one gives. -/
theorem pair_eq_ok_iff
    {outcome : Except Error Content} {next : Content → Except Error Result}
    {pair : Content × Result} :
    (do let content ← outcome; let result ← next content; return (content, result)) =
        Except.ok pair ↔
      outcome = Except.ok pair.1 ∧ next pair.1 = Except.ok pair.2 := by
  simp only [bind_eq_ok_iff, pure_eq_ok, Except.ok.injEq]
  constructor
  · rintro ⟨content, first, result, second, rfl⟩
    exact ⟨first, second⟩
  · rintro ⟨first, second⟩
    exact ⟨pair.1, first, pair.2, second, rfl⟩

theorem pair_eq_error_iff
    {outcome : Except Error Content} {next : Content → Except Error Result} {error : Error} :
    (do let content ← outcome; let result ← next content; return (content, result)) =
        Except.error error ↔
      outcome = Except.error error ∨
        ∃ content, outcome = Except.ok content ∧ next content = Except.error error := by
  simp [bind_eq_error_iff]

theorem mapError_eq_ok_iff {change : Error → Other} {outcome : Except Error Content}
    {content : Content} : outcome.mapError change = .ok content ↔ outcome = .ok content := by
  cases outcome <;> simp

theorem mapError_eq_error_iff {change : Error → Other} {outcome : Except Error Content}
    {other : Other} :
    outcome.mapError change = .error other ↔
      ∃ error, outcome = .error error ∧ change error = other := by
  cases outcome <;> simp

theorem mapError_bind (change : Error → Other) (outcome : Except Error Content)
    (next : Content → Except Error Result) :
    (outcome >>= next).mapError change =
      outcome.mapError change >>= fun content => (next content).mapError change := by
  cases outcome <;> rfl

/-- Steps that all succeed. -/
theorem mapM_eq_ok {Item : Type} {step : Item → Except Error Content}
    {result : Item → Content} {items : List Item}
    (each : ∀ item ∈ items, step item = .ok (result item)) :
    items.mapM step = .ok (items.map result) := by
  induction items with
  | nil => rfl
  | cons item rest inductionHypothesis =>
      rw [List.mapM_cons, each item List.mem_cons_self,
        inductionHypothesis fun other among => each other (List.mem_cons_of_mem item among)]
      rfl

theorem mapM_eq_ok_iff {Item : Type} {step : Item → Except Error Content} {items : List Item}
    {contents : List Content} :
    items.mapM step = .ok contents ↔
      List.Forall₂ (fun item content => step item = .ok content) items contents := by
  induction items generalizing contents with
  | nil => simp [eq_comm]
  | cons item rest inductionHypothesis =>
      simp only [List.mapM_cons, bind_eq_ok_iff, List.forall₂_cons_left_iff, inductionHypothesis,
        pure_eq_ok, Except.ok.injEq]
      constructor
      · rintro ⟨content, here, others, later, rfl⟩
        exact ⟨content, others, here, later, rfl⟩
      · rintro ⟨content, others, here, later, rfl⟩
        exact ⟨content, here, others, later, rfl⟩

theorem exists_mapM_eq_ok_iff {Item : Type} {step : Item → Except Error Content}
    {holds : Content → Prop} {items : List Item} :
    (∃ contents, items.mapM step = .ok contents ∧ ∀ content ∈ contents, holds content) ↔
      ∀ item ∈ items, ∃ content, step item = .ok content ∧ holds content := by
  induction items with
  | nil => simp
  | cons item rest inductionHypothesis =>
      rw [List.forall_mem_cons, ← inductionHypothesis]
      constructor
      · rintro ⟨contents, succeeds, all⟩
        rw [List.mapM_cons, bind_eq_ok_iff] at succeeds
        obtain ⟨content, first, succeeds⟩ := succeeds
        obtain ⟨others, later, combined⟩ := bind_eq_ok_iff.mp succeeds
        cases combined
        rw [List.forall_mem_cons] at all
        exact ⟨⟨content, first, all.1⟩, others, later, all.2⟩
      · rintro ⟨⟨content, first, holdsFirst⟩, others, later, all⟩
        refine ⟨content :: others, ?_, List.forall_mem_cons.mpr ⟨holdsFirst, all⟩⟩
        rw [List.mapM_cons, first, later]
        rfl

theorem mapError_mapM {Item : Type} (change : Error → Other)
    (step : Item → Except Error Content) (items : List Item) :
    (items.mapM step).mapError change =
      items.mapM fun item => (step item).mapError change := by
  induction items with
  | nil => rfl
  | cons item rest inductionHypothesis =>
      rw [List.mapM_cons, List.mapM_cons, ← inductionHypothesis]
      cases step item with
      | error error => rfl
      | ok content => cases rest.mapM step <;> rfl

theorem mapError_forM {Item : Type} (change : Error → Other)
    (check : Item → Except Error Unit) (items : List Item) :
    (items.forM check).mapError change =
      items.forM fun item => (check item).mapError change := by
  induction items with
  | nil => rfl
  | cons item rest inductionHypothesis =>
      rw [List.forM, List.forM, ← inductionHypothesis, mapError_bind]

/-- Steps that check something and then cannot fail. -/
theorem mapM_check {Item : Type} (check : Item → Except Error Unit) (result : Item → Content)
    (items : List Item) :
    (items.mapM fun item => do check item; return result item) =
      (do items.forM check; return items.map result) := by
  induction items with
  | nil => rfl
  | cons item rest inductionHypothesis =>
      rw [List.mapM_cons, inductionHypothesis, List.forM]
      cases check item with
      | error error => rfl
      | ok checked => cases rest.forM check <;> rfl

/-! ## The first refusal -/

/-- Which member of a list is refused first, and why: none of those before it is refused. -/
def FirstRefused {Item : Type} (refuses : Item → Error → Prop) (items : List Item)
    (error : Error) : Prop :=
  ∃ earlier item later, items = earlier ++ item :: later ∧
    (∀ other ∈ earlier, ∀ cause, ¬refuses other cause) ∧ refuses item error

section

variable {Item : Type} {refuses : Item → Error → Prop} {item : Item} {items : List Item}
  {error : Error}

@[simp]
theorem not_firstRefused_nil : ¬FirstRefused refuses [] error := by
  simp [FirstRefused]

theorem firstRefused_cons_iff :
    FirstRefused refuses (item :: items) error ↔
      refuses item error ∨
        (∀ cause, ¬refuses item cause) ∧ FirstRefused refuses items error := by
  constructor
  · rintro ⟨earlier, found, later, split, good, refused⟩
    cases earlier with
    | nil =>
        cases split
        exact Or.inl refused
    | cons other rest =>
        cases split
        rw [List.forall_mem_cons] at good
        exact Or.inr ⟨good.1, rest, found, later, rfl, good.2, refused⟩
  · rintro (refused | ⟨good, earlier, found, later, rfl, others, refused⟩)
    · exact ⟨[], item, items, rfl, by simp, refused⟩
    · exact ⟨item :: earlier, found, later, rfl, List.forall_mem_cons.mpr ⟨good, others⟩, refused⟩

/-- There is a first refusal as soon as there is a refusal. -/
theorem exists_firstRefused_iff :
    (∃ error, FirstRefused refuses items error) ↔ ∃ item ∈ items, ∃ error, refuses item error := by
  constructor
  · rintro ⟨error, earlier, item, later, rfl, _, refused⟩
    exact ⟨item, by simp, error, refused⟩
  · rintro ⟨item, among, error, refused⟩
    induction items with
    | nil => contradiction
    | cons first rest inductionHypothesis =>
        by_cases good : ∀ cause, ¬refuses first cause
        · obtain rfl | later := List.mem_cons.mp among
          · exact absurd refused (good error)
          · obtain ⟨cause, found⟩ := inductionHypothesis later
            exact ⟨cause, firstRefused_cons_iff.mpr (Or.inr ⟨good, found⟩)⟩
        · obtain ⟨cause, here⟩ := Classical.not_forall_not.mp good
          exact ⟨cause, firstRefused_cons_iff.mpr (Or.inl here)⟩

theorem firstRefused_append_iff {others : List Item} :
    FirstRefused refuses (items ++ others) error ↔
      FirstRefused refuses items error ∨
        (∀ item ∈ items, ∀ cause, ¬refuses item cause) ∧ FirstRefused refuses others error := by
  induction items with
  | nil => simp
  | cons item rest inductionHypothesis =>
      rw [List.cons_append, firstRefused_cons_iff, firstRefused_cons_iff, inductionHypothesis,
        List.forall_mem_cons, and_or_left, or_assoc, and_assoc]

theorem firstRefused_map_iff {Source : Type} {change : Source → Item} {sources : List Source} :
    FirstRefused refuses (sources.map change) error ↔
      FirstRefused (fun source cause => refuses (change source) cause) sources error := by
  induction sources with
  | nil => simp
  | cons source rest inductionHypothesis =>
      rw [List.map_cons, firstRefused_cons_iff, firstRefused_cons_iff, inductionHypothesis]

/-- Of members that are gone through in parts, the first part that is refused has the first
refusal. -/
theorem firstRefused_flatMap_iff {Whole : Type} {parts : Whole → List Item}
    {wholes : List Whole} :
    FirstRefused refuses (wholes.flatMap parts) error ↔
      FirstRefused (fun whole cause => FirstRefused refuses (parts whole) cause) wholes error := by
  induction wholes with
  | nil => simp
  | cons whole rest inductionHypothesis =>
      have silent : (∀ cause, ¬FirstRefused refuses (parts whole) cause) ↔
          ∀ item ∈ parts whole, ∀ cause, ¬refuses item cause := by
        rw [← not_exists, exists_firstRefused_iff]
        simp
      rw [List.flatMap_cons, firstRefused_append_iff, firstRefused_cons_iff, inductionHypothesis,
        silent]

/-- Steps fail as the first of them that fails. -/
theorem mapM_eq_error_iff {step : Item → Except Error Content}
    (fails : ∀ item cause, step item = .error cause ↔ refuses item cause) :
    items.mapM step = .error error ↔ FirstRefused refuses items error := by
  induction items with
  | nil => simp
  | cons item rest inductionHypothesis =>
      rw [List.mapM_cons, bind_eq_error_iff, firstRefused_cons_iff, ← inductionHypothesis]
      simp only [bind_eq_error_iff, ← fails]
      cases step item <;> simp

/-- Checks fail as the first of them that fails. -/
theorem forM_eq_error_iff {check : Item → Except Error Unit}
    (fails : ∀ item cause, check item = .error cause ↔ refuses item cause) :
    items.forM check = .error error ↔ FirstRefused refuses items error := by
  induction items with
  | nil => simp
  | cons item rest inductionHypothesis =>
      rw [List.forM, bind_eq_error_iff, firstRefused_cons_iff, ← inductionHypothesis]
      simp only [← fails]
      cases check item <;> simp

end

/-! ## The first refusal that depends on what comes before -/

/-- Which member of a list is refused first, and why, if that depends on the members before it. -/
def FirstRefusedAfter {Item : Type} (refuses : List Item → Item → Error → Prop)
    (before items : List Item) (error : Error) : Prop :=
  ∃ earlier item later, items = earlier ++ item :: later ∧
    (∀ front other back, earlier = front ++ other :: back →
      ∀ cause, ¬refuses (before ++ front) other cause) ∧
    refuses (before ++ earlier) item error

section

variable {Item : Type} {refuses : List Item → Item → Error → Prop} {item : Item}
  {before items : List Item} {error : Error}

@[simp]
theorem not_firstRefusedAfter_nil : ¬FirstRefusedAfter refuses before [] error := by
  simp [FirstRefusedAfter]

theorem firstRefusedAfter_cons_iff :
    FirstRefusedAfter refuses before (item :: items) error ↔
      refuses before item error ∨
        (∀ cause, ¬refuses before item cause) ∧
          FirstRefusedAfter refuses (before ++ [item]) items error := by
  constructor
  · rintro ⟨earlier, found, later, split, good, refused⟩
    cases earlier with
    | nil =>
        cases split
        rw [List.append_nil] at refused
        exact Or.inl refused
    | cons other rest =>
        cases split
        have first := good [] item rest rfl
        rw [List.append_nil] at first
        rw [List.append_cons] at refused
        refine Or.inr ⟨first, rest, found, later, rfl, ?_, refused⟩
        rintro front other back rfl
        rw [← List.append_cons]
        exact good (item :: front) other back rfl
  · rintro (refused | ⟨first, earlier, found, later, rfl, others, refused⟩)
    · refine ⟨[], item, items, rfl, by simp, ?_⟩
      rwa [List.append_nil]
    · rw [← List.append_cons] at refused
      refine ⟨item :: earlier, found, later, rfl, ?_, refused⟩
      intro front other back split
      cases front with
      | nil =>
          cases split
          rwa [List.append_nil]
      | cons _ rest =>
          cases split
          rw [List.append_cons]
          exact others rest other back rfl

theorem exists_firstRefusedAfter_iff :
    (∃ error, FirstRefusedAfter refuses before items error) ↔
      ∃ earlier item later, items = earlier ++ item :: later ∧
        ∃ error, refuses (before ++ earlier) item error := by
  constructor
  · rintro ⟨error, earlier, item, later, split, _, refused⟩
    exact ⟨earlier, item, later, split, error, refused⟩
  · rintro ⟨earlier, item, later, rfl, error, refused⟩
    induction earlier generalizing before with
    | nil =>
        rw [List.append_nil] at refused
        exact ⟨error, firstRefusedAfter_cons_iff.mpr (Or.inl refused)⟩
    | cons first rest inductionHypothesis =>
        by_cases good : ∀ cause, ¬refuses before first cause
        · rw [List.append_cons] at refused
          obtain ⟨cause, found⟩ := inductionHypothesis refused
          exact ⟨cause, firstRefusedAfter_cons_iff.mpr (Or.inr ⟨good, found⟩)⟩
        · obtain ⟨cause, here⟩ := Classical.not_forall_not.mp good
          exact ⟨cause, firstRefusedAfter_cons_iff.mpr (Or.inl here)⟩

end

end UriTemplate.Outcome
