import UriTemplate.Log.Basic

/-!
What a setup does.

A setup finds the log set up and leaves it alone, or has its layout accepted and
gives the log its handler, or has its layout refused and fails.  The setup that
obtaining a logger or setting the level begins with never fails.  So a log has one
handler once it has been set up and none before, and what is done with it tells
which one it is (`State.HasHandler`).
-/

namespace UriTemplate.Log

namespace Layout

/-- The layout that a log is set up with: the usual one if none is asked for, and the message alone
if an empty one is. -/
def requested : Option Text → Text
  | none => standard
  | some [] => messageOnly
  | some layout => layout

/-- A layout that a log cannot be set up with has a character but no field. -/
def isRefused (layout : Option Text) : Bool :=
  layout.any fun text => !text.isEmpty && !hasField text

theorem isRefused_eq_true_iff {layout : Option Text} :
    isRefused layout = true ↔ ∃ text, layout = some text ∧ text ≠ [] ∧ hasField text = false := by
  simp [isRefused, Option.any_eq_true]

theorem accept?_standard : accept? standard = some standard := by
  decide +kernel

theorem accept?_getD (layout : Option Text) :
    accept? (layout.getD standard) =
      if isRefused layout then none else some (requested layout) := by
  match layout with
  | none => exact accept?_standard
  | some [] => rfl
  | some (point :: rest) =>
      cases found : hasField (point :: rest) <;> simp [accept?, isRefused, requested, found]

end Layout

namespace State

variable {state : State} {current : Option Handler}

theorem setup_of_configured (threshold level : Int) (layout : Option Text)
    (configured : state.configured = true) :
    state.setup threshold level layout = (.ok (), state) :=
  if_pos configured

theorem setup_of_accepted (threshold level : Int) {layout : Option Text}
    (unconfigured : state.configured = false) (accepts : Layout.isRefused layout = false) :
    state.setup threshold level layout =
      (.ok (), { state with
        level := level
        handlers := [⟨threshold, Layout.requested layout⟩]
        configured := true }) := by
  have accepted := Layout.accept?_getD layout
  rw [accepts, if_neg Bool.false_ne_true] at accepted
  unfold setup
  dsimp only
  rw [unconfigured, accepted]
  rfl

theorem setup_of_refused (threshold level : Int) {layout : Option Text}
    (unconfigured : state.configured = false) (refuses : Layout.isRefused layout = true) :
    state.setup threshold level layout =
      (.error ⟨layout.getD Layout.standard⟩, { state with level := level, handlers := [] }) := by
  have refused := Layout.accept?_getD layout
  rw [refuses, if_pos rfl] at refused
  unfold setup
  dsimp only
  rw [unconfigured, refused]
  rfl

theorem setup_fails_iff (state : State) (threshold level : Int) (layout : Option Text) :
    (∃ error, (state.setup threshold level layout).1 = .error error) ↔
      state.configured = false ∧ Layout.isRefused layout = true := by
  cases configured : state.configured with
  | true => simp [setup_of_configured threshold level layout configured]
  | false =>
      cases refuses : Layout.isRefused layout with
      | true => simp [setup_of_refused threshold level configured refuses]
      | false => simp [setup_of_accepted threshold level configured refuses]

theorem ensure_of_configured (configured : state.configured = true) : state.ensure = state := by
  rw [ensure, setup_of_configured _ _ _ configured]

theorem ensure_of_unconfigured (unconfigured : state.configured = false) :
    state.ensure =
      { state with
        level := Level.warning
        handlers := [⟨0, Layout.standard⟩]
        configured := true } := by
  rw [ensure, setup_of_accepted _ _ unconfigured rfl]
  rfl

theorem configured_ensure (state : State) : state.ensure.configured = true := by
  cases configured : state.configured with
  | true => rw [ensure_of_configured configured, configured]
  | false => rw [ensure_of_unconfigured configured]

theorem handlers_acquire (state : State) (name : Text) :
    (state.acquire name).handlers = state.ensure.handlers := by
  unfold acquire
  split
  · rfl
  · split <;> rfl

theorem configured_acquire (state : State) (name : Text) :
    (state.acquire name).configured = true := by
  unfold acquire
  split
  · exact configured_ensure state
  · split <;> exact configured_ensure state

theorem configured_setLevel (state : State) (level : Int) :
    (state.setLevel level).configured = true :=
  configured_ensure state

/-! ## The handler -/

/-- A log that is set up has a handler, and any other log has none. -/
inductive HasHandler (state : State) : Option Handler → Prop
  | absent : state.configured = false → state.handlers = [] → HasHandler state none
  | present {handler : Handler} :
      state.configured = true → state.handlers = [handler] → HasHandler state (some handler)

namespace HasHandler

theorem reset (state : State) : state.reset.HasHandler none :=
  .absent rfl rfl

theorem of_same {other : State} (has : state.HasHandler current)
    (configured : other.configured = state.configured)
    (handlers : other.handlers = state.handlers) : other.HasHandler current := by
  cases has with
  | absent unconfigured empty =>
      exact .absent (configured.trans unconfigured) (handlers.trans empty)
  | present isConfigured single =>
      exact .present (configured.trans isConfigured) (handlers.trans single)

theorem configured (has : state.HasHandler current) : state.configured = current.isSome := by
  cases has with
  | absent unconfigured _ => exact unconfigured
  | present configured _ => exact configured

theorem handlers (has : state.HasHandler current) : state.handlers = current.toList := by
  cases has with
  | absent _ empty => exact empty
  | present _ single => exact single

theorem handlers_eq_singleton_iff (has : state.HasHandler current) {handler : Handler} :
    state.handlers = [handler] ↔ current = some handler := by
  rw [has.handlers]
  cases current <;> simp

theorem setup (has : state.HasHandler current) (threshold level : Int) (layout : Option Text) :
    (state.setup threshold level layout).2.HasHandler
      (current.or
        (if Layout.isRefused layout then none
        else some ⟨threshold, Layout.requested layout⟩)) := by
  cases has with
  | absent unconfigured _ =>
      rw [Option.none_or]
      cases refuses : Layout.isRefused layout with
      | true =>
          rw [setup_of_refused threshold level unconfigured refuses]
          exact .absent unconfigured rfl
      | false =>
          rw [setup_of_accepted threshold level unconfigured refuses]
          exact .present rfl rfl
  | present configured single =>
      rw [setup_of_configured threshold level layout configured]
      exact .present configured single

theorem ensure (has : state.HasHandler current) :
    state.ensure.HasHandler (current.or (some ⟨0, Layout.standard⟩)) := by
  cases has with
  | absent unconfigured _ =>
      rw [ensure_of_unconfigured unconfigured]
      exact .present rfl rfl
  | present configured single =>
      rw [ensure_of_configured configured]
      exact .present configured single

theorem acquire (has : state.HasHandler current) (name : Text) :
    (state.acquire name).HasHandler (current.or (some ⟨0, Layout.standard⟩)) :=
  has.ensure.of_same ((configured_acquire state name).trans (configured_ensure state).symm)
    (handlers_acquire state name)

theorem setLevel (has : state.HasHandler current) (level : Int) :
    (state.setLevel level).HasHandler
      ((current.or (some ⟨0, Layout.standard⟩)).map fun handler =>
        { handler with level := level }) := by
  have ensured := has.ensure
  rw [Option.or_some] at ensured ⊢
  cases ensured with
  | present configured single => exact .present configured (congrArg (List.map _) single)

end HasHandler

/-- A log has one handler once it has been set up, and none before. -/
def IsSound (state : State) : Prop :=
  state.handlers.length = state.configured.toNat

theorem isSound_iff : state.IsSound ↔ ∃ current, state.HasHandler current := by
  constructor
  · intro sound
    unfold IsSound at sound
    cases configured : state.configured with
    | false =>
        rw [configured] at sound
        exact ⟨none, .absent configured (List.length_eq_zero_iff.mp sound)⟩
    | true =>
        rw [configured] at sound
        obtain ⟨handler, single⟩ := List.length_eq_one_iff.mp sound
        exact ⟨some handler, .present configured single⟩
  · rintro ⟨current, has⟩
    rw [IsSound, has.configured, has.handlers]
    cases current <;> rfl

theorem HasHandler.isSound (has : state.HasHandler current) : state.IsSound :=
  isSound_iff.mpr ⟨current, has⟩

theorem IsSound.fresh : IsSound fresh := rfl

end State

end UriTemplate.Log
