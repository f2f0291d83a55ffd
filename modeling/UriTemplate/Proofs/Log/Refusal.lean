import UriTemplate.Proofs.Log.History

/-!
Setups that are refused.

A setup fails if the log has not been set up and the layout that is asked for has no
field.  By then the level has been taken over, and it stays; the log is otherwise as
it was.  What is left behind counts until the log is set up or reset, since each of
these sets the level (`perform_of_unconfigured`).
-/

namespace UriTemplate

namespace Log

namespace State

variable {log : State}

/-- A log that has no handler loses nothing but its level when a setup is refused. -/
theorem HasHandler.setup_of_refused {current : Option Handler} (has : log.HasHandler current)
    (threshold level : Int) {layout : Option Text} (unconfigured : log.configured = false)
    (refuses : Layout.isRefused layout = true) :
    (log.setup threshold level layout).2 = { log with level := level } := by
  cases has with
  | absent _ empty =>
      rw [State.setup_of_refused threshold level unconfigured refuses, ← empty]
  | present configured _ => cases unconfigured.symm.trans configured

/-- The level of a log that has not been set up is lost when it is set up or reset. -/
theorem change_of_unconfigured (unconfigured : log.configured = false) (level : Int)
    {action : Action} (settles : action.isReset = true ∨ (action.change log).configured = true) :
    action.change { log with level := level } = action.change log := by
  have ensured : ensure { log with level := level } = log.ensure :=
    Eq.trans (ensure_of_unconfigured unconfigured) (ensure_of_unconfigured unconfigured).symm
  -- What follows sets the log up, so an action that leaves it as it is must be a reset.
  have settled (same : (action.change log).configured = false) : action.isReset = true :=
    settles.resolve_right (Bool.eq_false_iff.mp same)
  cases action with
  | setup threshold own layout =>
      cases refuses : Layout.isRefused layout with
      | true =>
          have refused := setup_of_refused threshold own unconfigured refuses
          cases settled ((congrArg (·.2.configured) refused).trans unconfigured)
      | false =>
          exact congrArg Prod.snd
            (Eq.trans (setup_of_accepted threshold own unconfigured refuses)
              (setup_of_accepted threshold own unconfigured refuses).symm)
  | acquire name =>
      unfold Action.change acquire
      rw [ensured]
  | setLevel own =>
      unfold Action.change setLevel
      rw [ensured]
  | reset => rfl
  | _ => cases settled unconfigured

end State

end Log

namespace Session

variable {session : Session}

theorem perform_of_unconfigured (unconfigured : session.log.configured = false) (level : Int)
    {action : Action}
    (settles : action.isReset = true ∨ (session.perform action).2.log.configured = true) :
    perform { session with log := { session.log with level := level } } action =
      session.perform action := by
  rw [perform_log] at settles
  have same := Log.State.change_of_unconfigured unconfigured level settles
  cases action with
  | request request =>
      rw [Action.change, unconfigured] at settles
      cases settles.resolve_left Bool.false_ne_true
  | _ => exact congrArg (fun log => (_, { session with log := log })) same

/-- From a reset on, whatever has been done: a setup fails if and only if the log has not been set
up and a layout is asked for that has a character but no field.  The error names this layout.  The
log then has the level that was asked for, so it is left as it was if and only if that is the level
it had; its handlers, and that it has not been set up, are as before.  The level that is left behind
makes no difference once the log is set up or reset. -/
theorem run_refused_setup (start : Session) (actions : List Action) (threshold level : Int)
    (layout : Option Text) :
    let session := (start.run (.reset :: actions)).2
    let log := session.log
    let after := (session.perform (.setup threshold level layout)).2
    ((∃ error, (log.setup threshold level layout).1 = .error error) ↔
      log.configured = false ∧
        ∃ text, layout = some text ∧ text ≠ [] ∧ Log.Layout.hasField text = false) ∧
    ∀ error, (log.setup threshold level layout).1 = .error error →
      layout = some error.layout ∧
      after = { session with log := { log with level := level } } ∧
      (after = session ↔ level = log.level) ∧
      ∀ next, next.isReset = true ∨ (session.perform next).2.log.configured = true →
        after.perform next = session.perform next := by
  intro session log after
  have has : log.HasHandler _ := run_hasHandler start actions
  refine ⟨by rw [Log.State.setup_fails_iff, Log.Layout.isRefused_eq_true_iff], ?_⟩
  intro error fails
  obtain ⟨unconfigured, refuses⟩ := (Log.State.setup_fails_iff _ _ _ _).mp ⟨error, fails⟩
  have left : after = { session with log := { log with level := level } } :=
    congrArg (fun log => { session with log := log })
      (has.setup_of_refused threshold level unconfigured refuses)
  refine ⟨?_, left, ?_, ?_⟩
  · obtain ⟨text, rfl, _⟩ := Log.Layout.isRefused_eq_true_iff.mp refuses
    rw [Log.State.setup_of_refused threshold level unconfigured refuses] at fails
    cases fails
    rfl
  · rw [left]
    constructor
    · intro same
      exact congrArg (fun session => session.log.level) same
    · rintro rfl
      rfl
  · intro next settles
    rw [left]
    exact perform_of_unconfigured unconfigured level settles

/-- Two setups are refused one after the other, the second at the level that the first has left, and
a logger is obtained after that. -/
theorem run_refused_setup_twice :
    let session := (fresh.run [.reset, .setup 0 40 (some "plain"), .setRootLevel 10]).2
    let after := (session.perform (.setup 20 40 (some "%(name)"))).2
    (session.log.setup 20 40 (some "%(name)")).1 = .error ⟨"%(name)"⟩ ∧
    after = session ∧
    (session.perform (.setup 20 50 (some "%(name)"))).2 ≠ session ∧
    after.perform (.acquire "rfc6570.a") = session.perform (.acquire "rfc6570.a") := by
  intro session after
  have refused := run_refused_setup fresh [.setup 0 40 (some "plain"), .setRootLevel 10]
  have fails (level : Int) :
      (session.log.setup 20 level (some "%(name)")).1 = .error ⟨"%(name)"⟩ := by
    have unconfigured : session.log.configured = false := by decide +kernel
    rw [Log.State.setup_of_refused 20 level unconfigured (by decide +kernel)]
    rfl
  have level : session.log.level = 40 := by decide +kernel
  obtain ⟨_, _, same, next⟩ := (refused 20 40 (some "%(name)")).2 _ (fails 40)
  obtain ⟨_, _, other, _⟩ := (refused 20 50 (some "%(name)")).2 _ (fails 50)
  refine ⟨fails 40, same.mpr level.symm, ?_, next _ (Or.inr (by decide +kernel))⟩
  rw [Ne, other]
  exact fun equal => absurd (equal.trans level) (by decide)

/-- A setup that fails need not leave the log as it was: the level is not what it was. -/
theorem run_refused_setup_changes :
    let session := (fresh.run [.reset]).2
    let after := (session.perform (.setup 0 Log.Level.debug (some "plain"))).2
    (session.log.setup 0 Log.Level.debug (some "plain")).1 = .error ⟨"plain"⟩ ∧
    session.log.level = 0 ∧ after.log.level = Log.Level.debug := by
  decide +kernel

end Session

end UriTemplate
