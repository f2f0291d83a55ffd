import UriTemplate.Proofs.Log.History

/-!
The level in force in the package.

A logger that is obtained takes over the level of the package, and obtaining it
changes no other level; but the package logger itself loses its level when it is
obtained, so that all of the package is left with the level of the root until a
level is set again.  Nothing else that is done between two settings of the level
touches it (`foldl_change_level`).
-/

namespace UriTemplate

namespace Log

/-- No name of the package obtains the root. -/
theorem IsPackageName.ne_root {name : Text} (named : IsPackageName name) :
    loggerName name ≠ rootName := by
  intro same
  unfold loggerName at same
  split at same
  · next empty =>
      rw [List.isEmpty_iff.mp empty] at named
      exact absurd named (by decide +kernel)
  · rw [same] at named
    exact absurd named (by decide +kernel)

namespace State

variable {log : State} {name other : Text}

theorem effectiveLevel_of_inPackage (stands : inPackage log.obtained other = true) :
    log.effectiveLevel other = if log.level ≠ 0 then log.level else log.rootLevel := by
  rw [effectiveLevel, stands]
  simp only [true_and]

theorem effectiveLevel_of_level_eq_zero (unset : log.level = 0) (other : Text) :
    log.effectiveLevel other = log.rootLevel := by
  rw [effectiveLevel, unset]
  exact if_neg fun both => both.2 rfl

theorem level_acquire_package (log : State) : (log.acquire packageName).level = 0 := by
  rw [acquire, if_pos rfl]

theorem rootLevel_acquire_package (configured : log.configured = true) :
    (log.acquire packageName).rootLevel = log.rootLevel := by
  rw [acquire, if_pos rfl, ensure_of_configured configured]

theorem level_acquire_of_ne (configured : log.configured = true) (apart : name ≠ packageName) :
    (log.acquire name).level = log.level := by
  unfold acquire
  rw [if_neg apart, ensure_of_configured configured]
  split <;> rfl

/-- A logger below the package logger only joins those that have been obtained. -/
theorem acquire_of_below (configured : log.configured = true) (named : IsPackageName name)
    (apart : name ≠ packageName) :
    log.acquire name = { log with obtained := log.obtained.insert name } := by
  rw [acquire, if_neg apart, if_neg named.ne_root, ensure_of_configured configured]

/-- Obtaining a logger of the package leaves a level in force, unless it is the package logger that
is obtained and the root has another level. -/
theorem effectiveLevel_acquire_eq_iff (configured : log.configured = true)
    (named : IsPackageName name) (before : inPackage log.obtained other = true)
    (after : inPackage (log.acquire name).obtained other = true) :
    (log.acquire name).effectiveLevel other = log.effectiveLevel other ↔
      name ≠ packageName ∨ log.effectiveLevel other = log.rootLevel := by
  by_cases apart : name = packageName
  · subst apart
    rw [effectiveLevel_of_level_eq_zero (level_acquire_package log),
      rootLevel_acquire_package configured, or_iff_right (not_not_intro rfl)]
    exact eq_comm
  · rw [effectiveLevel_of_inPackage before, effectiveLevel_of_inPackage after,
      acquire_of_below configured named apart]
    exact iff_of_true rfl (Or.inl apart)

end State

end Log

/-- An action that neither resets the log nor sets the level. -/
def Action.KeepsLevel (action : Action) : Prop :=
  action.isReset = false ∧ action.level? = none

namespace Log.State

variable {log : State}

theorem change_level (configured : log.configured = true) {action : Action}
    (keeps : action.KeepsLevel) :
    (action.change log).configured = true ∧
    (action ≠ .acquire packageName → (action.change log).level = log.level) ∧
    (action = .acquire packageName → (action.change log).level = 0) := by
  cases action with
  | setup threshold level layout =>
      have same : (log.setup threshold level layout).2 = log := by
        rw [setup_of_configured threshold level layout configured]
      refine ⟨?_, fun _ => congrArg State.level same, nofun⟩
      rw [Action.change, same, configured]
  | acquire name =>
      refine ⟨configured_acquire log name, ?_, ?_⟩
      · intro apart
        exact level_acquire_of_ne configured fun same => apart (congrArg Action.acquire same)
      · rintro ⟨rfl⟩
        exact level_acquire_package log
  | setLevel level => cases keeps.2
  | reset => cases keeps.1
  | _ => exact ⟨configured, fun _ => rfl, nofun⟩

/-- While no level is set, the level stays until the package logger is obtained, and is zero from
then on. -/
theorem foldl_change_level (configured : log.configured = true) {actions : List Action}
    (keep : ∀ action ∈ actions, action.KeepsLevel) :
    (Action.acquire packageName ∉ actions → (actions.foldl Action.change log).level = log.level) ∧
    (Action.acquire packageName ∈ actions → (actions.foldl Action.change log).level = 0) := by
  induction actions generalizing log with
  | nil => exact ⟨fun _ => rfl, nofun⟩
  | cons action rest inductionHypothesis =>
      obtain ⟨nextConfigured, kept, lost⟩ :=
        change_level configured (keep action List.mem_cons_self)
      obtain ⟨restKept, restLost⟩ := inductionHypothesis nextConfigured fun later isLater =>
        keep later (List.mem_cons_of_mem _ isLater)
      rw [List.foldl_cons]
      refine ⟨?_, ?_⟩
      · intro unobtained
        rw [List.mem_cons, not_or] at unobtained
        rw [restKept unobtained.2, kept (Ne.symm unobtained.1)]
      · intro isObtained
        by_cases again : Action.acquire packageName ∈ rest
        · exact restLost again
        · rw [restKept again]
          exact lost ((List.mem_cons.mp isObtained).resolve_right again).symm

end Log.State

namespace Session

open Log (packageName)

/-- In a log that is set up, obtaining a logger of the package changes no handler, and leaves the
level in force for the loggers of the package as it was if it is not the package logger itself that
is obtained.  If it is, the level of the root is in force from then on.  So after the level has been
set, to one that is not zero, it is in force for all loggers of the package until it is set again or
the log is reset, whatever else is done, as long as the package logger is not obtained.  A name that
starts with that of the package logger and a dot stands in the package if no two dots stand side by
side in it. -/
theorem run_keeps_level (start : Session) (actions : List Action) :
    let session := (start.run (.reset :: actions)).2
    let log := session.log
    (log.configured = true → ∀ name, Log.IsPackageName name →
      let after := (session.perform (.acquire name)).2.log
      after.configured = true ∧ after.handlers = log.handlers ∧
      (name = packageName → ∀ other, after.effectiveLevel other = log.rootLevel) ∧
      ∀ other, Log.inPackage log.obtained other = true →
        Log.inPackage after.obtained other = true →
        (after.effectiveLevel other = log.effectiveLevel other ↔
          name ≠ packageName ∨ log.effectiveLevel other = log.rootLevel)) ∧
    (∀ level ≠ 0, ∀ later, (∀ action ∈ later, Action.KeepsLevel action) →
      let last := (session.run (.setLevel level :: later)).2.log
      ∀ other, Log.inPackage last.obtained other = true →
        (.acquire packageName ∉ later → last.effectiveLevel other = level) ∧
        (.acquire packageName ∈ later → last.effectiveLevel other = last.rootLevel)) ∧
    ∀ obtained name, Log.IsSpaced name →
      (Log.inPackage obtained name = true ↔ Log.IsPackageName name) := by
  intro session log
  refine ⟨?_, ?_, fun _ _ => Log.inPackage_iff⟩
  · intro configured name named after
    have handlers : after.handlers = log.handlers := by
      rw [show after.handlers = log.ensure.handlers from Log.State.handlers_acquire log name,
        Log.State.ensure_of_configured configured]
    refine ⟨Log.State.configured_acquire log name, handlers, ?_, ?_⟩
    · rintro rfl other
      exact (Log.State.effectiveLevel_of_level_eq_zero
        (Log.State.level_acquire_package log) other).trans
          (Log.State.rootLevel_acquire_package configured)
    · intro other stands stays
      exact Log.State.effectiveLevel_acquire_eq_iff configured named stands stays
  · intro level isSet later keep last other stands
    have lastEq : last = later.foldl Action.change (log.setLevel level) := run_log _ _
    obtain ⟨kept, lost⟩ :=
      Log.State.foldl_change_level (Log.State.configured_setLevel log level) keep
    rw [← lastEq] at kept lost
    refine ⟨fun unobtained => ?_, fun isObtained => ?_⟩
    · have same : last.level = level := kept unobtained
      rw [Log.State.effectiveLevel_of_inPackage stands, same, if_pos isSet]
    · exact Log.State.effectiveLevel_of_level_eq_zero (lost isObtained) other

/-- Loggers below the package logger leave the level, whether it is set before or after they are
obtained; the package logger leaves that of the root. -/
theorem run_keeps_level_below :
    let session := (fresh.run [.reset, .setup 0 20 none]).2
    let after := (session.perform (.acquire "rfc6570.a")).2
    let later : List Action := [.acquire "rfc6570.a", .setup 0 50 none, .acquire "", .read "\x7d"]
    let last := (session.run (.setLevel Log.Level.debug :: later)).2
    session.log.configured = true ∧
    after.log.effectiveLevel "rfc6570.parser" = session.log.effectiveLevel "rfc6570.parser" ∧
    last.log.effectiveLevel "rfc6570.parser" = Log.Level.debug ∧
    last.log.effectiveLevel packageName = Log.Level.debug ∧
    (session.perform (.acquire packageName)).2.log.effectiveLevel "rfc6570.parser" =
      session.log.rootLevel ∧
    let lost := (session.run [.setLevel Log.Level.debug, .acquire packageName]).2
    lost.log.effectiveLevel "rfc6570.parser" = lost.log.rootLevel := by
  intro session after later last
  obtain ⟨obtaining, setting, stands⟩ := run_keeps_level fresh [.setup 0 20 none]
  have configured : session.log.configured = true := by decide +kernel
  have parser (obtained : List Text) : Log.inPackage obtained "rfc6570.parser" = true :=
    (stands _ _ (by decide +kernel)).mpr (by decide +kernel)
  have itself (obtained : List Text) : Log.inPackage obtained packageName = true :=
    (stands _ _ (by decide +kernel)).mpr (by decide +kernel)
  have keep : ∀ action ∈ later, Action.KeepsLevel action := by
    simp [later, Action.KeepsLevel, Action.isReset, Action.level?]
  have apart : Text.ofString "rfc6570.a" ≠ packageName := by decide +kernel
  have unobtained : Action.acquire packageName ∉ later := by
    have root : packageName ≠ Text.ofString "" := by decide +kernel
    simp [later, apart.symm, root]
  have below := obtaining configured "rfc6570.a" (by decide +kernel)
  have keeps := setting Log.Level.debug (by decide) later keep
  have package := obtaining configured packageName (by decide +kernel)
  have loses := setting Log.Level.debug (by decide) [.acquire packageName]
    (List.forall_mem_singleton.mpr ⟨rfl, rfl⟩)
  exact ⟨configured, (below.2.2.2 _ (parser _) (parser _)).mpr (Or.inl apart),
    (keeps _ (parser _)).1 unobtained, (keeps _ (itself _)).1 unobtained,
    package.2.2.1 rfl _, (loses _ (parser _)).2 (List.mem_singleton_self _)⟩

/-- The package logger itself loses the level when it is obtained, and so do all loggers of the
package. -/
theorem run_loses_level :
    let session := (fresh.run [.reset, .setLevel Log.Level.debug]).2
    let after := (session.perform (.acquire packageName)).2
    session.log.configured = true ∧ Log.IsPackageName packageName ∧
    session.log.effectiveLevel packageName = Log.Level.debug ∧
    after.log.effectiveLevel packageName = Log.Level.warning ∧
    session.log.effectiveLevel "rfc6570.parser" = Log.Level.debug ∧
    after.log.effectiveLevel "rfc6570.parser" = Log.Level.warning := by
  decide +kernel

end Session

end UriTemplate
