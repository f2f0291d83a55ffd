import UriTemplate.Proofs.Log.Sessions
import Mathlib.Data.List.DropRight

/-!
The handler that a log has after a history of actions.

The handler can be told from the actions since the last reset: it is the first that
one of them gives, with the level that was set last (`handlerAfter?`).  An action
either finds this handler and at most sets its level, or gives one and then does the
same, which is why both can be told by one equation (`handlerAfter?_concat`).
-/

namespace UriTemplate

open Log (Handler)

namespace Action

/-- What an action does to the log. -/
def change (log : Log.State) : Action → Log.State
  | .setup threshold level layout => (log.setup threshold level layout).2
  | .acquire name => log.acquire name
  | .setLevel level => log.setLevel level
  | .setRootLevel level => { log with rootLevel := level }
  | .reset => log.reset
  | .surround surroundings => { log with surroundings := surroundings }
  | .request _ => log
  | .read _ => log
  | .load _ => log

def isReset : Action → Bool
  | .reset => true
  | _ => false

/-- The level that an action gives the package logger and its handler alike. -/
def level? : Action → Option Int
  | .setLevel level => some level
  | _ => none

/-- The handler that an action gives a log without one, before it sets the level of it. -/
def handler? : Action → Option Handler
  | .setup threshold _ layout =>
      if Log.Layout.isRefused layout then none else some ⟨threshold, Log.Layout.requested layout⟩
  | .acquire _ => some ⟨0, Log.Layout.standard⟩
  | .setLevel _ => some ⟨0, Log.Layout.standard⟩
  | _ => none

/-- The actions behind the last reset. -/
def sinceReset (actions : List Action) : List Action :=
  actions.rtakeWhile fun action => !action.isReset

/-- The first handler that an action gives, with the level that is set last. -/
def handlerAfter? (actions : List Action) : Option Handler :=
  (actions.findSome? handler?).map fun first =>
    { first with level := (actions.filterMap level?).getLast?.getD first.level }

theorem sinceReset_concat (actions : List Action) (action : Action) :
    sinceReset (actions ++ [action]) =
      if action.isReset then [] else sinceReset actions ++ [action] := by
  rw [sinceReset, List.rtakeWhile_concat]
  cases action.isReset <;> rfl

/-- Setting the level gives a handler, so no level is set before there is one. -/
theorem filterMap_level?_eq_nil {actions : List Action}
    (without : actions.findSome? handler? = none) : actions.filterMap level? = [] := by
  rw [List.findSome?_eq_none_iff] at without
  rw [List.filterMap_eq_nil_iff]
  intro action isDone
  cases action with
  | setLevel level => cases without _ isDone
  | _ => rfl

theorem handlerAfter?_concat (actions : List Action) (action : Action) :
    handlerAfter? (actions ++ [action]) =
      ((handlerAfter? actions).or action.handler?).map fun handler =>
        { handler with level := action.level?.getD handler.level } := by
  have levels : ((actions ++ [action]).filterMap level?).getLast? =
      action.level?.or (actions.filterMap level?).getLast? := by
    rw [List.filterMap_append, List.getLast?_append]
    cases set : action.level? <;> simp [set]
  unfold handlerAfter?
  rw [List.findSome?_append, levels]
  cases given : actions.findSome? handler? with
  | none =>
      rw [filterMap_level?_eq_nil given]
      cases action.level? <;> simp
  | some first => cases action.level? <;> simp

theorem handlerAfter?_eq_some_iff {actions : List Action} {handler : Handler} :
    handlerAfter? actions = some handler ↔
      ∃ first, actions.findSome? handler? = some first ∧
        handler.layout = first.layout ∧
        handler.level = (actions.filterMap level?).getLast?.getD first.level := by
  rw [handlerAfter?, Option.map_eq_some_iff]
  refine exists_congr fun first => and_congr_right fun _ => ⟨?_, ?_⟩
  · rintro rfl
    exact ⟨rfl, rfl⟩
  · rintro ⟨sameLayout, sameLevel⟩
    rw [← sameLevel, ← sameLayout]

end Action

namespace Log.State

variable {log : State} {current : Option Handler}

/-- An action leaves the handler that there is, or gives one, and at most sets its level. -/
theorem HasHandler.change (has : log.HasHandler current) {action : Action}
    (keeps : action.isReset = false) :
    (action.change log).HasHandler
      ((current.or action.handler?).map fun handler =>
        { handler with level := action.level?.getD handler.level }) := by
  cases action with
  | setup threshold level layout =>
      simp only [Action.level?, Option.getD_none, Option.map_id']
      exact has.setup threshold level layout
  | acquire name =>
      simp only [Action.level?, Option.getD_none, Option.map_id']
      exact has.acquire name
  | setLevel level => exact has.setLevel level
  | reset => contradiction
  | _ =>
      simp only [Action.level?, Action.handler?, Option.getD_none, Option.map_id', Option.or_none]
      exact has.of_same rfl rfl

end Log.State

namespace Session

theorem perform_log (session : Session) (action : Action) :
    (session.perform action).2.log = action.change session.log := by
  cases action <;> rfl

theorem run_log (session : Session) (actions : List Action) :
    (session.run actions).2.log = actions.foldl Action.change session.log := by
  induction actions generalizing session with
  | nil => rfl
  | cons action rest inductionHypothesis =>
      rw [run_cons, List.foldl_cons, inductionHypothesis, perform_log]

theorem run_hasHandler (start : Session) (actions : List Action) :
    (start.run (.reset :: actions)).2.log.HasHandler
      (Action.handlerAfter? (Action.sinceReset actions)) := by
  rw [run_log, List.foldl_cons]
  induction actions using List.reverseRecOn with
  | nil => exact .reset start.log
  | append_singleton actions action inductionHypothesis =>
      rw [List.foldl_append, List.foldl_cons, List.foldl_nil, Action.sinceReset_concat]
      cases resets : action.isReset with
      | true =>
          cases action with
          | reset => exact .reset _
          | _ => contradiction
      | false =>
          rw [if_neg Bool.false_ne_true, Action.handlerAfter?_concat]
          exact inductionHypothesis.change resets

/-- From a reset on, whatever is done: a log that is set up has one handler, and any other log has
none.  A log that is set up is not changed by a setup.  So the handler has the layout of the first
setup that succeeds after the last reset, be it one by itself or one that obtaining a logger or
setting the level begins with: the layout that is asked for, the usual one if none is, and the
message alone if an empty one is.  It has the level that has been set last since, or else the one
that it came with.  It is the only one to write a record of the package, and writes it once, if the
record passes both its level and that in force for the logger of the record: as a line if the layout
suits the record, and as a report with its pattern and arguments otherwise.  No record of a level
up to zero is let through.  A layout suits a record if all of its fields have names and suit it by
themselves; the usual layout suits every record.  A name that starts with that of the package
logger and a dot stands in the package if no two dots stand side by side in it. -/
theorem run_single_handler (start : Session) (actions : List Action) :
    let session := (start.run (.reset :: actions)).2
    let log := session.log
    let recent := Action.sinceReset actions
    log.handlers.length = log.configured.toNat ∧
    (log.configured = true → ∀ threshold level layout,
      (log.setup threshold level layout).1 = .ok () ∧
      session.perform (.setup threshold level layout) = ([], session)) ∧
    log.configured = (recent.findSome? Action.handler?).isSome ∧
    (∀ handler, log.handlers = [handler] ↔
      ∃ first, recent.findSome? Action.handler? = some first ∧
        handler.layout = first.layout ∧
        handler.level = (recent.filterMap Action.level?).getLast?.getD first.level) ∧
    (∀ handler, log.handlers = [handler] → ∀ record : Log.Record,
      Log.inPackage log.obtained record.logger = true →
      let passes := 0 < record.level ∧ log.effectiveLevel record.logger ≤ record.level ∧
        handler.level ≤ record.level
      let line? := Log.Layout.write? log.surroundings record handler.layout
      (passes → log.writers record = [handler] ∧
        (∀ line, line? = some line → log.output record = line ++ [.scalar '\n']) ∧
        (line? = none → log.output record = record.report log.surroundings)) ∧
      (¬passes → log.writers record = [] ∧ log.output record = [])) ∧
    (∀ record layout pieces, Log.Layout.pieces? layout.length layout = some pieces →
      (∀ piece ∈ pieces, piece.Suits (Log.Layout.fieldsOf log.surroundings record layout)) →
      ∃ line, Log.Layout.write? log.surroundings record layout = some line) ∧
    (∀ record, Log.Layout.write? log.surroundings record Log.Layout.standard =
      some (Text.concat [log.surroundings.time, " - ", record.logger, " - ",
        Log.levelName record.level, " - ", record.message])) ∧
    ∀ name, Log.IsSpaced name →
      (Log.inPackage log.obtained name = true ↔ Log.IsPackageName name) := by
  intro session log recent
  have has : log.HasHandler (Action.handlerAfter? recent) := run_hasHandler start actions
  refine ⟨has.isSound, ?_, ?_, ?_, ?_, fun _ _ _ => Log.Layout.write?_of_suits,
    Log.Layout.write?_standard log.surroundings, fun _ => Log.inPackage_iff⟩
  · intro configured threshold level layout
    have same := Log.State.setup_of_configured threshold level layout configured
    refine ⟨by rw [same], ?_⟩
    rw [perform, same]
  · rw [has.configured, Action.handlerAfter?, Option.isSome_map]
  · intro handler
    rw [has.handlers_eq_singleton_iff, Action.handlerAfter?_eq_some_iff]
  · intro handler single record stands passes line?
    have writers := Log.State.writers_of_inPackage single stands
    refine ⟨fun isPassed => ?_, fun isHeld => ?_⟩
    · rw [if_pos isPassed] at writers
      exact ⟨writers, fun line => Log.State.output_of_write? writers,
        Log.State.output_of_write?_eq_none writers⟩
    · rw [if_neg isHeld] at writers
      exact ⟨writers, Log.State.output_eq_nil_iff.mpr writers⟩

/-- A setup that is refused is not the first one; later setups and loggers change nothing, and a
record at the level of the handler is written once, with the place in the code where it comes from
or, in a layout that does not suit it, as a report. -/
theorem run_single_handler_kept :
    let actions (layout : Text) : List Action :=
      [.setLevel Log.Level.debug, .reset, .setup 0 Log.Level.debug (some "plain"),
        .setup 20 Log.Level.debug (some layout), .acquire "rfc6570.b",
        .setup 0 Log.Level.warning none]
    let placed := (fresh.run (.reset :: actions "%(filename)s:%(lineno)d %(message)s")).2
    let foreign := (fresh.run (.reset :: actions "%(foo)s")).2
    let record (level : Int) := Log.Record.ofMessage ⟨"a/b.c", 7, "f"⟩ "rfc6570.a.b" level "text"
    placed.log.configured = true ∧
    placed.perform (.setup 0 Log.Level.warning none) = ([], placed) ∧
    placed.log.handlers = [⟨20, "%(filename)s:%(lineno)d %(message)s"⟩] ∧
    placed.log.output (record 20) = "b.c:7 text\n" ∧
    placed.log.output (record 19) = [] ∧
    foreign.log.handlers = [⟨20, "%(foo)s"⟩] ∧
    foreign.log.output (record 20) = (record 20).report foreign.log.surroundings := by
  intro actions placed foreign record
  obtain ⟨_, again, configured, handlers, delivers, _, _, stands⟩ :=
    run_single_handler fresh (actions "%(filename)s:%(lineno)d %(message)s")
  obtain ⟨_, _, _, otherHandlers, otherDelivers, _, _, otherStands⟩ :=
    run_single_handler fresh (actions "%(foo)s")
  have isConfigured : placed.log.configured = true := by
    rw [configured]
    decide +kernel
  have single : placed.log.handlers = [⟨20, "%(filename)s:%(lineno)d %(message)s"⟩] :=
    (handlers _).mpr ⟨⟨20, "%(filename)s:%(lineno)d %(message)s"⟩, by decide +kernel, rfl,
      by decide +kernel⟩
  have otherSingle : foreign.log.handlers = [⟨20, "%(foo)s"⟩] :=
    (otherHandlers _).mpr ⟨⟨20, "%(foo)s"⟩, by decide +kernel, rfl, by decide +kernel⟩
  have below : Log.inPackage placed.log.obtained "rfc6570.a.b" = true :=
    (stands _ (by decide +kernel)).mpr (by decide +kernel)
  have otherBelow : Log.inPackage foreign.log.obtained "rfc6570.a.b" = true :=
    (otherStands _ (by decide +kernel)).mpr (by decide +kernel)
  refine ⟨isConfigured, (again isConfigured 0 _ none).2, single, ?_, ?_, otherSingle, ?_⟩
  · obtain ⟨passed, _⟩ := delivers _ single (record 20) below
    exact (passed (by decide +kernel)).2.1 "b.c:7 text" (by decide +kernel)
  · obtain ⟨_, held⟩ := delivers _ single (record 19) below
    exact (held fun passes => absurd passes.2.2 (by decide)).2
  · obtain ⟨passed, _⟩ := otherDelivers _ otherSingle (record 20) otherBelow
    exact (passed (by decide +kernel)).2.2 (by decide +kernel)

/-- The two levels do not decide alone: a record of level zero is not let through although it is
above both, and one that is let through does not become a line in a layout with a foreign field. -/
theorem run_single_handler_unwritten :
    let low := (fresh.run [.reset, .setLevel (-7), .acquire "rfc6570.z"]).2.log
    let foreign := (fresh.run [.reset, .setup 0 Log.Level.debug (some "%(foo)s")]).2.log
    let record (level : Int) := Log.Record.ofMessage ⟨"a/b.c", 7, "f"⟩ "rfc6570.z" level "e"
    low.handlers = [⟨-7, Log.Layout.standard⟩] ∧ low.effectiveLevel "rfc6570.z" = -7 ∧
    low.output (record 0) = [] ∧
    foreign.handlers = [⟨0, "%(foo)s"⟩] ∧ foreign.effectiveLevel "rfc6570.z" = 10 ∧
    Log.Layout.write? foreign.surroundings (record 10) "%(foo)s" = none := by
  decide +kernel

end Session

end UriTemplate
