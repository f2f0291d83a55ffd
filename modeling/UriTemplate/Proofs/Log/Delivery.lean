import UriTemplate.Proofs.Log.Hierarchy
import UriTemplate.Proofs.Log.Lines
import UriTemplate.Proofs.Log.Setup

/-!
Where a record goes.

A log has one handler or none, whatever is done with it, so that a record that a
module of the library emits is written at most once: by the handler of the package
logger, if neither the level of that logger nor its own is above that of the record.
-/

namespace UriTemplate.Log

namespace State

variable {state : State} {record : Record}

/-- The handlers that write a record. -/
def writers (state : State) (record : Record) : List Handler :=
  if 0 < record.level ∧ state.effectiveLevel record.logger ≤ record.level then
    let reached :=
      match state.handlersOf record.logger with
      | [] => [lastHandler]
      | handlers => handlers
    reached.filter fun handler => handler.level ≤ record.level
  else
    []

theorem flatMap_filter_entry (surroundings : Surroundings) (handlers : List Handler)
    (record : Record) :
    (handlers.filter fun handler => handler.level ≤ record.level).flatMap
        (fun handler => Layout.entry surroundings handler.layout record) =
      handlers.flatMap (Handler.output surroundings record) := by
  induction handlers with
  | nil => rfl
  | cons handler rest inductionHypothesis =>
      rw [List.flatMap_cons, ← inductionHypothesis, List.filter_cons, Handler.output]
      by_cases writes : handler.level ≤ record.level <;> simp [writes]

/-- A record adds the entries of the handlers that write it, and nothing else. -/
theorem output_eq_flatMap (state : State) (record : Record) :
    state.output record =
      (state.writers record).flatMap fun handler =>
        Layout.entry state.surroundings handler.layout record := by
  unfold output writers
  split
  · rw [flatMap_filter_entry]
    cases state.handlersOf record.logger with
    | nil => exact (List.append_nil _).symm
    | cons handler rest => rfl
  · rfl

/-- What a record that one handler writes adds to the output. -/
theorem output_of_writers {handler : Handler} (writers : state.writers record = [handler]) :
    state.output record = Layout.entry state.surroundings handler.layout record := by
  rw [output_eq_flatMap, writers, List.flatMap_singleton]

theorem output_of_write? {handler : Handler} {line : Text}
    (writers : state.writers record = [handler])
    (written : Layout.write? state.surroundings record handler.layout = some line) :
    state.output record = line ++ [.scalar '\n'] := by
  rw [output_of_writers writers, Layout.entry_of_write? written]

theorem output_of_write?_eq_none {handler : Handler} (writers : state.writers record = [handler])
    (unwritten : Layout.write? state.surroundings record handler.layout = none) :
    state.output record = record.report state.surroundings := by
  rw [output_of_writers writers, Layout.entry_of_write?_eq_none unwritten]

/-- A handler adds something for each record that it writes. -/
theorem output_eq_nil_iff : state.output record = [] ↔ state.writers record = [] := by
  rw [output_eq_flatMap, List.flatMap_eq_nil_iff]
  constructor
  · intro silent
    refine List.eq_nil_iff_forall_not_mem.mpr fun handler among => ?_
    exact Layout.entry_ne_nil (silent handler among)
  · intro none
    rw [none]
    exact nofun

end State

/-! ## The modules of the library -/

/-- The records that the modules of the library emit. -/
def Record.IsTrace (record : Record) : Prop :=
  record.level = Level.debug ∧
    (record.logger = "rfc6570.parser" ∨ record.logger = "rfc6570.catalog")

theorem Record.IsTrace.inPackage {record : Record} (trace : record.IsTrace)
    (obtained : List Text) : inPackage obtained record.logger = true := by
  obtain ⟨_, isParser | isCatalog⟩ := trace
  · rw [isParser]
    exact inPackage_of_isPackageName (by decide +kernel) (by decide +kernel)
  · rw [isCatalog]
    exact inPackage_of_isPackageName (by decide +kernel) (by decide +kernel)

namespace State

variable {state : State} {record : Record}

/-- All that is logged in the package goes to the one handler, if it passes both levels. -/
theorem writers_of_inPackage {handler : Handler} (single : state.handlers = [handler])
    (stands : inPackage state.obtained record.logger = true) :
    state.writers record =
      if 0 < record.level ∧ state.effectiveLevel record.logger ≤ record.level ∧
        handler.level ≤ record.level then [handler]
      else [] := by
  have reached : state.handlersOf record.logger = [handler] := by
    rw [handlersOf, if_pos stands, single]
  rw [writers, reached]
  by_cases positive : 0 < record.level
  · by_cases passes : state.effectiveLevel record.logger ≤ record.level <;>
      simp [positive, passes, List.filter_cons]
  · simp [positive]

end State

end UriTemplate.Log
