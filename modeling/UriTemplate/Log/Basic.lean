import UriTemplate.Log.Layout
import UriTemplate.Log.Name

/-!
The log of the library.

All loggers of the library stand below one package logger and take over its level;
where that is zero, and for all other loggers, the level of the root counts, which
is WARNING unless the root itself has been obtained.  The first successful setup
gives the package logger its handler, and later setups change nothing until a
reset.  A handler has a level of its own, which is zero for a new one.
-/

namespace UriTemplate.Log

/-- Where records go: those of at least a level, in a layout. -/
structure Handler where
  level : Int
  layout : Text
deriving DecidableEq, Repr

/-- What a handler adds to the output for a record. -/
def Handler.output (surroundings : Surroundings) (record : Record) (handler : Handler) : Text :=
  if handler.level ≤ record.level then Layout.entry surroundings handler.layout record else []

namespace Level

def debug : Int := 10

def warning : Int := 30

end Level

/-- The package logger, the level of the root, the names of all other loggers that have been
obtained, and what is around the log. -/
structure State where
  level : Int
  handlers : List Handler
  configured : Bool
  rootLevel : Int
  obtained : List Text
  surroundings : Surroundings
deriving DecidableEq, Repr

/-- The handler of records that reach no other. -/
def lastHandler : Handler := ⟨Level.warning, Layout.messageOnly⟩

namespace State

/-- A log that nothing has been done to. -/
def fresh : State := ⟨0, [], false, Level.warning, [], .initial⟩

/-- Resets the package logger; the root keeps its level, and the loggers stay. -/
def reset (state : State) : State :=
  { state with level := 0, handlers := [], configured := false }

/-- Sets the log up with a handler that has a level of its own, the threshold.  The level is taken
over and old handlers are dropped before the layout is looked at. -/
def setup (threshold level : Int) (layout : Option Text) (state : State) :
    Except LayoutError Unit × State :=
  if state.configured then (.ok (), state)
  else
    let requested := layout.getD Layout.standard
    match Layout.accept? requested with
    | none => (.error ⟨requested⟩, { state with level := level, handlers := [] })
    | some accepted =>
        (.ok (), { state with
          level := level
          handlers := [⟨threshold, accepted⟩]
          configured := true })

/-- Sets the log up as usual, if that has not been done. -/
def ensure (state : State) : State :=
  (setup 0 Level.warning none state).2

/-- Obtains a logger, whose own level becomes zero. -/
def acquire (name : Text) (state : State) : State :=
  if name = packageName then { state.ensure with level := 0 }
  else if loggerName name = rootName then { state.ensure with rootLevel := 0 }
  else { state.ensure with obtained := state.obtained.insert name }

def setLevel (level : Int) (state : State) : State :=
  { state.ensure with
    level := level
    handlers := state.ensure.handlers.map fun handler => { handler with level := level } }

/-- The level from which on a logger passes records. -/
def effectiveLevel (state : State) (name : Text) : Int :=
  if inPackage state.obtained name ∧ state.level ≠ 0 then state.level else state.rootLevel

/-- The handlers that records of a logger reach. -/
def handlersOf (state : State) (name : Text) : List Handler :=
  if inPackage state.obtained name then state.handlers else []

/-- What a record adds to the output.  A warning that reaches no handler is written bare. -/
def output (state : State) (record : Record) : Text :=
  if 0 < record.level ∧ state.effectiveLevel record.logger ≤ record.level then
    match state.handlersOf record.logger with
    | [] => lastHandler.output state.surroundings record
    | handlers => handlers.flatMap (Handler.output state.surroundings record)
  else
    []

def outputAll (state : State) (records : List Record) : Text :=
  records.flatMap state.output

end State

end UriTemplate.Log
