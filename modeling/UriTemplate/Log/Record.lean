import UriTemplate.Log.Directive
import UriTemplate.Value.Basic

/-!
Records of the log.

A record holds a message together with the pattern and the arguments that it was
made from, and the place in the code that emits it.  The rest of what a layout can
show of it comes from its surroundings, which are the process and the moment in
which it is emitted.
-/

namespace UriTemplate.Log

/-- A place in the code; the path leads to its file from where all of the code stands. -/
structure Site where
  path : Text
  line : Nat
  function : Text
deriving DecidableEq, Repr

/-- A message with its level and the name of the logger that emits it. -/
structure Record where
  logger : Text
  level : Int
  message : Text
  /-- The message before its arguments were filled in. -/
  pattern : Text
  /-- The arguments of the pattern, as they are displayed. -/
  arguments : List Text
  site : Site
deriving DecidableEq, Repr

/-- The process and the moment in which a record is emitted. -/
structure Surroundings where
  /-- Where the code stands. -/
  directory : Text
  /-- The date and the time of day in the zone of the process. -/
  date : Text
  milliseconds : Fin 1000
  /-- The seconds since the epoch. -/
  created : Binary64
  /-- The milliseconds since the process began to log. -/
  elapsed : Binary64
  thread : Nat
  threadName : Text
  processName : Text
  process : Nat
  /-- The report of the calls that led here, and of what went wrong in the last of them. -/
  trace : Text
deriving DecidableEq, Repr

namespace Surroundings

/-- The surroundings as long as nothing is known of them. -/
def initial : Surroundings where
  directory := []
  date := "1970-01-01 00:00:00"
  milliseconds := 0
  created := .ofNat 0
  elapsed := .ofNat 0
  thread := 0
  threadName := "MainThread"
  processName := "MainProcess"
  process := 0
  trace := []

/-- The date and the time of day with three digits of its fraction. -/
def time (surroundings : Surroundings) : Text :=
  let fraction : Directive := ⟨['0'], 3, none, 'd'⟩
  Text.concat [surroundings.date, ",", fraction.writeInteger 10 surroundings.milliseconds.val]

end Surroundings

/-- The part of a path behind its last slash. -/
def fileName (path : Text) : Text :=
  (path.reverse.takeWhile (· ≠ .scalar '/')).reverse

/-- A file name without its last dot and what follows; dots at the start of it do not count. -/
def stem (name : Text) : Text :=
  match name.reverse.dropWhile (· ≠ .scalar '.') with
  | [] => name
  | _ :: before => if before.all (· = .scalar '.') then name else before.reverse

def levelName (level : Int) : Text :=
  if level = 0 then "NOTSET"
  else if level = 10 then "DEBUG"
  else if level = 20 then "INFO"
  else if level = 30 then "WARNING"
  else if level = 40 then "ERROR"
  else if level = 50 then "CRITICAL"
  else Text.concat ["Level ", Text.ofInt level]

namespace Record

def ofMessage (site : Site) (logger : Text) (level : Int) (message : Text) : Record :=
  ⟨logger, level, message, message, [], site⟩

/-- The fields that are set whatever the layout, in their order. -/
def lasting (surroundings : Surroundings) (record : Record) : List (Text × FieldContent) :=
  let path := surroundings.directory ++ record.site.path
  [("name", .text record.logger),
    ("msg", .text record.pattern),
    ("args", .display (Value.parenthesized record.arguments)),
    ("levelname", .text (levelName record.level)),
    ("levelno", .number record.level),
    ("pathname", .text path),
    ("filename", .text (fileName path)),
    ("module", .text (stem (fileName path))),
    ("exc_info", .display "None"),
    ("exc_text", .display "None"),
    ("stack_info", .display "None"),
    ("lineno", .number record.site.line),
    ("funcName", .text record.site.function),
    ("created", .real surroundings.created),
    ("msecs", .real (.ofNat surroundings.milliseconds)),
    ("relativeCreated", .real surroundings.elapsed),
    ("thread", .number surroundings.thread),
    ("threadName", .text surroundings.threadName),
    ("processName", .text surroundings.processName),
    ("process", .number surroundings.process),
    ("message", .text record.message)]

/-- The fields that a layout can show.  The time is set only if the layout asks for it. -/
def fields (surroundings : Surroundings) (withTime : Bool) (record : Record) :
    List (Text × FieldContent) :=
  let time : Text × FieldContent := ("asctime", .text surroundings.time)
  record.lasting surroundings ++ if withTime then [time] else []

/-- All fields with their contents, as one content. -/
def displayed (fields : List (Text × FieldContent)) : FieldContent :=
  let entries := fields.map fun field =>
    Text.concat [field.1.quoted, ": ", Directive.shown field.2]
  .display (Text.concat ["\x7b", Text.listed entries, "\x7d"])

/-- What is reported in place of a record that cannot be written. -/
def report (surroundings : Surroundings) (record : Record) : Text :=
  Text.concat ["--- Logging error ---\n", surroundings.trace, "Message: ", record.pattern.quoted,
    "\nArguments: ", Value.parenthesized record.arguments, "\n"]

end Record

end UriTemplate.Log
