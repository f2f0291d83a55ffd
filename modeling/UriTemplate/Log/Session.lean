import UriTemplate.Catalog.Document
import UriTemplate.Log.Basic

/-!
Work that is logged.

Every rejected template is recorded once, and so is every catalog that is read
from a text.  A session holds the log and the store of templates; its
operations return their result, what the log adds to the output, and the session
after them.
-/

namespace UriTemplate

namespace Log.Record

/-- The record of a rejected template; the second argument is the error as it is displayed. -/
def rejection (raw : Text) (defect : Defect) : Log.Record :=
  let report := defect.report
  { logger := "rfc6570.parser"
    level := Log.Level.debug
    message := Text.concat ["Rejected template ", raw.quoted, ": ", report.message]
    pattern := "Rejected template %r: %s"
    arguments :=
      [raw.quoted, Text.concat [report.category.name, "(", report.message.quoted, ")"]]
    site := ⟨"rfc6570/parser.py", 74, "parse"⟩ }

def loaded (count : Nat) : Log.Record where
  logger := "rfc6570.catalog"
  level := Log.Level.debug
  message := Text.concat ["Loaded template catalog with ", Text.ofNat count, " template(s)"]
  pattern := "Loaded template catalog with %d template(s)"
  arguments := [Text.ofNat count]
  site := ⟨"rfc6570/catalog.py", 133, "load_catalog_yaml"⟩

end Log.Record

def Defect.records (raw : Text) : Except Defect Template → List Log.Record
  | .ok _ => []
  | .error defect => [.rejection raw defect]

/-- The records of fetching a template. -/
def Refusal.records {Result : Type} : Except Refusal Result → List Log.Record
  | .error (.defective raw defect) => [.rejection raw defect]
  | _ => []

def DocumentError.records : Except DocumentError Catalog → List Log.Record
  | .ok catalog => [.loaded catalog.entries.length]
  | .error (.defective _ raw defect) => [.rejection raw defect]
  | .error _ => []

/-- The records of reading a catalog from a text. -/
def Catalog.LoadError.records {Fault : Type} :
    Except (Catalog.LoadError Fault) Catalog → List Log.Record
  | .ok catalog => DocumentError.records (.ok catalog)
  | .error (.malformed _) => []
  | .error (.refused error) => DocumentError.records (.error error)

structure Session where
  log : Log.State
  limits : Limits
  store : Store

namespace Session

/-- A session with a log that has not been set up and an empty store. -/
def fresh : Session := ⟨.fresh, {}, .empty⟩

def read (session : Session) (raw : Text) : Except Defect Template × Text :=
  let result := Template.ofText raw
  (result, session.log.outputAll (Defect.records raw result))

def validate (session : Session) (datum : Datum) : Except Refusal Bool × Text × Session :=
  let (fetched, _) := session.store.fetch session.limits datum
  let (result, store) := session.store.validate session.limits datum
  (result, session.log.outputAll (Refusal.records fetched), { session with store := store })

/-- Reads a catalog from a text, of which a loader makes a document. -/
def load {Fault : Type} (loader : Text → Except Fault Document) (session : Session) (text : Text) :
    Except (Catalog.LoadError Fault) Catalog × Text :=
  let result := Catalog.ofText loader text
  (result, session.log.outputAll (Catalog.LoadError.records result))

/-- Logs a message through the logger of a given name; the result is the level from which on
that logger passes records. -/
def logMessage (session : Session) (site : Log.Site) (name : Text) (level : Int)
    (message : Text) : Int × Text × Session :=
  let log := session.log.acquire name
  (log.effectiveLevel name, log.output (.ofMessage site (Log.loggerName name) level message),
    { session with log := log })

end Session

end UriTemplate
