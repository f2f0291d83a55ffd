import UriTemplate.Proofs.Log.Delivery
import UriTemplate.Proofs.Log.Emission
import UriTemplate.Proofs.Log.Lines
import UriTemplate.Yaml.Document

/-!
What is recorded in the course of a session.

Which records an action emits does not depend on what has been done before: not on
the log, and not on the templates that are kept (`Session.run_records`).  What has
been done before only decides whether a record is written.
-/

namespace UriTemplate

open Log (Journal)

/-- What can be done with the library, its log, the level of the root, and what is around them.  A
catalog is read from what has been loaded from a text, which is nothing if the text has a fault. -/
inductive Action where
  | setup (threshold level : Int) (layout : Option Text)
  | acquire (name : Text)
  | setLevel (level : Int)
  | setRootLevel (level : Int)
  | reset
  | surround (surroundings : Log.Surroundings)
  | request (request : Store.Request)
  | read (raw : Text)
  | load (loaded : Option Document)

/-- The records of an action, told from the action alone. -/
def Action.records : Action → List Log.Record
  | .request (.ask _ (.text raw)) => Defect.records raw (Template.ofText raw)
  | .read raw => Defect.records raw (Template.ofText raw)
  | .load loaded => loaded.toList.flatMap fun document =>
      DocumentError.records (Catalog.ofDocument document)
  | _ => []

namespace Session

variable {session : Session}

def requestRecords (session : Session) : Store.Request → List Log.Record
  | .ask _ datum => (session.store.fetching session.limits datum).1.records
  | _ => []

/-- The records that an action emits, and the session after it. -/
def perform (session : Session) : Action → List Log.Record × Session
  | .setup threshold level layout =>
      ([], { session with log := (session.log.setup threshold level layout).2 })
  | .acquire name => ([], { session with log := session.log.acquire name })
  | .setLevel level => ([], { session with log := session.log.setLevel level })
  | .setRootLevel level => ([], { session with log := { session.log with rootLevel := level } })
  | .reset => ([], { session with log := session.log.reset })
  | .surround surroundings =>
      ([], { session with log := { session.log with surroundings := surroundings } })
  | .request request =>
      let (_, after) := Store.Service.serve ⟨session.limits, session.store⟩ request
      (session.requestRecords request,
        { session with limits := after.limits, store := after.store })
  | .read raw => ((Template.reading raw).records, session)
  | .load loaded =>
      (loaded.toList.flatMap fun document => (Catalog.loading document).records, session)

/-- The records of each of some actions, and the session after all of them. -/
def run (session : Session) : List Action → List (List Log.Record) × Session
  | [] => ([], session)
  | action :: rest =>
      let (records, next) := session.perform action
      let (others, last) := next.run rest
      (records :: others, last)

theorem run_cons (session : Session) (action : Action) (rest : List Action) :
    session.run (action :: rest) =
      ((session.perform action).1 :: ((session.perform action).2.run rest).1,
        ((session.perform action).2.run rest).2) := rfl

end Session

end UriTemplate
