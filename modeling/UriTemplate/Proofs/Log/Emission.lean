import UriTemplate.Log.Session
import UriTemplate.Proofs.Catalog.Rejection
import UriTemplate.Proofs.Log.Journal
import UriTemplate.Proofs.Store.Lookup
import UriTemplate.Proofs.Store.Transparency

/-!
Where records are emitted.

A template that is rejected is recorded where it is read, and a catalog where it is
complete.  All else that is done with templates goes through these two places, and
the records of a session are those that are emitted there.
-/

namespace UriTemplate

open Log (Journal)

namespace Log.Record

end Log.Record

/-! ## Templates -/

/-- Reads a template; a rejection is recorded before it is passed on. -/
def Template.reading (raw : Text) : Journal Defect Template :=
  (Journal.silent (Template.ofText raw)).rescue fun defect => do
    .emit (.rejection raw defect)
    .fail defect

def Template.making : Datum → Journal Refusal Template
  | .text raw => (Template.reading raw).mapError (.defective raw)
  | datum => .fail (.notText datum.kind)

namespace Store

/-- Looks a datum up; a template is made, and may be rejected, only if none is kept. -/
def fetching (limits : Limits) (store : Store) (datum : Datum) :
    Journal Refusal Template × Store :=
  if limits.capacity = 0 then (Template.making datum, store)
  else
    match datum.unkeyable? with
    | some kind => (.fail (.unkeyable kind), store)
    | none =>
        match store.find? datum with
        | some template =>
            (pure template,
              { store with
                templates := touch template store.templates
                hits := store.hits + 1 })
        | none =>
            let made := Template.making datum
            match made.outcome with
            | .error _ => (made, { store with misses := store.misses + 1 })
            | .ok template =>
                (made,
                  { store with
                    templates := trim limits.capacity (touch template store.templates)
                    misses := store.misses + 1 })

end Store

/-! ## Catalogs -/

namespace Catalog

def readingNamed (base : Text) (taken : List Text) (name : Text) (datum : Datum) :
    Journal DocumentError (Text × Template) :=
  if taken.contains name then .fail (.duplicateName name)
  else
    match datum with
    | .text raw => do
        let template ← (Template.reading (base ++ raw)).mapError (.defective name (base ++ raw))
        return (name, template)
    | datum =>
        if datum.isDisplayable then .fail (.templateNotText name datum)
        else .fail .tooManyDigits

def readingEntry (base : Text) (taken : List Text) (entry : Datum × Datum) :
    Journal DocumentError (Text × Template) := do
  readingNamed base taken (← .silent (nameOf entry.1)) entry.2

def readingEntries (base : Text) (taken : List Text) :
    List (Datum × Datum) → Journal DocumentError (Bindings Template)
  | [] => pure []
  | entry :: rest => do
      let named ← readingEntry base taken entry
      let others ← readingEntries base (named.1 :: taken) rest
      return named :: others

/-- Reads the catalog of a document; its size is recorded when all templates are read. -/
def loading (document : Document) : Journal DocumentError Catalog := do
  let entries ← .silent (topEntries document)
  let names ← .silent (entries.mapM fun entry => nameOf entry.1)
  if (unrecognized names).isEmpty then
    let base ← .silent (baseOf entries)
    let templates ← .silent (templateEntries document entries)
    let named ← readingEntries base [] templates
    .emit (.loaded named.length)
    return ⟨named⟩
  else
    .fail (.unrecognizedKeys (unrecognized names))

section Outcomes

variable {base : Text} {taken : List Text}

end Outcomes

section Texts

variable {Fault : Type} (loader : Text → Except Fault Document) (text : Text)

end Texts

end Catalog

/-! ## Sessions -/

namespace Session

end Session

end UriTemplate
