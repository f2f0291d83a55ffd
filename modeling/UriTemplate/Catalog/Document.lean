import UriTemplate.Catalog.Basic
import UriTemplate.Value.Document

/-!
Catalogs from documents.

A document is empty or a mapping with at most the keys `base` and `templates`.
The base is put before every template, and the templates are a mapping of names to
texts.  Names are the texts of keys of any kind, so two different keys may give
one name, which is refused.
-/

namespace UriTemplate

/-- Why a document gives no catalog. -/
inductive DocumentError where
  | notMapping
  | unrecognizedKeys (keys : List Text)
  | baseNotText
  | templatesNotMapping
  | duplicateName (name : Text)
  | templateNotText (name : Text) (datum : Datum)
  /-- A name or a message needs an integer with too many digits. -/
  | tooManyDigits
  | defective (name raw : Text) (defect : Defect)

namespace DocumentError

/-- The report of a defective template, which says under which name it stands. -/
def defectReport (name : Text) (defect : Defect) : Report :=
  { defect.report with detail := Text.concat ["template '", name, "': ", defect.detail] }

def message : DocumentError → Text
  | .notMapping => "The provided YAML must map to a dictionary at top-level."
  | .unrecognizedKeys keys =>
      Text.concat ["Unrecognized top-level key(s) in catalog: ",
        Text.listed (Text.sort keys), ". Allowed keys are ['base', 'templates']"]
  | .baseNotText => "'base' must be a string"
  | .templatesNotMapping => "'templates' must be a mapping of names to template strings"
  | .duplicateName name => Text.concat ["Duplicate template name '", name, "' in catalog"]
  | .templateNotText name datum =>
      Text.concat ["Template '", name, "' must be a string, got ", datum.shown]
  | .tooManyDigits => Datum.tooManyDigits
  | .defective name _ defect => (defectReport name defect).message

end DocumentError

namespace Catalog

def recognizedKeys : List Text := ["base", "templates"]

def valueAt? (key : Text) : List (Datum × Item) → Option Item
  | [] => none
  | (.text other, value) :: rest => if other = key then some value else valueAt? key rest
  | _ :: rest => valueAt? key rest

def nameOf (key : Datum) : Except DocumentError Text :=
  if key.isDisplayable then .ok key.asText else .error .tooManyDigits

/-- The names of a document that it may not have, each once. -/
def unrecognized (names : List Text) : List Text :=
  (names.filter fun name => !recognizedKeys.contains name).eraseDups

def baseOf (entries : List (Datum × Item)) : Except DocumentError Text :=
  match valueAt? "base" entries with
  | none => .ok []
  | some (.plain .null) => .ok []
  | some (.plain (.text base)) => .ok base
  | some _ => .error .baseNotText

def templateEntries (document : Document) (entries : List (Datum × Item)) :
    Except DocumentError (List (Datum × Datum)) :=
  match valueAt? "templates" entries with
  | none => .ok []
  | some (.plain .null) => .ok []
  | some item =>
      match document.entries? item with
      | some templates => .ok (templates.map fun entry => (entry.1, document.datum entry.2))
      | none => .error .templatesNotMapping

/-- The template that a datum gives under a name, given the names that are taken. -/
def readNamed (base : Text) (taken : List Text) (name : Text) (datum : Datum) :
    Except DocumentError (Text × Template) :=
  if name ∈ taken then .error (.duplicateName name)
  else
    match datum with
    | .text raw =>
        match Template.ofText (base ++ raw) with
        | .ok template => .ok (name, template)
        | .error defect => .error (.defective name (base ++ raw) defect)
    | datum =>
        if datum.isDisplayable then .error (.templateNotText name datum)
        else .error .tooManyDigits

def readEntry (base : Text) (taken : List Text) (entry : Datum × Datum) :
    Except DocumentError (Text × Template) := do
  readNamed base taken (← nameOf entry.1) entry.2

def readEntries (base : Text) (taken : List Text) :
    List (Datum × Datum) → Except DocumentError (Bindings Template)
  | [] => .ok []
  | entry :: rest => do
      let named ← readEntry base taken entry
      let others ← readEntries base (named.1 :: taken) rest
      return named :: others

def topEntries (document : Document) : Except DocumentError (List (Datum × Item)) :=
  match document.root with
  | .plain .null => .ok []
  | item =>
      match document.entries? item with
      | some entries => .ok entries
      | none => .error .notMapping

def ofDocument (document : Document) : Except DocumentError Catalog := do
  let entries ← topEntries document
  let names ← entries.mapM fun entry => nameOf entry.1
  if (unrecognized names).isEmpty then
    let base ← baseOf entries
    let templates ← templateEntries document entries
    return ⟨← readEntries base [] templates⟩
  else
    throw (.unrecognizedKeys (unrecognized names))

/-- Why a text gives no catalog: no document is loaded from it, or the document gives none. -/
inductive LoadError (Fault : Type) where
  | malformed (fault : Fault)
  | refused (error : DocumentError)

/-- The catalog of a text, of which a loader makes a document. -/
def ofText {Fault : Type} (loader : Text → Except Fault Document) (text : Text) :
    Except (LoadError Fault) Catalog := do
  let document ← (loader text).mapError .malformed
  (ofDocument document).mapError .refused

end Catalog

end UriTemplate
