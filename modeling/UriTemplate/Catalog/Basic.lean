import UriTemplate.Store.Basic

/-!
Catalogs: templates under names.

Names keep the order in which they were given, and giving a name again replaces
its template.  Only texts are names, so any other datum names no template.
-/

namespace UriTemplate

/-- Templates under distinct names, in order. -/
structure Catalog where
  entries : Bindings Template

/-- Why a catalog gives no template. -/
inductive LookupError where
  | unkeyable (kind : String)
  | unknown (name : Text) (known : List Text)
deriving DecidableEq, Repr

def Text.bracketed (texts : List Text) : Text :=
  Text.concat ["[", Text.listed (texts.map Text.quoted), "]"]

/-- The wording of a failed look-up; the known names are listed in ascending order. -/
def LookupError.message : LookupError → Text
  | .unkeyable kind => Text.concat ["unhashable type: '", kind, "'"]
  | .unknown name known =>
      Text.concat ["Unknown template '", name, "'. Known templates: ",
        Text.bracketed (Text.sort known)]

namespace Catalog

/-- Why a name has no expansion. -/
inductive ExpandError where
  | notFound (error : LookupError)
  | badValue (error : ValueError)
deriving DecidableEq, Repr

/-- The catalog of templates given one after the other. -/
def ofList (entries : List (Text × Template)) : Catalog :=
  ⟨Bindings.ofList entries⟩

def names (catalog : Catalog) : List Text :=
  catalog.entries.names

def size (catalog : Catalog) : Nat :=
  catalog.entries.length

def shown (catalog : Catalog) : Text :=
  Text.concat ["TemplateCatalog(", Text.bracketed catalog.names, ")"]

def find? (catalog : Catalog) : Datum → Option Template
  | .text name => catalog.entries.find? name
  | _ => none

def contains (catalog : Catalog) (name : Datum) : Except LookupError Bool :=
  match name.unkeyable? with
  | some kind => .error (.unkeyable kind)
  | none => .ok (catalog.find? name).isSome

def get (catalog : Catalog) (name : Datum) : Except LookupError Template :=
  match name.unkeyable? with
  | some kind => .error (.unkeyable kind)
  | none =>
      match catalog.find? name with
      | some template => .ok template
      | none => .error (.unknown name.asText catalog.names)

/-- Expands the template that a catalog gives under a name. -/
def expand (catalog : Catalog) (name : Datum) (bindings overriding : Bindings Datum) :
    Except ExpandError Text :=
  match catalog.get name with
  | .error error => .error (.notFound error)
  | .ok template =>
      match template.expand bindings overriding with
      | .ok text => .ok text
      | .error error => .error (.badValue error)

end Catalog

end UriTemplate
