import UriTemplate.Expansion.Basic

/-!
A bounded store of templates that have been read.

A template that has been asked for recently is not read again.  The store keeps
the templates in the order of their last use and counts how often a look-up found
one.  Its limits may change at any time; only storing another template makes room.
-/

namespace UriTemplate

/-- How many templates may be kept, and whether any are. -/
structure Limits where
  maxsize : Int := 256
  enabled : Bool := true
deriving DecidableEq, Repr

/-- The number of templates that may be kept; none if the number is negative. -/
def Limits.capacity (limits : Limits) : Nat :=
  if limits.enabled then limits.maxsize.toNat else 0

/-- The kept templates, the least recently used first, and the counts of look-ups. -/
structure Store where
  templates : List Template
  hits : Nat
  misses : Nat

inductive Refusal where
  | unkeyable (kind : String)
  | notText (kind : String)
  | defective (raw : Text) (defect : Defect)
deriving DecidableEq, Repr

def Refusal.message : Refusal → Text
  | .unkeyable kind => Text.concat ["unhashable type: '", kind, "'"]
  | .notText kind => Text.concat ["Template must be a str, got ", kind]
  | .defective _ defect => defect.report.message

def Template.ofDatum : Datum → Except Refusal Template
  | .text raw =>
      match Template.ofText raw with
      | .ok template => .ok template
      | .error defect => .error (.defective raw defect)
  | datum => .error (.notText datum.kind)

namespace Store

def empty : Store := ⟨[], 0, 0⟩

/-- The texts of the kept templates, the least recently used first. -/
def raws (store : Store) : List Text :=
  store.templates.map Template.raw

def find? (store : Store) : Datum → Option Template
  | .text raw => store.templates.find? fun template => template.raw == raw
  | _ => none

/-- The templates with one of them moved to the end. -/
def touch (template : Template) (templates : List Template) : List Template :=
  templates.filter (fun other => other.raw != template.raw) ++ [template]

/-- The most recent templates, as many as may be kept. -/
def trim (capacity : Nat) (templates : List Template) : List Template :=
  templates.drop (templates.length - capacity)

/-- Looks a datum up and reads it if it is not kept. -/
def fetch (limits : Limits) (store : Store) (datum : Datum) :
    Except Refusal Template × Store :=
  if limits.capacity = 0 then (Template.ofDatum datum, store)
  else
    match datum.unkeyable? with
    | some kind => (.error (.unkeyable kind), store)
    | none =>
        match store.find? datum with
        | some template =>
            (.ok template,
              { store with
                templates := touch template store.templates
                hits := store.hits + 1 })
        | none =>
            match Template.ofDatum datum with
            | .error refusal => (.error refusal, { store with misses := store.misses + 1 })
            | .ok template =>
                (.ok template,
                  { store with
                    templates := trim limits.capacity (touch template store.templates)
                    misses := store.misses + 1 })

/-- Whether a datum is a template; a datum that is no text is refused. -/
def validate (limits : Limits) (store : Store) (datum : Datum) :
    Except Refusal Bool × Store :=
  match store.fetch limits datum with
  | (.ok _, after) => (.ok true, after)
  | (.error (.defective _ _), after) => (.ok false, after)
  | (.error refusal, after) => (.error refusal, after)

def variableNames (limits : Limits) (store : Store) (datum : Datum) :
    Except Refusal (List Text) × Store :=
  match store.fetch limits datum with
  | (.ok template, after) => (.ok template.variableNames, after)
  | (.error refusal, after) => (.error refusal, after)

/-- Why a datum has no expansion. -/
inductive ExpandError where
  | refused (refusal : Refusal)
  | badValue (error : ValueError)
deriving DecidableEq, Repr

def expand (limits : Limits) (store : Store) (datum : Datum)
    (bindings overriding : Bindings Datum) : Except ExpandError Text × Store :=
  match store.fetch limits datum with
  | (.error refusal, after) => (.error (.refused refusal), after)
  | (.ok template, after) =>
      match template.expand bindings overriding with
      | .ok text => (.ok text, after)
      | .error error => (.error (.badValue error), after)

end Store

end UriTemplate
