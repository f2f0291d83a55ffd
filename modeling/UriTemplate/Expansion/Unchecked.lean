import UriTemplate.Expansion.Basic

/-!
Expansion of parts that nobody has checked.

Callers may pass sequences whose members are no components and bind names to data
that are no values.  Such a breach is reported where it is met first, going
through the parts and their variables from left to right; null and values without
content are passed over.
-/

namespace UriTemplate

/-- A member of a sequence that should consist of components. -/
inductive Part where
  | component (known : Component)
  | foreign (datum : Datum)

/-- Why unchecked parts have no expansion. -/
inductive Breach where
  | unknownComponent (kind : String)
  | unsupportedValue (name : Text) (kind : String)
deriving DecidableEq, Repr

def Breach.report (breach : Breach) : Report where
  category := .expansion
  detail :=
    match breach with
    | .unknownComponent kind => Text.concat ["Unknown template component: ", kind]
    | .unsupportedValue name kind => Text.concat ["Unsupported value for '", name, "': ", kind]
  fragment := none
  position := none

namespace Bindings

def values (bindings : Bindings Datum) : Environment :=
  fun name =>
    match bindings.find? name with
    | some (.shaped value) => some value
    | _ => none

end Bindings

/-- Checks that a variable is bound to a value, to null or to nothing. -/
def VarSpec.check (bindings : Bindings Datum) (spec : VarSpec) : Except Breach Unit :=
  match bindings.find? spec.name with
  | none => .ok ()
  | some .null => .ok ()
  | some (.shaped _) => .ok ()
  | some datum => .error (.unsupportedValue spec.name datum.kind)

def Expression.expandUnchecked (bindings : Bindings Datum) (expression : Expression) :
    Except Breach Text := do
  expression.specs.forM (VarSpec.check bindings)
  return expression.expand bindings.values

def Part.expand (bindings : Bindings Datum) : Part → Except Breach Text
  | .component (.literal run) => .ok run
  | .component (.expression parsed) => parsed.expandUnchecked bindings
  | .foreign datum => .error (.unknownComponent datum.kind)

def Part.expandAll (bindings : Bindings Datum) (parts : List Part) : Except Breach Text := do
  return (← parts.mapM (Part.expand bindings)).flatten

end UriTemplate
