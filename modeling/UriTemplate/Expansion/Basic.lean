import UriTemplate.Template.Basic
import UriTemplate.Percent
import UriTemplate.Value.Coercion

/-!
Expansion of templates.

An expression contributes one fragment for each of its defined variables, with
the separator of its operator between them and the lead of the operator before
the first; without a defined variable it contributes nothing.  Expansion itself
cannot fail: whatever can be wrong with the given data is found by coercion.
-/

namespace UriTemplate

abbrev Environment := Text → Option Value

namespace Bindings

def environment (bindings : Bindings Value) : Environment :=
  fun name => bindings.find? name

end Bindings

namespace VarSpec

def encoded (operator : Operator) (chars : List Char) : Text :=
  Text.ofChars (Percent.encode operator.allowsReserved chars)

/-- A text after the name of its variable and an equals sign. -/
def labelled (spec : VarSpec) (text : Text) : Text :=
  spec.name ++ .scalar '=' :: text

/-- A text, after the name of its variable if the operator is named. -/
def withName (operator : Operator) (spec : VarSpec) (text : Text) : Text :=
  if operator.isNamed then spec.labelled text else text

/-- The part of a text that a variable contributes. -/
def truncated (spec : VarSpec) (chars : List Char) : List Char :=
  match spec.maxLength? with
  | some length => chars.take length
  | none => chars

def textFragment (operator : Operator) (spec : VarSpec) (chars : List Char) : Text :=
  let kept := spec.truncated chars
  if operator.isNamed && kept.isEmpty then
    if operator.marksEmptyValues then spec.labelled [] else spec.name
  else
    spec.withName operator (encoded operator kept)

/-- The fragment of a list: its items spread, or between commas. -/
def listFragment (operator : Operator) (spec : VarSpec) (items : List (List Char)) : Text :=
  let parts := items.map (encoded operator)
  if spec.isExploded then
    List.intercalate operator.separator (parts.map (spec.withName operator))
  else
    spec.withName operator (List.intercalate [.scalar ','] parts)

/-- A pair with an equals sign between key and value. -/
def assignment (pair : Text × Text) : Text :=
  pair.1 ++ .scalar '=' :: pair.2

/-- The fragment of an associative list: its pairs spread, or keys and values between commas. -/
def assocFragment (operator : Operator) (spec : VarSpec)
    (pairs : List (List Char × List Char)) : Text :=
  let parts := pairs.map fun pair => (encoded operator pair.1, encoded operator pair.2)
  if spec.isExploded then
    List.intercalate operator.separator (parts.map assignment)
  else
    spec.withName operator
      (List.intercalate [.scalar ','] (parts.flatMap fun pair => [pair.1, pair.2]))

def fragment (operator : Operator) (spec : VarSpec) : Value → Text
  | .text chars => spec.textFragment operator chars
  | .list items => spec.listFragment operator items
  | .assoc entries => spec.assocFragment operator entries.pairs

/-- The fragment that a variable contributes in an environment, if it is defined there. -/
def fragment? (operator : Operator) (environment : Environment) (spec : VarSpec) :
    Option Text :=
  match environment spec.name with
  | some value => if value.isDefined then some (spec.fragment operator value) else none
  | none => none

end VarSpec

namespace Expression

def expandSpecs (operator : Operator) (environment : Environment) (specs : List VarSpec) :
    Text :=
  match specs.filterMap (VarSpec.fragment? operator environment) with
  | [] => []
  | fragments => operator.lead ++ List.intercalate operator.separator fragments

def expand (environment : Environment) (expression : Expression) : Text :=
  expandSpecs expression.operator environment expression.specs

end Expression

namespace Component

def expand (environment : Environment) : Component → Text
  | .literal run => run
  | .expression parsed => parsed.expand environment

def expandAll (environment : Environment) (components : List Component) : Text :=
  components.flatMap (expand environment)

end Component

namespace Template

/-- Expands a template with data bound to names; overriding bindings replace others. -/
def expand (template : Template) (bindings overriding : Bindings Datum) :
    Except ValueError Text := do
  let values ← coerce (bindings.overlay overriding)
  return Component.expandAll values.environment template.components

end Template

end UriTemplate
