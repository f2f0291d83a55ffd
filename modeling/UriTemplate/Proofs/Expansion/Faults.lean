import UriTemplate.Proofs.Expansion.Streaming
import UriTemplate.Proofs.Text.Surrogates

/-!
Expansion with everything in it that can go wrong.

A guarded expansion takes nothing for granted: what a name is bound to may be no
value, a text may hold surrogates and then has no encoded form, and a part may be
no component.  The first fault that is met ends it.  On bindings of data it is the
unchecked expansion (`expandParts_contents`), and on what coercion gives it never
meets a fault, so that only coercion can fail: `Template.expandGuarded_fails_iff`.
What coercion gives consists of characters, and so does whatever part of it a
variable is truncated to.
-/

namespace UriTemplate

namespace Guarded

/-- What a name is bound to: texts in one of three shapes, or something that is no value. -/
inductive Content where
  | text (whole : Text)
  | list (items : List Text)
  | assoc (pairs : List (Text × Text))
  | foreign (kind : String)

/-- Why an expansion ends. -/
inductive Fault where
  | value (error : ValueError)
  /-- Something is no component, or no value. -/
  | breach (breach : Breach)
  /-- A text has no encoded form. -/
  | surrogates (run : Percent.SurrogateRun)

def Content.ofValue : Value → Content
  | .text chars => .text (Text.ofChars chars)
  | .list items => .list (items.map Text.ofChars)
  | .assoc entries =>
      .assoc (entries.pairs.map fun pair => (Text.ofChars pair.1, Text.ofChars pair.2))

/-- What a datum is to an expansion; null is nothing. -/
def Content.ofDatum? : Datum → Option Content
  | .null => none
  | .shaped value => some (.ofValue value)
  | datum => some (.foreign datum.kind)

def contents (bindings : Bindings Datum) (name : Text) : Option Content :=
  (bindings.find? name).bind Content.ofDatum?

def encode (operator : Operator) (text : Text) : Except Fault Text :=
  (Percent.encodeText operator.allowsReserved text).mapError .surrogates

def encodePair (operator : Operator) (pair : Text × Text) : Except Fault (Text × Text) := do
  let key ← encode operator pair.1
  let value ← encode operator pair.2
  return (key, value)

def truncated (spec : VarSpec) (whole : Text) : Text :=
  match spec.maxLength? with
  | some length => whole.take length
  | none => whole

def textFragment (operator : Operator) (spec : VarSpec) (whole : Text) : Except Fault Text := do
  let kept := truncated spec whole
  let encoded ← encode operator kept
  if operator.isNamed && kept.isEmpty then
    return if operator.marksEmptyValues then spec.labelled [] else spec.name
  else
    return spec.withName operator encoded

def listFragment (operator : Operator) (spec : VarSpec) (items : List Text) :
    Except Fault Text := do
  let parts ← items.mapM (encode operator)
  if spec.isExploded then
    return List.intercalate operator.separator (parts.map (spec.withName operator))
  else
    return spec.withName operator (List.intercalate [.scalar ','] parts)

def assocFragment (operator : Operator) (spec : VarSpec) (pairs : List (Text × Text)) :
    Except Fault Text := do
  let parts ← pairs.mapM (encodePair operator)
  if spec.isExploded then
    return List.intercalate operator.separator (parts.map VarSpec.assignment)
  else
    return spec.withName operator
      (List.intercalate [.scalar ','] (parts.flatMap fun pair => [pair.1, pair.2]))

/-- The fragment that a variable contributes; empty lists are passed over like what is unbound. -/
def fragment? (operator : Operator) (environment : Text → Option Content) (spec : VarSpec) :
    Except Fault (Option Text) :=
  match environment spec.name with
  | none => .ok none
  | some (.foreign kind) => .error (.breach (.unsupportedValue spec.name kind))
  | some (.text whole) => (textFragment operator spec whole).map some
  | some (.list items) =>
      if items.isEmpty then .ok none else (listFragment operator spec items).map some
  | some (.assoc pairs) =>
      if pairs.isEmpty then .ok none else (assocFragment operator spec pairs).map some

def expand (environment : Text → Option Content) (parsed : Expression) : Except Fault Text := do
  let fragments ← parsed.specs.mapM (fragment? parsed.operator environment)
  return Streaming.joined parsed.operator (fragments.filterMap id)

def expandPart (environment : Text → Option Content) : Part → Except Fault Text
  | .component (.literal run) => .ok run
  | .component (.expression parsed) => expand environment parsed
  | .foreign datum => .error (.breach (.unknownComponent datum.kind))

def expandParts (environment : Text → Option Content) (parts : List Part) :
    Except Fault Text := do
  return (← parts.mapM (expandPart environment)).flatten

-- The checks can fail: a surrogate that nobody has kept out, behind a variable that is truncated.
example : expand (fun _ => some (.text [.surrogate 5, .scalar 'a']))
    ⟨.query, [⟨"x", .truncate ⟨1, by decide, by decide⟩⟩], by simp⟩ =
      .error (.surrogates ⟨.surrogate 5, 0, 1⟩) := by rfl

/-! ## Values have no faults -/

theorem encode_ofChars (operator : Operator) (chars : List Char) :
    encode operator (Text.ofChars chars) = .ok (VarSpec.encoded operator chars) := by
  rw [encode, Percent.encodeText, Text.scalars?_ofChars]
  rfl

theorem truncated_ofChars (spec : VarSpec) (chars : List Char) :
    truncated spec (Text.ofChars chars) = Text.ofChars (spec.truncated chars) := by
  rw [truncated, VarSpec.truncated]
  cases spec.maxLength? with
  | none => rfl
  | some length => exact List.map_take.symm

theorem textFragment_ofChars (operator : Operator) (spec : VarSpec) (chars : List Char) :
    textFragment operator spec (Text.ofChars chars) =
      .ok (spec.textFragment operator chars) := by
  have sameEmpty : (Text.ofChars (spec.truncated chars)).isEmpty =
      (spec.truncated chars).isEmpty := List.isEmpty_map
  rw [textFragment, VarSpec.textFragment, truncated_ofChars, encode_ofChars, sameEmpty]
  dsimp only [Outcome.ok_bind]
  split <;> rfl

theorem listFragment_ofChars (operator : Operator) (spec : VarSpec) (items : List (List Char)) :
    listFragment operator spec (items.map Text.ofChars) =
      .ok (spec.listFragment operator items) := by
  have encodes : (items.map Text.ofChars).mapM (encode operator) =
      .ok (items.map (VarSpec.encoded operator)) := by
    rw [List.mapM_map]
    exact Outcome.mapM_eq_ok fun item _ => encode_ofChars operator item
  rw [listFragment, VarSpec.listFragment, encodes]
  dsimp only [Outcome.ok_bind]
  split <;> rfl

theorem assocFragment_ofChars (operator : Operator) (spec : VarSpec)
    (pairs : List (List Char × List Char)) :
    assocFragment operator spec
        (pairs.map fun pair => (Text.ofChars pair.1, Text.ofChars pair.2)) =
      .ok (spec.assocFragment operator pairs) := by
  have encodes :
      (pairs.map fun pair => (Text.ofChars pair.1, Text.ofChars pair.2)).mapM
          (encodePair operator) =
        .ok (pairs.map fun pair =>
          (VarSpec.encoded operator pair.1, VarSpec.encoded operator pair.2)) := by
    rw [List.mapM_map]
    refine Outcome.mapM_eq_ok fun pair _ => ?_
    simp only [Function.comp_apply, encodePair, encode_ofChars]
    rfl
  rw [assocFragment, VarSpec.assocFragment, encodes]
  dsimp only [Outcome.ok_bind]
  split <;> rfl

/-- A variable is checked first, and then nothing about it can be wrong. -/
theorem fragment?_contents (operator : Operator) (bindings : Bindings Datum) (spec : VarSpec) :
    fragment? operator (contents bindings) spec = do
      (spec.check bindings).mapError Fault.breach
      return spec.fragment? operator bindings.values := by
  rw [fragment?, contents, VarSpec.check, VarSpec.fragment?, Bindings.values]
  cases bindings.find? spec.name with
  | none => rfl
  | some datum =>
      -- Null is passed over and other data fail the check: only a value is rendered.
      cases datum with
      | shaped value =>
          cases value with
          | text chars =>
              simp only [Option.bind_some, Content.ofDatum?, Content.ofValue,
                textFragment_ofChars]
              rfl
          | list items =>
              simp only [Option.bind_some, Content.ofDatum?, Content.ofValue,
                listFragment_ofChars, Value.isDefined, List.isEmpty_map]
              by_cases empty : items.isEmpty = true <;> simp only [empty] <;> rfl
          | assoc entries =>
              simp only [Option.bind_some, Content.ofDatum?, Content.ofValue,
                assocFragment_ofChars, Value.isDefined, List.isEmpty_map, VarSpec.fragment]
              by_cases empty : entries.pairs.isEmpty = true <;> simp only [empty] <;> rfl
      | _ => rfl

theorem expand_contents (bindings : Bindings Datum) (parsed : Expression) :
    expand (contents bindings) parsed =
      (parsed.expandUnchecked bindings).mapError Fault.breach := by
  have fragments : parsed.specs.mapM (fragment? parsed.operator (contents bindings)) = do
      (parsed.specs.forM (VarSpec.check bindings)).mapError Fault.breach
      return parsed.specs.map (VarSpec.fragment? parsed.operator bindings.values) := by
    rw [Outcome.mapError_forM, ← Outcome.mapM_check]
    exact congrArg parsed.specs.mapM (funext (fragment?_contents parsed.operator bindings))
  have joins : Streaming.joined parsed.operator
      ((parsed.specs.map (VarSpec.fragment? parsed.operator bindings.values)).filterMap id) =
      parsed.expand bindings.values := by
    rw [List.filterMap_map]
    rfl
  rw [expand, fragments, Expression.expandUnchecked, Outcome.mapError_bind, ← joins]
  cases (parsed.specs.forM (VarSpec.check bindings)).mapError Fault.breach <;> rfl

theorem expandPart_contents (bindings : Bindings Datum) (part : Part) :
    expandPart (contents bindings) part = (part.expand bindings).mapError Fault.breach := by
  rcases part with (run | parsed) | datum
  · rfl
  · exact expand_contents bindings parsed
  · rfl

/-- On bindings of data, the guarded expansion is the unchecked one. -/
theorem expandParts_contents (bindings : Bindings Datum) (parts : List Part) :
    expandParts (contents bindings) parts =
      (Part.expandAll bindings parts).mapError Fault.breach := by
  have each : parts.mapM (expandPart (contents bindings)) =
      (parts.mapM (Part.expand bindings)).mapError Fault.breach := by
    rw [Outcome.mapError_mapM]
    exact congrArg parts.mapM (funext (expandPart_contents bindings))
  rw [expandParts, each, Part.expandAll, Outcome.mapError_bind]
  rfl

end Guarded

namespace Template

open Guarded

/-- Expands a template with data bound to names, and with all checks on the way. -/
def expandGuarded (template : Template) (bindings overriding : Bindings Datum) :
    Except Fault Text := do
  let values ← (coerce (bindings.overlay overriding)).mapError Fault.value
  expandParts (contents (values.map fun entry => (entry.1, .shaped entry.2)))
    (template.components.map Part.component)

theorem expandAll_shaped (values : Bindings Value) (components : List Component) :
    Part.expandAll (values.map fun entry => (entry.1, .shaped entry.2))
        (components.map Part.component) =
      .ok (Component.expandAll values.environment components) := by
  have sameBindings : (values.map fun entry => (entry.1, Datum.shaped entry.2)) =
      Streaming.given (values.map fun entry => (entry.1, some entry.2)) := by
    rw [Streaming.given, List.map_map]
    rfl
  have sameValues : (fun name => ((Bindings.find? name
      (values.map fun entry => (entry.1, some entry.2))).join)) = values.environment := by
    funext name
    rw [Bindings.find?_map, Bindings.environment]
    cases values.find? name <;> rfl
  rw [sameBindings, Streaming.expandAll_given, Streaming.values_given, sameValues]

/-- Once coercion has succeeded, no check fails. -/
theorem expandGuarded_eq (template : Template) (bindings overriding : Bindings Datum) :
    template.expandGuarded bindings overriding =
      (template.expand bindings overriding).mapError Fault.value := by
  rw [expandGuarded, expand]
  cases coerce (bindings.overlay overriding) with
  | error error => rfl
  | ok values =>
      rw [Outcome.mapError_ok, Outcome.ok_bind, expandParts_contents, expandAll_shaped]
      rfl

theorem expand_eq_error_iff (template : Template) (bindings overriding : Bindings Datum)
    (error : ValueError) :
    template.expand bindings overriding = .error error ↔
      coerce (bindings.overlay overriding) = .error error := by
  rw [expand, Outcome.bind_eq_error_iff]
  simp

/-- An expansion fails exactly where coercion does, and as it does: no part is met that is no
component, no bound datum that is no value and no text that has no encoded form.  So the template
does not matter for whether and how an expansion fails. -/
theorem expandGuarded_fails_iff (template : Template) (bindings overriding : Bindings Datum) :
    (∀ fault, template.expandGuarded bindings overriding = .error fault ↔
      ∃ error, coerce (bindings.overlay overriding) = .error error ∧ fault = .value error) ∧
    (∀ text, template.expandGuarded bindings overriding = .ok text ↔
      template.expand bindings overriding = .ok text) ∧
    (∀ error, template.expand bindings overriding = .error error ↔
      coerce (bindings.overlay overriding) = .error error) ∧
    ∀ other : Template,
      (∃ text otherText, template.expand bindings overriding = .ok text ∧
        other.expand bindings overriding = .ok otherText) ∨
      ∃ error, template.expand bindings overriding = .error error ∧
        other.expand bindings overriding = .error error := by
  refine ⟨?_, ?_, template.expand_eq_error_iff bindings overriding, ?_⟩
  · intro fault
    simp only [← template.expand_eq_error_iff]
    rw [expandGuarded_eq]
    cases template.expand bindings overriding with
    | ok text => simp
    | error error => simp [eq_comm]
  · intro text
    rw [expandGuarded_eq]
    cases template.expand bindings overriding <;> simp
  · intro other
    cases coerced : coerce (bindings.overlay overriding) with
    | ok values =>
        refine Or.inl ⟨Component.expandAll values.environment template.components,
          Component.expandAll values.environment other.components, ?_, ?_⟩
        · rw [expand, coerced]
          rfl
        · rw [expand, coerced]
          rfl
    | error error =>
        exact Or.inr ⟨error, (template.expand_eq_error_iff _ _ _).mpr coerced,
          (other.expand_eq_error_iff _ _ _).mpr coerced⟩

end Template

end UriTemplate
