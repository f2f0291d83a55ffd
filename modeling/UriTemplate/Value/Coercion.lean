import UriTemplate.Value.Building
import UriTemplate.Value.Binding

/-!
Coercion of data to values.

A value stays what it is and null counts as unbound.  Texts and numbers become
texts, lists become lists and mappings become associative lists.  The items of a
list are converted and checked one by one, whereas all keys and values of a
mapping are converted before any of them is checked.
-/

namespace UriTemplate

namespace Datum

def scalarText : Datum → Except ValueError Text
  | .text value => .ok value
  | .integer value =>
      if hasFewDigits value then .ok (Text.ofInt value) else .error .tooManyDigits
  | .real value => .ok (Text.ofString value.written)
  | datum => .error (.unsupported datum.kind)

def itemChars (datum : Datum) : Except ValueError (List Char) := do
  Role.listItem.chars (← datum.scalarText)

/-- The texts of an entry of a mapping, the key first. -/
def entryTexts (entry : Datum × Datum) : Except ValueError (Text × Text) := do
  let key ← entry.1.scalarText
  let value ← entry.2.scalarText
  return (key, value)

/-- The characters of an entry, the key first. -/
def entryChars (entry : Text × Text) : Except ValueError (List Char × List Char) := do
  let key ← Role.key.chars entry.1
  let value ← (Role.valueOf key).chars entry.2
  return (key, value)

/-- The value that a datum denotes; null denotes none. -/
def toValue : Datum → Except ValueError (Option Value)
  | .null => .ok none
  | .shaped value => .ok (some value)
  | .mapping entries => do
      let texts ← entries.mapM entryTexts
      let pairs ← texts.mapM entryChars
      return some (.assoc (← AssocList.ofPairs pairs))
  | .list items => do return some (.list (← items.mapM itemChars))
  | .tuple items => do return some (.list (← items.mapM itemChars))
  | datum => do return some (.text (← Role.textValue.chars (← datum.scalarText)))

end Datum

/-- Coerces bindings in their order; names bound to null are left out. -/
def coerce : Bindings Datum → Except ValueError (Bindings Value)
  | [] => .ok []
  | (name, datum) :: rest => do
      let value ← datum.toValue
      let values ← coerce rest
      return match value with
        | some value => (name, value) :: values
        | none => values

end UriTemplate
