import UriTemplate.Template.Reading
import UriTemplate.Text.Quoted

/-!
Templates: texts that have been read.

A template keeps its text beside the components read from it.  Templates are
compared, ordered and shown by their text alone.
-/

namespace UriTemplate

/-- A text together with the components it reads as. -/
structure Template where
  raw : Text
  components : List Component
  reads : Component.readAll 0 raw = .ok components

namespace Template

def ofText (raw : Text) : Except Defect Template :=
  match reads : Component.readAll 0 raw with
  | .ok components => .ok ⟨raw, components, reads⟩
  | .error defect => .error defect

/-- The names of the variables, each once, in the order of first occurrence. -/
def variableNames (template : Template) : List Text :=
  (template.components.flatMap Component.names).eraseDups

def isLiteral (template : Template) : Bool :=
  !template.components.any Component.isExpression

def shown (template : Template) : Text :=
  Text.concat ["Template(raw=", template.raw.quoted, ")"]

instance : BEq Template where
  beq left right := left.raw == right.raw

instance : Ord Template where
  compare left right := compare left.raw right.raw

/-- Templates in ascending order of their texts. -/
def sort (templates : List Template) : List Template :=
  templates.mergeSort fun left right => (compare left right).isLE

end Template

end UriTemplate
