import UriTemplate.Template.Operator

/-!
The components of a template and their written form.

A template is a sequence of literals and expressions.  An expression has an
operator and at least one variable; a variable has a name and may be truncated to
a number of code points or spread over its items.  Names and literals are not
restricted here: which of them a template can hold is a matter of reading.
-/

namespace UriTemplate

/-- The number of code points that a variable may be truncated to. -/
structure MaxLength where
  count : Nat
  positive : 1 ≤ count
  bounded : count ≤ 9999
deriving DecidableEq, Repr

/-- The permitted length that a number denotes. -/
def MaxLength.ofNat? (count : Nat) : Option MaxLength :=
  if bounds : 1 ≤ count ∧ count ≤ 9999 then some ⟨count, bounds.1, bounds.2⟩ else none

/-- How much of its value a variable contributes, and in which form. -/
inductive Modifier where
  | plain
  | truncate (length : MaxLength)
  | explode
deriving DecidableEq, Repr

def Modifier.source : Modifier → Text
  | .plain => []
  | .truncate length => .scalar ':' :: Text.ofNat length.count
  | .explode => [.scalar '*']

structure VarSpec where
  name : Text
  modifier : Modifier
deriving DecidableEq, Repr

namespace VarSpec

def source (spec : VarSpec) : Text :=
  spec.name ++ spec.modifier.source

/-- Whether the items of the value are spread. -/
def isExploded (spec : VarSpec) : Bool :=
  match spec.modifier with
  | .explode => true
  | _ => false

def maxLength? (spec : VarSpec) : Option Nat :=
  match spec.modifier with
  | .truncate length => some length.count
  | _ => none

end VarSpec

structure Expression where
  operator : Operator
  specs : List VarSpec
  specs_ne_nil : specs ≠ []
deriving DecidableEq, Repr

namespace Expression

def ofSpecs? (operator : Operator) (specs : List VarSpec) : Option Expression :=
  if nonempty : specs ≠ [] then some ⟨operator, specs, nonempty⟩ else none

def source (expression : Expression) : Text :=
  .scalar '{' ::
    (expression.operator.glyph ++
      List.intercalate [.scalar ','] (expression.specs.map VarSpec.source) ++ [.scalar '}'])

end Expression

inductive Component where
  | literal (run : Text)
  | expression (parsed : Expression)
deriving DecidableEq, Repr

namespace Component

def source : Component → Text
  | .literal run => run
  | .expression parsed => parsed.source

def names : Component → List Text
  | .literal _ => []
  | .expression parsed => parsed.specs.map VarSpec.name

def isExpression : Component → Bool
  | .literal _ => false
  | .expression _ => true

end Component

/-- Why a component cannot be built from its parts. -/
inductive ComponentError where
  | lengthOutOfRange (length : Int)
  | noVariables
deriving DecidableEq, Repr

namespace ComponentError

def message : ComponentError → Text
  | .lengthOutOfRange length =>
      Text.concat ["Prefix length must be in [1, 9999], got ", Text.ofInt length]
  | .noVariables => "Expression requires at least one variable spec"

end ComponentError

def Modifier.truncateTo (length : Int) : Except ComponentError Modifier :=
  match length with
  | .ofNat count =>
      match MaxLength.ofNat? count with
      | some permitted => .ok (.truncate permitted)
      | none => .error (.lengthOutOfRange length)
  | .negSucc _ => .error (.lengthOutOfRange length)

def Expression.ofSpecs (operator : Operator) (specs : List VarSpec) :
    Except ComponentError Expression :=
  match Expression.ofSpecs? operator specs with
  | some expression => .ok expression
  | none => .error .noVariables

end UriTemplate
