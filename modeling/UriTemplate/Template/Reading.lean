import UriTemplate.Template.Component
import UriTemplate.Template.Defect

/-!
Reading a template.

A template is read from left to right.  Literals are maximal runs without braces.
The body of an expression reaches to the next closing brace; its first code point
is the operator whenever it can be one, and the rest is a list of variables
separated by commas.  The first defect met is the one reported.
-/

namespace UriTemplate

namespace VarSpec

/-- The characters of a name that stand for themselves. -/
def isNameChar (char : Char) : Bool :=
  char.isAlphanum || char == '_' || char == '.'

def isHexDigit (char : Char) : Bool :=
  char.isDigit || ('A' ≤ char && char ≤ 'F') || ('a' ≤ char && char ≤ 'f')

/-- Whether a text is a sequence of name characters and percent-encoded triplets. -/
def isNameSequence : Text → Bool
  | [] => true
  | .scalar '%' :: high :: low :: rest =>
      high.satisfies isHexDigit && low.satisfies isHexDigit && isNameSequence rest
  | point :: rest => point.satisfies isNameChar && isNameSequence rest

def isName (text : Text) : Bool :=
  !text.isEmpty && isNameSequence text

def digitsValue? : Nat → Text → Option Nat
  | value, [] => some value
  | value, .scalar char :: rest =>
      if char.isDigit then digitsValue? (value * 10 + (char.toNat - 0x30)) rest else none
  | _, .surrogate _ :: _ => none

/-- The length that one to four digits denote, if it is positive. -/
def maxLengthOf? (digits : Text) : Option MaxLength :=
  if 1 ≤ digits.length ∧ digits.length ≤ 4 then
    (digitsValue? 0 digits).bind MaxLength.ofNat?
  else
    none

/-- The variable with a given name and modifier, if the name is one. -/
def named (start : Nat) (text name : Text) (modifier : Modifier) : Except Defect VarSpec :=
  if isName name then .ok ⟨name, modifier⟩ else .error (.badName start text name)

def read (start : Nat) (text : Text) : Except Defect VarSpec :=
  if text.getLast? = some (.scalar '*') then
    let name := text.dropLast
    if .scalar ':' ∈ name then .error (.truncatedExplode start text)
    else named start text name .explode
  else
    match text.cut? (.scalar ':') with
    | none => named start text text .plain
    | some (name, digits) =>
        match maxLengthOf? digits with
        | none => .error (.badLength start text digits)
        | some length => named start text name (.truncate length)

/-- Reads variables one after the other, the first of which starts at `start`. -/
def readAll (position : Nat) (body : Text) (start : Nat) :
    List Text → Except Defect (List VarSpec)
  | [] => .ok []
  | candidate :: rest =>
      if candidate.isEmpty then .error (.emptySpec position body start)
      else do
        let spec ← read start candidate
        let specs ← readAll position body (start + candidate.length + 1) rest
        return spec :: specs

end VarSpec

namespace Expression

/-- The operator of a body, and the list of variables after it. -/
def splitOperator : Text → Operator × Text
  | [] => (.simple, [])
  | point :: rest =>
      match Operator.ofGlyph? point with
      | some operator => (operator, rest)
      | none => (.simple, point :: rest)

/-- Reads the body of the expression whose opening brace stands at a given position. -/
def read (position : Nat) (body : Text) : Except Defect Expression :=
  if body.isEmpty then .error (.emptyBody position)
  else
    let (operator, list) := splitOperator body
    if list.isEmpty then .error (.noVariables position body)
    else do
      let specs ← VarSpec.readAll position body (position + 1 + operator.glyph.length)
        (List.splitOn (.scalar ',') list)
      if nonempty : specs ≠ [] then return ⟨operator, specs, nonempty⟩
      else .error (.noVariables position body)

end Expression

namespace Component

def isLiteralPoint (point : CodePoint) : Bool :=
  point ≠ .scalar '{' && point ≠ .scalar '}'

/-- Reads the components of a template of which `position` code points have been read. -/
def readAll (position : Nat) : Text → Except Defect (List Component)
  | [] => .ok []
  | point :: rest =>
      if point = .scalar '}' then .error (.strayClose position)
      else if point = .scalar '{' then
        match closed : Text.cut? (.scalar '}') rest with
        | none => .error (.unclosed position (point :: rest))
        | some (body, after) => do
            have : after.length < rest.length + 1 := by
              have := Text.cut?_length closed
              omega
            let expression ← Expression.read position body
            let components ← readAll (position + body.length + 2) after
            return .expression expression :: components
      else do
        let run := rest.takeWhile isLiteralPoint
        have : (rest.dropWhile isLiteralPoint).length < rest.length + 1 :=
          Nat.lt_succ_of_le (List.dropWhile_suffix isLiteralPoint).length_le
        let components ← readAll (position + run.length + 1) (rest.dropWhile isLiteralPoint)
        return .literal (point :: run) :: components
termination_by text => text.length

end Component

end UriTemplate
