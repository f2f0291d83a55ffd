import UriTemplate.Text.Basic

/-!
What is wrong with a template, and how it is reported.

A `Defect` names the cause and the place.  A `Report` is what a user sees: a
category, a detail, and the fragment and position at fault where they are known.
Positions count code points from the start of the template.
-/

namespace UriTemplate

/-- The categories of reports. -/
inductive Category where
  | general
  | template
  | expression
  | variableName
  | modifier
  | expansion
deriving DecidableEq, Repr

/-- The name of the kind of error that a category stands for. -/
def Category.name : Category → Text
  | .general => "TemplateError"
  | .template => "InvalidTemplate"
  | .expression => "InvalidExpression"
  | .variableName => "InvalidVariableName"
  | .modifier => "InvalidModifier"
  | .expansion => "ExpansionFailed"

def Category.label : Category → Text
  | .general => "URI template error"
  | .template => "Invalid URI template"
  | .expression => "Invalid expression"
  | .variableName => "Invalid variable name"
  | .modifier => "Invalid modifier"
  | .expansion => "Template expansion failed"

structure Report where
  category : Category
  detail : Text
  fragment : Option Text
  position : Option Int
deriving DecidableEq, Repr

def Report.message (report : Report) : Text :=
  Text.concat [report.category.label, ": ", report.detail]

/-- The first defect of a template that cannot be read. -/
inductive Defect where
  /-- An opening brace without a closing one; the fragment reaches to the end. -/
  | unclosed (position : Nat) (fragment : Text)
  /-- A closing brace outside an expression. -/
  | strayClose (position : Nat)
  /-- Nothing between the braces. -/
  | emptyBody (position : Nat)
  /-- An operator without variables. -/
  | noVariables (position : Nat) (body : Text)
  /-- Nothing between two commas; `start` is where the variable should have been. -/
  | emptySpec (position : Nat) (body : Text) (start : Nat)
  /-- A variable that is both truncated and exploded. -/
  | truncatedExplode (start : Nat) (spec : Text)
  /-- A length that is not a number from 1 to 9999. -/
  | badLength (start : Nat) (spec digits : Text)
  /-- A name with characters that no name has. -/
  | badName (start : Nat) (spec name : Text)
deriving DecidableEq, Repr

namespace Defect

def category : Defect → Category
  | .unclosed _ _ => .template
  | .strayClose _ => .template
  | .emptyBody _ => .expression
  | .noVariables _ _ => .expression
  | .emptySpec _ _ _ => .expression
  | .truncatedExplode _ _ => .modifier
  | .badLength _ _ _ => .modifier
  | .badName _ _ _ => .variableName

def detail : Defect → Text
  | .unclosed position _ =>
      Text.concat ["Unclosed expression starting at position ", Text.ofNat position]
  | .strayClose position =>
      Text.concat ["Unexpected '\x7d' at position ", Text.ofNat position]
  | .emptyBody position =>
      Text.concat ["Empty expression at position ", Text.ofNat position]
  | .noVariables position _ =>
      Text.concat ["No variables in expression at position ", Text.ofNat position]
  | .emptySpec position _ _ =>
      Text.concat ["Empty variable spec in expression at position ", Text.ofNat position]
  | .truncatedExplode _ spec =>
      Text.concat ["Prefix and explode cannot be combined: '", spec, "'"]
  | .badLength _ _ digits =>
      Text.concat ["Invalid prefix length: '", digits,
        "' (expected an integer from 1 to 9999)"]
  | .badName _ _ name =>
      Text.concat ["Invalid variable name: '", name, "'"]

def braced (body : Text) : Text :=
  .scalar '{' :: body ++ [.scalar '}']

def fragment : Defect → Text
  | .unclosed _ fragment => fragment
  | .strayClose _ => [.scalar '}']
  | .emptyBody _ => braced []
  | .noVariables _ body => braced body
  | .emptySpec _ body _ => braced body
  | .truncatedExplode _ spec => spec
  | .badLength _ spec _ => spec
  | .badName _ spec _ => spec

def position : Defect → Nat
  | .unclosed position _ => position
  | .strayClose position => position
  | .emptyBody position => position
  | .noVariables position _ => position
  | .emptySpec _ _ start => start
  | .truncatedExplode start _ => start
  | .badLength start _ _ => start
  | .badName start _ _ => start

def report (defect : Defect) : Report where
  category := defect.category
  detail := defect.detail
  fragment := some defect.fragment
  position := some defect.position

end Defect

end UriTemplate
