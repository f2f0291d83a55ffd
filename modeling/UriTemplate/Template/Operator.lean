import UriTemplate.Text.Basic

/-!
The operators of an expression.

An operator decides what stands before the first value of an expression, what
stands between values, whether a value is preceded by the name of its variable,
and whether reserved characters of a value stand for themselves.
-/

namespace UriTemplate

/-- The operators, by what they are for. -/
inductive Operator where
  | simple
  | reserved
  | fragment
  | label
  | path
  | parameter
  | query
  | continuation
deriving DecidableEq, Repr

namespace Operator

/-- Every operator, in the order in which they are listed. -/
def all : List Operator :=
  [simple, reserved, fragment, label, path, parameter, query, continuation]

/-- The character that selects the operator; the simple operator has none. -/
def glyph? : Operator → Option Char
  | simple => none
  | reserved => some '+'
  | fragment => some '#'
  | label => some '.'
  | path => some '/'
  | parameter => some ';'
  | query => some '?'
  | continuation => some '&'

def glyph (operator : Operator) : Text :=
  Text.ofChars operator.glyph?.toList

/-- The character before the first value. -/
def lead? : Operator → Option Char
  | simple => none
  | reserved => none
  | fragment => some '#'
  | label => some '.'
  | path => some '/'
  | parameter => some ';'
  | query => some '?'
  | continuation => some '&'

def lead (operator : Operator) : Text :=
  Text.ofChars operator.lead?.toList

/-- The character between two values. -/
def separatorChar : Operator → Char
  | simple => ','
  | reserved => ','
  | fragment => ','
  | label => '.'
  | path => '/'
  | parameter => ';'
  | query => '&'
  | continuation => '&'

def separator (operator : Operator) : Text :=
  [.scalar operator.separatorChar]

/-- Whether a value is preceded by the name of its variable. -/
def isNamed : Operator → Bool
  | parameter => true
  | query => true
  | continuation => true
  | _ => false

/-- Whether reserved characters of a value stand for themselves. -/
def allowsReserved : Operator → Bool
  | reserved => true
  | fragment => true
  | _ => false

/-- Whether the name of an empty value is followed by an equals sign. -/
def marksEmptyValues : Operator → Bool
  | parameter => false
  | _ => true

def ofGlyph? : CodePoint → Option Operator
  | .scalar '+' => some reserved
  | .scalar '#' => some fragment
  | .scalar '.' => some label
  | .scalar '/' => some path
  | .scalar ';' => some parameter
  | .scalar '?' => some query
  | .scalar '&' => some continuation
  | _ => none

def ofText? : Text → Option Operator
  | [point] => ofGlyph? point
  | _ => none

end Operator

end UriTemplate
