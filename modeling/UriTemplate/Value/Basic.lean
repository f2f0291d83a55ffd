import UriTemplate.Text.Quoted

/-!
The values of variables.

A value is a single text, a list of texts, or an associative list of texts with
distinct keys.  All of its texts consist of characters, so each has an encoded
form.  Lists keep the order in which they were given.
-/

namespace UriTemplate

/-- Pairs of a key and a text, with no key twice. -/
structure AssocList where
  pairs : List (List Char × List Char)
  keys_nodup : (pairs.map Prod.fst).Nodup
deriving DecidableEq, Repr

inductive Value where
  | text (chars : List Char)
  | list (items : List (List Char))
  | assoc (pairs : AssocList)
deriving DecidableEq, Repr

namespace Value

def shape : Value → String
  | .text _ => "Text"
  | .list _ => "ListValue"
  | .assoc _ => "AssocList"

/-- Whether the value counts as defined: an empty list does not, an empty text does. -/
def isDefined : Value → Bool
  | .text _ => true
  | .list items => !items.isEmpty
  | .assoc entries => !entries.pairs.isEmpty

def text? : Value → Option (List Char)
  | .text chars => some chars
  | _ => none

def list? : Value → Option (List (List Char))
  | .list items => some items
  | _ => none

def pairs? : Value → Option (List (List Char × List Char))
  | .assoc entries => some entries.pairs
  | _ => none

/-- Parts between parentheses; a single part is followed by a comma. -/
def parenthesized : List Text → Text
  | [part] => Text.concat ["(", part, ",)"]
  | parts => Text.concat ["(", Text.listed parts, ")"]

def charsShown (chars : List Char) : Text :=
  (Text.ofChars chars).quoted

def pairShown (pair : List Char × List Char) : Text :=
  parenthesized [charsShown pair.1, charsShown pair.2]

def shown : Value → Text
  | .text chars => Text.concat ["Text(value=", charsShown chars, ")"]
  | .list items => Text.concat ["ListValue(items=", parenthesized (items.map charsShown), ")"]
  | .assoc entries =>
      Text.concat ["AssocList(pairs=", parenthesized (entries.pairs.map pairShown), ")"]

end Value

end UriTemplate
