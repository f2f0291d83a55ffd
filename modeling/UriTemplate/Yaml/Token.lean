import UriTemplate.Yaml.Fault

/-!
The tokens of a YAML text.

Indentation becomes explicit: every block collection has a token at its start and
one at its end.  A key has a token before it even where the text has only the
colon after it.
-/

namespace UriTemplate.Yaml

/-- A line about the document that follows. -/
inductive Directive where
  | version (major : Nat)
  | handle (handle expansion : List Char)
  | other
deriving DecidableEq, Repr

/-- A written tag: a suffix, after a handle unless the tag is written in full. -/
structure WrittenTag where
  handle : Option (List Char)
  suffix : List Char
deriving DecidableEq, Repr

/-- A token.  The last token of a text is `finish`, or `broken` where no token can be read. -/
inductive Token where
  | directive (content : Directive)
  | documentStart
  | documentEnd
  | sequenceStart
  | mappingStart
  | blockEnd
  | entry
  | key
  | value
  | openBracket
  | closeBracket
  | openBrace
  | closeBrace
  | comma
  | reference (name : List Char)
  | anchor (name : List Char)
  | tag (written : WrittenTag)
  | scalar (text : Text) (isPlain : Bool)
  | finish
  | broken (fault : Fault)
deriving DecidableEq, Repr

end UriTemplate.Yaml
