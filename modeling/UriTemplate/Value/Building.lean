import UriTemplate.Value.Datum

/-!
Building values from data.

Each shape is built from a payload.  A text must be a text without surrogates; a
list goes through the parts of its payload; an associative list takes the entries
of a mapping, or pairs, and refuses a key that occurs twice once all pairs are
known to be good.
-/

namespace UriTemplate

/-- What a text is needed for. -/
inductive Role where
  | textValue
  | listItem
  | key
  | valueOf (name : List Char)
deriving DecidableEq, Repr

def Role.label : Role → Text
  | .textValue => "Text value"
  | .listItem => "List item"
  | .key => "Key"
  | .valueOf name => Text.concat ["Value for key '", Text.ofChars name, "'"]

/-- Why data denote no value. -/
inductive ValueError where
  /-- A datum of another kind stands where a text is needed. -/
  | notText (role : Role) (kind : String)
  | notUnicode (role : Role) (text : Text)
  | notIterable (kind : String)
  | notUnpackable (kind : String)
  | tooFewParts (count : Nat)
  | tooManyParts
  | duplicateKey (key : List Char)
  /-- The datum has no text that could be encoded. -/
  | unsupported (kind : String)
  | tooManyDigits
deriving DecidableEq, Repr

namespace ValueError

def message : ValueError → Text
  | .notText role kind => Text.concat [role.label, " must be a str, got ", kind]
  | .notUnicode role text =>
      Text.concat [role.label, " is not valid Unicode text: ", text.quoted]
  | .notIterable kind => Text.concat ["'", kind, "' object is not iterable"]
  | .notUnpackable kind => Text.concat ["cannot unpack non-iterable ", kind, " object"]
  | .tooFewParts count =>
      Text.concat ["not enough values to unpack (expected 2, got ", Text.ofNat count, ")"]
  | .tooManyParts => "too many values to unpack (expected 2)"
  | .duplicateKey key =>
      Text.concat ["Duplicate key '", Text.ofChars key, "' in associative list"]
  | .unsupported kind =>
      Text.concat ["Unsupported template value item of type ", kind,
        "; expected str, int or float"]
  | .tooManyDigits => Datum.tooManyDigits

end ValueError

/-- The characters of a text, if it has no surrogates. -/
def Role.chars (role : Role) (text : Text) : Except ValueError (List Char) :=
  match text.scalars? with
  | some chars => .ok chars
  | none => .error (.notUnicode role text)

def Role.check (role : Role) : Datum → Except ValueError (List Char)
  | .text text => role.chars text
  | datum => .error (.notText role datum.kind)

namespace AssocList

/-- The first key that repeats an earlier one. -/
def firstRepeated? (seen : List (List Char)) :
    List (List Char × List Char) → Option (List Char)
  | [] => none
  | (key, _) :: rest => if key ∈ seen then some key else firstRepeated? (key :: seen) rest

def ofPairs (pairs : List (List Char × List Char)) : Except ValueError AssocList :=
  if distinct : (pairs.map Prod.fst).Nodup then .ok ⟨pairs, distinct⟩
  else .error (.duplicateKey ((firstRepeated? [] pairs).getD []))

def checkPair (key value : Datum) : Except ValueError (List Char × List Char) := do
  let name ← Role.key.check key
  let content ← (Role.valueOf name).check value
  return (name, content)

/-- The two parts of a datum. -/
def unpack (datum : Datum) : Except ValueError (Datum × Datum) :=
  match datum.parts? with
  | none => .error (.notUnpackable datum.kind)
  | some [key, value] => .ok (key, value)
  | some [] => .error (.tooFewParts 0)
  | some [_] => .error (.tooFewParts 1)
  | some _ => .error .tooManyParts

/-- The checked pair that a datum denotes. -/
def pairOf (datum : Datum) : Except ValueError (List Char × List Char) := do
  let (key, value) ← unpack datum
  checkPair key value

def pairsOf : Datum → Except ValueError (List (List Char × List Char))
  | .mapping entries => entries.mapM fun entry => checkPair entry.1 entry.2
  | datum =>
      match datum.parts? with
      | none => .error (.notIterable datum.kind)
      | some parts => parts.mapM pairOf

end AssocList

namespace Value

def buildText (payload : Datum) : Except ValueError Value := do
  return .text (← Role.textValue.check payload)

def buildList (payload : Datum) : Except ValueError Value :=
  match payload.parts? with
  | none => .error (.notIterable payload.kind)
  | some parts => do return .list (← parts.mapM Role.listItem.check)

def buildAssoc (payload : Datum) : Except ValueError Value := do
  return .assoc (← AssocList.ofPairs (← AssocList.pairsOf payload))

end Value

end UriTemplate
