import UriTemplate.Log.Record
import UriTemplate.Numeral.Digit
import UriTemplate.Text.Word

/-!
The layouts that records are written in.

A layout is a text with fields.  A field is a percent sign, a name between
parentheses and a directive.  A layout is accepted if it has at least one field of
a usual form; an empty one stands for the message alone.  Whether every field can
be written is seen only when a record comes.

The name of the first field may be missing; then all fields of the record are
written in its place.
-/

namespace UriTemplate.Log

namespace Layout

/-- The layout of records when none is asked for. -/
def standard : Text :=
  "%(asctime)s - %(name)s - %(levelname)s - %(message)s"

def messageOnly : Text := "%(message)s"

/-- Whether a letter is that of a conversion.  Case does not matter, so some letters beyond ASCII
count as well. -/
def isConversion (char : Char) : Bool :=
  "diouxefgcrsa%\u0130\u0131\u017F".toList.contains char.toLower

/-- A text without a number or a star at its start; the digits may be those of any script. -/
def dropExtent (text : Text) : Text :=
  match text with
  | .scalar '*' :: rest => rest
  | _ => text.dropWhile fun point => point.decimalDigit?.isSome

/-- A text without a precision at its start. -/
def dropPrecision (text : Text) : Text :=
  match text with
  | .scalar '.' :: rest =>
      if (dropExtent rest).length = rest.length then text else dropExtent rest
  | _ => text

def startsDirective (text : Text) : Bool :=
  let afterFlags := text.dropWhile (CodePoint.satisfies Directive.isFlag)
  (dropPrecision (dropExtent afterFlags)).head?.any (CodePoint.satisfies isConversion)

/-- Whether a text starts with the name and the directive of a field. -/
def startsField (text : Text) : Bool :=
  match text with
  | .scalar '(' :: rest =>
      let name := rest.takeWhile fun point => Text.isWordPoint point.toNat
      match rest.drop name.length with
      | .scalar ')' :: after => !name.isEmpty && startsDirective after
      | _ => false
  | _ => false

def hasField : Text → Bool
  | [] => false
  | point :: rest => (point = .scalar '%' && startsField rest) || hasField rest

/-- A character, or a directive and the name before it. -/
inductive Piece where
  | plain (point : CodePoint)
  | field (name : Option Text) (directive : Directive)
deriving DecidableEq, Repr

/-- The name at the start of a text, if there is one, and the rest. -/
def name? (text : Text) : Option (Option Text × Text) :=
  match text with
  | .scalar '(' :: rest =>
      (Text.cut? (.scalar ')') rest).map fun parts => (some parts.1, parts.2)
  | _ => some (none, text)

/-- The pieces of a layout; none if the last one is not complete. -/
def pieces? : Nat → Text → Option (List Piece)
  | _, [] => some []
  | 0, _ => none
  | limit + 1, .scalar '%' :: .scalar '%' :: rest =>
      (pieces? limit rest).map (.plain (.scalar '%') :: ·)
  | limit + 1, .scalar '%' :: rest => do
      let (name, afterName) ← name? rest
      let (directive, after) ← Directive.read? afterName
      return .field name directive :: (← pieces? limit after)
  | limit + 1, point :: rest => (pieces? limit rest).map (.plain point :: ·)

/-- Fills in the fields one after the other; `unnamed` is what is written where the name of the
first one is missing. -/
def fill? (fields : List (Text × FieldContent)) (unnamed : Option FieldContent) :
    List Piece → Option Text
  | [] => some []
  | .plain point :: rest => (fill? fields unnamed rest).map (point :: ·)
  | .field name directive :: rest => do
      let content ← (name.map fun name => List.lookup name fields).getD unnamed
      let written ← directive.write? content
      return written ++ (← fill? fields none rest)

def timeField : Text := "%(asctime)"

/-- Whether the time field stands anywhere in a text, also within another field. -/
def asksForTime : Text → Bool
  | [] => false
  | point :: rest => timeField.isPrefixOf (point :: rest) || asksForTime rest

/-- The fields of a record that a layout can show. -/
def fieldsOf (surroundings : Surroundings) (record : Record) (layout : Text) :
    List (Text × FieldContent) :=
  record.fields surroundings (asksForTime layout)

/-- Writes a record; none if a field is unknown or does not suit its directive. -/
def write? (surroundings : Surroundings) (record : Record) (layout : Text) : Option Text := do
  let fields := fieldsOf surroundings record layout
  fill? fields (some (Record.displayed fields)) (← pieces? layout.length layout)

/-- What is written for a record: a line, or a report if it cannot be written. -/
def entry (surroundings : Surroundings) (layout : Text) (record : Record) : Text :=
  match write? surroundings record layout with
  | some written => written ++ [.scalar '\n']
  | none => record.report surroundings

/-- The layout that is used when the given one is asked for; a text without fields is refused. -/
def accept? (layout : Text) : Option Text :=
  if layout.isEmpty then some messageOnly
  else if hasField layout then some layout
  else none

end Layout

/-- Why a log cannot be set up: its layout has no field. -/
structure LayoutError where
  layout : Text
deriving DecidableEq, Repr

def LayoutError.message (error : LayoutError) : Text :=
  Text.concat ["Invalid format '", error.layout, "' for '%' style"]

end UriTemplate.Log
