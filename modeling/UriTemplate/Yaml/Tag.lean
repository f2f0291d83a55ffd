import UriTemplate.Yaml.Timestamp

/-!
The tags of YAML nodes, and how a plain scalar gets one.

A plain scalar is tagged by its form alone.  The forms exclude one another, and a
scalar that has none of them is a string.  A line feed at the end of a scalar is
not part of its form, unless the scalar is nothing else.
-/

namespace UriTemplate.Yaml

/-- The tags that nodes may have; all others are unknown. -/
inductive Tag where
  | null
  | truth
  | integer
  | real
  | timestamp
  | octets
  | string
  | sequence
  | mapping
  | set
  | orderedMapping
  | pairs
  | merge
  | value
  | unknown
deriving DecidableEq, Repr

namespace Tag

/-- What all the tags of the language start with. -/
def namespaceName : List Char := "tag:yaml.org,2002:".toList

/-- Whether a tag is that of a list, a set or a mapping. -/
def isCollection : Tag → Bool
  | sequence | mapping | set | orderedMapping | pairs => true
  | _ => false

def isScalar : Tag → Bool
  | null | truth | integer | real | timestamp | octets | string => true
  | _ => false

def ofName (name : List Char) : Tag :=
  if namespaceName.isPrefixOf name then
    match String.ofList (name.drop namespaceName.length) with
    | "null" => null
    | "bool" => truth
    | "int" => integer
    | "float" => real
    | "timestamp" => timestamp
    | "binary" => octets
    | "str" => string
    | "seq" => sequence
    | "map" => mapping
    | "set" => set
    | "omap" => orderedMapping
    | "pairs" => pairs
    | "merge" => merge
    | "value" => value
    | _ => unknown
  else
    unknown

def dropSign : List Char → List Char
  | '-' :: rest => rest
  | '+' :: rest => rest
  | chars => chars

/-- Whether a text is not empty and consists of digits of a kind and underscores. -/
def isNumber (isDigit : Char → Bool) (chars : List Char) : Bool :=
  !chars.isEmpty && chars.all fun char => isDigit char || char == '_'

/-- Whether a text is a digit followed by digits and underscores. -/
def startsWithDigit (chars : List Char) : Bool :=
  chars.head?.any Char.isDigit && isNumber Char.isDigit chars

def isBinaryDigit (char : Char) : Bool := char == '0' || char == '1'

def isOctalDigit (char : Char) : Bool := '0' ≤ char && char ≤ '7'

def isHexDigit (char : Char) : Bool :=
  char.isDigit || ('a' ≤ char && char ≤ 'f') || ('A' ≤ char && char ≤ 'F')

/-- Whether a text is a number below sixty of one or two digits. -/
def isSixtieth : List Char → Bool
  | [digit] => digit.isDigit
  | [high, low] => '0' ≤ high && high ≤ '5' && low.isDigit
  | _ => false

def isInteger (chars : List Char) : Bool :=
  match dropSign chars with
  | ['0'] => true
  | '0' :: 'b' :: digits => isNumber isBinaryDigit digits
  | '0' :: 'x' :: digits => isNumber isHexDigit digits
  | '0' :: digits => isNumber isOctalDigit digits
  | unsigned =>
      match unsigned.splitOn ':' with
      | [] => false
      | first :: others => startsWithDigit first && others.all isSixtieth

/-- Whether a text is empty or an exponent with a sign. -/
def isExponent : List Char → Bool
  | [] => true
  | letter :: sign :: digits =>
      (letter == 'e' || letter == 'E') && (sign == '-' || sign == '+') && !digits.isEmpty &&
        digits.all Char.isDigit
  | _ => false

def isFractionChar (char : Char) : Bool :=
  char.isDigit || char == '_'

def isFraction (chars : List Char) : Bool :=
  let unsigned := dropSign chars
  let whole := unsigned.takeWhile fun char => char != '.'
  match unsigned.drop whole.length with
  | [] => false
  | _ :: rest =>
      let exponent := rest.dropWhile isFractionChar
      if whole.isEmpty then
        unsigned.length == chars.length && rest.head?.any Char.isDigit && isExponent exponent
      else
        match whole.splitOn ':' with
        | [] => false
        | [first] => startsWithDigit first && isExponent exponent
        | first :: others =>
            startsWithDigit first && others.all isSixtieth && exponent.isEmpty

/-- The spellings of a word: small, with a capital letter, and in capital letters. -/
def spellings (word : String) : List (List Char) :=
  let chars := word.toList
  [chars, (chars.take 1).map Char.toUpper ++ chars.drop 1, chars.map Char.toUpper]

def isReal (chars : List Char) : Bool :=
  isFraction chars ||
    (match dropSign chars with
      | '.' :: word => (spellings "inf").contains word
      | _ => false) ||
    [".nan", ".NaN", ".NAN"].any fun word => word.toList == chars

def isTruth (chars : List Char) : Bool :=
  ["yes", "no", "true", "false", "on", "off"].any fun word => (spellings word).contains chars

def isNull (chars : List Char) : Bool :=
  chars.isEmpty || chars == ['~'] || (spellings "null").contains chars

/-- Whether a text is a timestamp; a day alone has two digits for the month and for the day. -/
def isTimestamp (chars : List Char) : Bool :=
  (Timestamp.read? chars).any fun written => written.clock.isSome || written.isPadded

/-- The tag of a plain scalar without surrogates. -/
def ofForm (chars : List Char) : Tag :=
  if isTruth chars then truth
  else if isReal chars then real
  else if isInteger chars then integer
  else if chars = ['<', '<'] then merge
  else if isNull chars then null
  else if isTimestamp chars then timestamp
  else if chars = ['='] then value
  else if chars = ['!'] ∨ chars = ['&'] ∨ chars = ['*'] then unknown
  else string

/-- The form of a scalar, which does not take in a line feed after other characters. -/
def form (chars : List Char) : List Char :=
  if 1 < chars.length ∧ chars.getLast? = some '\n' then chars.dropLast else chars

def ofPlain (text : Text) : Tag :=
  match text.scalars? with
  | none => string
  | some chars => ofForm (form chars)

end Tag

end UriTemplate.Yaml
