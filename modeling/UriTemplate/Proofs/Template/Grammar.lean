import UriTemplate.Template.Component
import UriTemplate.Proofs.Text.Marks
import Mathlib.Data.List.Chain

/-!
The written form of templates.

A `Piece` is a run without braces or an expression between braces, spelled out as
it stands in a text: an expression keeps its operator and its variables, and a
variable keeps its name and the digits of its length.  A `Decomposition` of a text
is a sequence of pieces that spell it, in which every run is as long as it can be.
Nothing here refers to the reader.
-/

namespace UriTemplate.Grammar

/-- The characters of a name that stand for themselves. -/
def IsNameChar (char : Char) : Prop :=
  ('A' ≤ char ∧ char ≤ 'Z') ∨ ('a' ≤ char ∧ char ≤ 'z') ∨ ('0' ≤ char ∧ char ≤ '9') ∨
    char = '_' ∨ char = '.'

def IsHexDigit (char : Char) : Prop :=
  ('0' ≤ char ∧ char ≤ '9') ∨ ('A' ≤ char ∧ char ≤ 'F') ∨ ('a' ≤ char ∧ char ≤ 'f')

instance (char : Char) : Decidable (IsNameChar char) :=
  inferInstanceAs (Decidable (_ ∨ _))

instance (char : Char) : Decidable (IsHexDigit char) :=
  inferInstanceAs (Decidable (_ ∨ _))

/-- What a name is made of: characters that stand for themselves and triplets. -/
inductive IsNameUnit : Text → Prop where
  | char {char} : IsNameChar char → IsNameUnit [.scalar char]
  | triplet {high low} : IsHexDigit high → IsHexDigit low →
      IsNameUnit [.scalar '%', .scalar high, .scalar low]

/-- A name is one unit or several. -/
def IsName (text : Text) : Prop :=
  ∃ units : List Text, units ≠ [] ∧ (∀ unit ∈ units, IsNameUnit unit) ∧ units.flatten = text

def decimal (digits : List (Fin 10)) : Nat :=
  digits.foldl (fun value digit => value * 10 + digit.val) 0

def digitPoint (digit : Fin 10) : CodePoint :=
  .scalar (Char.ofNat (0x30 + digit.val))

/-- One to four digits of a positive number. -/
structure Numeral where
  digits : List (Fin 10)
  nonempty : digits ≠ []
  short : digits.length ≤ 4
  positive : 1 ≤ decimal digits

theorem decimal_le {digits : List (Fin 10)} (short : digits.length ≤ 4) :
    decimal digits ≤ 9999 := by
  match digits with
  | [] => simp [decimal]
  | [a] => simp only [decimal, List.foldl]; omega
  | [a, b] => simp only [decimal, List.foldl]; omega
  | [a, b, c] => simp only [decimal, List.foldl]; omega
  | [a, b, c, d] => simp only [decimal, List.foldl]; omega
  | _ :: _ :: _ :: _ :: _ :: _ => simp only [List.length_cons] at short; omega

def Numeral.written (numeral : Numeral) : Text :=
  numeral.digits.map digitPoint

def Numeral.maxLength (numeral : Numeral) : MaxLength :=
  ⟨decimal numeral.digits, numeral.positive, decimal_le numeral.short⟩

/-- What may follow a name. -/
inductive Suffix where
  | nothing
  | star
  | length (numeral : Numeral)

def Suffix.written : Suffix → Text
  | .nothing => []
  | .star => [.scalar '*']
  | .length numeral => .scalar ':' :: numeral.written

def Suffix.modifier : Suffix → Modifier
  | .nothing => .plain
  | .star => .explode
  | .length numeral => .truncate numeral.maxLength

structure Variable where
  name : Text
  isName : IsName name
  suffix : Suffix

def Variable.written (listed : Variable) : Text :=
  listed.name ++ listed.suffix.written

def Variable.spec (listed : Variable) : VarSpec :=
  ⟨listed.name, listed.suffix.modifier⟩

/-- What stands between the braces: the glyph of an operator and variables between commas. -/
def bodyOf (operator : Operator) (listed : List Variable) : Text :=
  operator.glyph ++ List.intercalate [.scalar ','] (listed.map Variable.written)

/-- An expression as it is written.  A glyph at the start of a body is always the operator. -/
structure Braced where
  operator : Operator
  listed : List Variable
  nonempty : listed ≠ []
  glyph_taken : ∀ (other : Operator) (glyph : Char), other.glyph? = some glyph →
    (bodyOf operator listed).head? = some (.scalar glyph) → operator = other

def Braced.body (braced : Braced) : Text :=
  bodyOf braced.operator braced.listed

def Braced.expression (braced : Braced) : Expression :=
  ⟨braced.operator, braced.listed.map Variable.spec, by simpa using braced.nonempty⟩

inductive Piece where
  | run (text : Text) (nonempty : text ≠ [])
      (plain : ∀ point ∈ text, point ≠ .scalar '{' ∧ point ≠ .scalar '}')
  | braced (expression : Braced)

namespace Piece

def IsRun : Piece → Prop
  | run _ _ _ => True
  | braced _ => False

def written : Piece → Text
  | run text _ _ => text
  | braced expression => .scalar '{' :: (expression.body ++ [.scalar '}'])

def component : Piece → Component
  | run text _ _ => .literal text
  | braced expression => .expression expression.expression

end Piece

/-- Pieces that spell a text.  No run is next to another, so each is as long as it can be. -/
structure Decomposition (raw : Text) where
  pieces : List Piece
  maximal : pieces.IsChain fun piece next => ¬(piece.IsRun ∧ next.IsRun)
  spelled : pieces.flatMap Piece.written = raw

def Decomposition.components {raw : Text} (decomposition : Decomposition raw) :
    List Component :=
  decomposition.pieces.map Piece.component

end UriTemplate.Grammar
