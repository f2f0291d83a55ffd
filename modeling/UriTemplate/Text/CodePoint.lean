/-!
Unicode code points, surrogates included.

A template may hold surrogates that stand alone, which no character of the core
library can represent, so a code point is either a scalar value or a surrogate.
The order is the numeric one.
-/

namespace UriTemplate

/-- A Unicode code point: a scalar value, or one of the 2048 surrogates, given by
its distance from U+D800. -/
inductive CodePoint where
  | scalar (char : Char)
  | surrogate (offset : Fin 2048)
deriving DecidableEq, Repr, Inhabited

namespace CodePoint

instance : Coe Char CodePoint := ⟨.scalar⟩

def toNat : CodePoint → Nat
  | .scalar char => char.toNat
  | .surrogate offset => 0xD800 + offset.val

/-- The code point with a given number; there is none from 0x110000 on. -/
def ofNat? (number : Nat) : Option CodePoint :=
  if valid : number.isValidChar then
    some (.scalar (Char.ofNatAux number valid))
  else if bounds : 0xD800 ≤ number ∧ number < 0xE000 then
    some (.surrogate ⟨number - 0xD800, by omega⟩)
  else
    none

instance : Ord CodePoint where
  compare left right := compare left.toNat right.toNat

/-- The character, unless the code point is a surrogate. -/
def char? : CodePoint → Option Char
  | .scalar char => some char
  | .surrogate _ => none

/-- Whether the code point is a character that satisfies a test. -/
def satisfies (test : Char → Bool) : CodePoint → Bool
  | .scalar char => test char
  | .surrogate _ => false

end CodePoint

end UriTemplate
