import UriTemplate.Text.CodePoint

/-!
Texts as sequences of code points.

Lengths, positions and the order of texts all count code points.  A text without
surrogates is the same thing as a list of characters, and only such a text has a
UTF-8 form; `Text.scalars?` decides which case holds and `Text.surrogateRun?`
says where the first surrogates stand.
-/

namespace UriTemplate

/-- A text: its code points in order. -/
abbrev Text := List CodePoint

namespace Text

def ofChars (chars : List Char) : Text :=
  chars.map .scalar

def ofString (string : String) : Text :=
  ofChars string.toList

instance : Coe String Text := ⟨ofString⟩

/-- The pieces of a message, one after the other. -/
def concat (pieces : List Text) : Text :=
  pieces.flatten

def ofNat (number : Nat) : Text :=
  ofString (toString number)

/-- The decimal numeral of an integer, with a sign only if it is negative. -/
def ofInt (number : Int) : Text :=
  ofString (toString number)

/-- Texts with a comma and a blank between neighbours. -/
def listed (texts : List Text) : Text :=
  List.intercalate (ofString ", ") texts

/-- The characters of a text without surrogates. -/
def scalars? : Text → Option (List Char)
  | [] => some []
  | .scalar char :: rest => (scalars? rest).map (char :: ·)
  | .surrogate _ :: _ => none

/-- The number of surrogates at the start of a text. -/
def leadingSurrogates : Text → Nat
  | .surrogate _ :: rest => leadingSurrogates rest + 1
  | _ => 0

/-- Where the first maximal run of surrogates starts, and its length. -/
def surrogateRun? : Text → Option (Nat × Nat)
  | [] => none
  | .scalar _ :: rest => (surrogateRun? rest).map fun run => (run.1 + 1, run.2)
  | .surrogate _ :: rest => some (0, leadingSurrogates rest + 1)

/-- Splits a text at the first occurrence of a code point, which neither part keeps. -/
def cut? (mark : CodePoint) : Text → Option (Text × Text)
  | [] => none
  | point :: rest =>
      if point = mark then some ([], rest)
      else (cut? mark rest).map fun parts => (point :: parts.1, parts.2)

/-- Texts in ascending order of their code points. -/
def sort (texts : List Text) : List Text :=
  texts.mergeSort fun left right => (compare left right).isLE

theorem cut?_length {mark : CodePoint} {text before after : Text}
    (found : cut? mark text = some (before, after)) :
    text.length = before.length + after.length + 1 := by
  induction text generalizing before with
  | nil => simp [cut?] at found
  | cons point rest inductionHypothesis =>
      simp only [cut?] at found
      split at found
      · simp only [Option.some.injEq, Prod.mk.injEq] at found
        obtain ⟨rfl, rfl⟩ := found
        simp
      · simp only [Option.map_eq_some_iff, Prod.mk.injEq] at found
        obtain ⟨⟨front, back⟩, split, rfl, rfl⟩ := found
        simp [inductionHypothesis split]
        omega

end Text

end UriTemplate
