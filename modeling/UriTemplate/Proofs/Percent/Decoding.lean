import UriTemplate.Proofs.Percent

/-!
Percent-decoding.

`Percent.octets?` reads a text as octets: a triplet is the octet that it is written
for, and any other character of ASCII stands for itself.  What an encoded text is
read as does not depend on which characters were kept: it is the UTF-8 form of what
was encoded (`Percent.octets?_encode`), and so decoding gives that back.
-/

namespace UriTemplate.Percent

/-- The value of a hexadecimal digit of either case. -/
def hexValue? (char : Char) : Option Nat :=
  if '0' ≤ char ∧ char ≤ '9' then some (char.toNat - 0x30)
  else if 'A' ≤ char ∧ char ≤ 'F' then some (char.toNat - 0x37)
  else if 'a' ≤ char ∧ char ≤ 'f' then some (char.toNat - 0x57)
  else none

def octet? (high low : Char) : Option UInt8 := do
  let highValue ← hexValue? high
  let lowValue ← hexValue? low
  return UInt8.ofNat (16 * highValue + lowValue)

/-- The octets that a text is written for; there are none if a percent sign is not followed by
two digits, or if something outside ASCII stands in the text. -/
def octets? : Text → Option (List UInt8)
  | [] => some []
  | .surrogate _ :: _ => none
  | .scalar char :: rest =>
      if char = '%' then
        match rest with
        | .scalar high :: .scalar low :: later => do
            let octet ← octet? high low
            return octet :: (← octets? later)
        | _ => none
      else if char.toNat < 128 then (octets? rest).map (UInt8.ofNat char.toNat :: ·)
      else none

/-- The characters of which the octets of a text are the UTF-8 form. -/
def decode? (text : Text) : Option (List Char) := do
  let octets ← octets? text
  return (← octets.toByteArray.utf8Decode?).toList

theorem hexValue?_hexDigit {digit : Nat} (small : digit < 16) :
    hexValue? (hexDigit digit) = some digit := by
  have each : ∀ digit < 16, hexValue? (hexDigit digit) = some digit := by decide
  exact each digit small

theorem octet?_digits (octet : UInt8) :
    octet? (hexDigit (octet.toNat / 16)) (hexDigit (octet.toNat % 16)) = some octet := by
  have bound : octet.toNat < 256 := octet.toNat_lt
  have recombined : 16 * (octet.toNat / 16) + octet.toNat % 16 = octet.toNat :=
    Nat.div_add_mod octet.toNat 16
  rw [octet?, hexValue?_hexDigit (by omega), hexValue?_hexDigit (by omega),
    Option.bind_eq_bind, Option.bind_some, Option.bind_some, recombined, UInt8.ofNat_toNat]
  rfl

theorem octets?_triplet (octet : UInt8) (rest : Text) :
    octets? (Text.ofChars (triplet octet) ++ rest) = (octets? rest).map (octet :: ·) := by
  simp only [triplet, Text.ofChars, List.map_cons, List.map_nil, List.cons_append,
    List.nil_append, octets?, if_true, octet?_digits]
  cases octets? rest <;> rfl

theorem octets?_triplets (octets : List UInt8) (rest : Text) :
    octets? (Text.ofChars (octets.flatMap triplet) ++ rest) = (octets? rest).map (octets ++ ·) := by
  induction octets with
  | nil => exact Option.map_id'.symm
  | cons octet others inductionHypothesis =>
      have apart : Text.ofChars ((octet :: others).flatMap triplet) ++ rest =
          Text.ofChars (triplet octet) ++ (Text.ofChars (others.flatMap triplet) ++ rest) := by
        simp [Text.ofChars]
      rw [apart, octets?_triplet, inductionHypothesis, Option.map_map]
      rfl

theorem utf8EncodeChar_ascii {char : Char} (ascii : char.toNat < 128) :
    String.utf8EncodeChar char = [UInt8.ofNat char.toNat] := by
  have small : char.val.toNat ≤ 127 := Nat.le_of_lt_succ ascii
  rw [String.utf8EncodeChar]
  exact if_pos small

theorem octets?_ascii {char : Char} (notPercent : char ≠ '%') (ascii : char.toNat < 128)
    (rest : Text) :
    octets? (.scalar char :: rest) = (octets? rest).map (String.utf8EncodeChar char ++ ·) := by
  rw [utf8EncodeChar_ascii ascii, octets?.eq_def]
  dsimp only
  rw [if_neg notPercent, if_pos ascii]
  rfl

theorem ne_percent_of_isKept {allowReserved : Bool} {char : Char}
    (kept : isKept allowReserved char = true) : char ≠ '%' := by
  rintro rfl
  cases allowReserved <;> revert kept <;> decide

theorem toNat_lt_of_isKept {allowReserved : Bool} {char : Char}
    (kept : isKept allowReserved char = true) : char.toNat < 128 := by
  have each : ∀ char ∈ reserved, char.toNat < 128 := forall_reserved (by decide)
  rcases isKept_cases kept with unreserved | ⟨_, isReserved⟩
  · exact toNat_lt_of_isUnreserved unreserved
  · exact each char isReserved

theorem octets?_encodeChar (allowReserved : Bool) (char : Char) (rest : Text) :
    octets? (Text.ofChars (encodeChar allowReserved char) ++ rest) =
      (octets? rest).map (String.utf8EncodeChar char ++ ·) := by
  rw [encodeChar]
  split
  · next kept => exact octets?_ascii (ne_percent_of_isKept kept) (toNat_lt_of_isKept kept) rest
  · exact octets?_triplets _ rest

/-- The octets of an encoded text are its UTF-8 form, whichever characters are kept. -/
theorem octets?_encode (allowReserved : Bool) (chars : List Char) :
    octets? (Text.ofChars (encode allowReserved chars)) =
      some (chars.flatMap String.utf8EncodeChar) := by
  induction chars with
  | nil => rfl
  | cons char rest inductionHypothesis =>
      have apart : Text.ofChars (encode allowReserved (char :: rest)) =
          Text.ofChars (encodeChar allowReserved char) ++
            Text.ofChars (encode allowReserved rest) := by
        simp [Text.ofChars, encode]
      rw [apart, octets?_encodeChar, inductionHypothesis, List.flatMap_cons]
      rfl

theorem decode?_of_octets? {text : Text} {chars : List Char}
    (read : octets? text = some (chars.flatMap String.utf8EncodeChar)) :
    decode? text = some chars := by
  have wellFormed : (chars.flatMap String.utf8EncodeChar).toByteArray.utf8Decode? =
      some chars.toArray := List.utf8Decode?_utf8Encode
  rw [decode?, read, Option.bind_eq_bind, Option.bind_some, wellFormed]
  rfl

theorem decode?_encode (allowReserved : Bool) (chars : List Char) :
    decode? (Text.ofChars (encode allowReserved chars)) = some chars :=
  decode?_of_octets? (octets?_encode allowReserved chars)

end UriTemplate.Percent
