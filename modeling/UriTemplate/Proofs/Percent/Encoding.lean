import UriTemplate.Proofs.Percent.Decoding
import UriTemplate.Proofs.Text.Surrogates

/-!
The law of percent-encoding.

`Percent.encodeText_law` says what the encoded form of a text is made of, that it
is read back as the UTF-8 form of the text, that it is put together from the
encoded forms of parts, and how its two forms hang together.  A text with
surrogates has no encoded form, and the first run of them is named.
-/

namespace UriTemplate.Percent

/-- The characters that may stand for themselves: letters, digits and four marks, and the reserved
characters where they are allowed. -/
def IsAllowed (allowReserved : Bool) (char : Char) : Prop :=
  ('A' ≤ char ∧ char ≤ 'Z') ∨ ('a' ≤ char ∧ char ≤ 'z') ∨ ('0' ≤ char ∧ char ≤ '9') ∨
    char ∈ ['-', '.', '_', '~'] ∨ allowReserved = true ∧ char ∈ reserved

def IsUpperHexDigit (char : Char) : Prop :=
  ('0' ≤ char ∧ char ≤ '9') ∨ ('A' ≤ char ∧ char ≤ 'F')

instance (char : Char) : Decidable (IsUpperHexDigit char) :=
  inferInstanceAs (Decidable (_ ∨ _))

/-- What an encoded text is made of. -/
inductive IsEncoded (allowReserved : Bool) : Text → Prop where
  | char {char} : IsAllowed allowReserved char → IsEncoded allowReserved [.scalar char]
  | triplet {high low} : IsUpperHexDigit high → IsUpperHexDigit low →
      IsEncoded allowReserved [.scalar '%', .scalar high, .scalar low]

/-- A reserved character as its triplet, and any other code point as it is. -/
def escapeReserved : CodePoint → Text
  | .scalar char =>
      if char ∈ reserved then Text.ofChars (triplet (UInt8.ofNat char.toNat))
      else [.scalar char]
  | .surrogate offset => [.surrogate offset]

theorem isKept_iff {allowReserved : Bool} {char : Char} :
    isKept allowReserved char = true ↔ IsAllowed allowReserved char := by
  simp only [isKept, isUnreserved, IsAllowed, Bool.or_eq_true, Bool.and_eq_true, beq_iff_eq,
    List.contains_iff_mem, Grammar.isAlphanum_iff, List.mem_cons, List.not_mem_nil, or_false,
    or_assoc]

theorem isUpperHexDigit_hexDigit {digit : Nat} (small : digit < 16) :
    IsUpperHexDigit (hexDigit digit) := by
  have each : ∀ digit < 16, IsUpperHexDigit (hexDigit digit) := by decide
  exact each digit small

theorem isEncoded_triplet (allowReserved : Bool) (octet : UInt8) :
    IsEncoded allowReserved (Text.ofChars (triplet octet)) := by
  have bound : octet.toNat < 256 := octet.toNat_lt
  exact .triplet (isUpperHexDigit_hexDigit (by omega)) (isUpperHexDigit_hexDigit (by omega))

theorem madeOf_isEncoded (allowReserved : Bool) (chars : List Char) :
    MadeOf (IsEncoded allowReserved) (Text.ofChars (encode allowReserved chars)) :=
  madeOf_encode_of (fun _ kept => .char (isKept_iff.mp kept)) (isEncoded_triplet _) chars

theorem encode_append (allowReserved : Bool) (front back : List Char) :
    encode allowReserved (front ++ back) =
      encode allowReserved front ++ encode allowReserved back :=
  List.flatMap_append

/-! ## Reserved characters kept and escaped -/

theorem flatMap_escapeReserved_of_notMem {chars : List Char}
    (free : ∀ char ∈ chars, char ∉ reserved) :
    (Text.ofChars chars).flatMap escapeReserved = Text.ofChars chars := by
  induction chars with
  | nil => rfl
  | cons char rest inductionHypothesis =>
      rw [List.forall_mem_cons] at free
      rw [Text.ofChars, List.map_cons, List.flatMap_cons, ← Text.ofChars,
        inductionHypothesis free.2, escapeReserved, if_neg free.1]
      rfl

theorem notMem_reserved_of_mem_triplet {octet : UInt8} {char : Char}
    (among : char ∈ triplet octet) : char ∉ reserved := by
  have bound : octet.toNat < 256 := octet.toNat_lt
  have digits : ∀ digit < 16, hexDigit digit ∉ reserved := by decide
  simp only [triplet, List.mem_cons, List.not_mem_nil, or_false] at among
  rcases among with rfl | rfl | rfl
  · decide
  · exact digits _ (by omega)
  · exact digits _ (by omega)

theorem triplets_escapeReserved (octets : List UInt8) :
    (Text.ofChars (octets.flatMap triplet)).flatMap escapeReserved =
      Text.ofChars (octets.flatMap triplet) := by
  apply flatMap_escapeReserved_of_notMem
  intro char among
  obtain ⟨octet, _, inTriplet⟩ := List.mem_flatMap.mp among
  exact notMem_reserved_of_mem_triplet inTriplet

theorem notMem_reserved_of_isUnreserved {char : Char} (unreserved : isUnreserved char = true) :
    char ∉ reserved := by
  intro isReserved
  have apart : ∀ char ∈ reserved, isUnreserved char = false := forall_reserved (by decide)
  rw [apart char isReserved] at unreserved
  contradiction

theorem encodeChar_escapeReserved (char : Char) :
    (Text.ofChars (encodeChar true char)).flatMap escapeReserved =
      Text.ofChars (encodeChar false char) := by
  by_cases unreserved : isUnreserved char = true
  · have free := notMem_reserved_of_isUnreserved unreserved
    have keeps : ∀ allowReserved, encodeChar allowReserved char = [char] := by
      intro allowReserved
      rw [encodeChar, isKept, unreserved, Bool.true_or, if_pos rfl]
    rw [keeps, keeps, flatMap_escapeReserved_of_notMem (by simpa using free)]
  rw [Bool.not_eq_true] at unreserved
  have escapes : encodeChar false char = (String.utf8EncodeChar char).flatMap triplet := by
    rw [encodeChar, isKept, unreserved, Bool.false_or, Bool.false_and, if_neg (by decide)]
  by_cases isReserved : char ∈ reserved
  -- A reserved character is a single octet, of which the triplet is its escape.
  · have ascii : ∀ char ∈ reserved, char.toNat < 128 := forall_reserved (by decide)
    have keeps : encodeChar true char = [char] := by
      rw [encodeChar, isKept, unreserved, List.contains_iff_mem.mpr isReserved]
      rfl
    rw [escapes, keeps, utf8EncodeChar_ascii (ascii char isReserved)]
    simp [Text.ofChars, escapeReserved, isReserved]
  · have escapesAlike : encodeChar true char = encodeChar false char := by
      rw [escapes, encodeChar, isKept, unreserved, Bool.false_or, Bool.true_and,
        if_neg (by simpa using isReserved)]
    rw [escapesAlike, escapes, triplets_escapeReserved]

theorem encode_escapeReserved (chars : List Char) :
    (Text.ofChars (encode true chars)).flatMap escapeReserved =
      Text.ofChars (encode false chars) := by
  induction chars with
  | nil => rfl
  | cons char rest inductionHypothesis =>
      rw [encode, encode, List.flatMap_cons, List.flatMap_cons, Text.ofChars_append,
        Text.ofChars_append, List.flatMap_append, encodeChar_escapeReserved]
      exact congrArg (Text.ofChars (encodeChar false char) ++ ·) inductionHypothesis

/-! ## Texts with surrogates -/

theorem encodeText_ofChars (allowReserved : Bool) (chars : List Char) :
    encodeText allowReserved (Text.ofChars chars) =
      .ok (Text.ofChars (encode allowReserved chars)) := by
  rw [encodeText, Text.scalars?_ofChars]

/-- How the first run of surrogates is reported. -/
def SurrogateRun.ofFirstRun {text : Text} (split : text.FirstRun) : SurrogateRun where
  first := .surrogate split.first
  start := split.before.length
  length := split.others.length + 1

theorem encodeText_of_firstRun (allowReserved : Bool) {text : Text} (split : text.FirstRun) :
    encodeText allowReserved text = .error (.ofFirstRun split) := by
  rw [encodeText, split.scalars?_eq_none]
  dsimp only
  rw [split.surrogateRun?_eq, Option.getD_some]
  dsimp only
  rw [split.drop_before]
  rfl

theorem encodeText_eq_ok_iff {allowReserved : Bool} {text written : Text} :
    encodeText allowReserved text = .ok written ↔
      ∃ chars, text = Text.ofChars chars ∧
        written = Text.ofChars (encode allowReserved chars) := by
  constructor
  · intro encoded
    by_cases unicode : text.IsUnicode
    · obtain ⟨chars, rfl⟩ := Text.isUnicode_iff.mp unicode
      rw [encodeText_ofChars] at encoded
      cases encoded
      exact ⟨chars, rfl, rfl⟩
    · obtain ⟨split⟩ := Text.exists_firstRun unicode
      rw [encodeText_of_firstRun allowReserved split] at encoded
      contradiction
  · rintro ⟨chars, rfl, rfl⟩
    exact encodeText_ofChars allowReserved chars

theorem encodeText_eq_error_iff {allowReserved : Bool} {text : Text} {run : SurrogateRun} :
    encodeText allowReserved text = .error run ↔
      ∃ split : text.FirstRun, run = .ofFirstRun split := by
  constructor
  · intro refused
    have notUnicode : ¬text.IsUnicode := by
      intro unicode
      obtain ⟨chars, rfl⟩ := Text.isUnicode_iff.mp unicode
      rw [encodeText_ofChars] at refused
      contradiction
    obtain ⟨split⟩ := Text.exists_firstRun notUnicode
    rw [encodeText_of_firstRun allowReserved split] at refused
    cases refused
    exact ⟨split, rfl⟩
  · rintro ⟨split, rfl⟩
    exact encodeText_of_firstRun allowReserved split

/-- A text without surrogates is encoded as allowed characters and triplets with upper-case digits,
which are read back as its UTF-8 form, so that different texts are encoded differently.  The encoded
form of two texts in a row is that of one followed by that of the other, and where reserved
characters are not kept, their triplets stand in their places and all else is the same.  A text with
surrogates is refused with the first run of them. -/
theorem encodeText_law (allowReserved : Bool) :
    (∀ text : Text, text.IsUnicode → ∃ chars written,
      text = Text.ofChars chars ∧ encodeText allowReserved text = .ok written ∧
      MadeOf (IsEncoded allowReserved) written ∧
      octets? written = some (String.ofList chars).toUTF8.data.toList) ∧
    (∀ text other written, encodeText allowReserved text = .ok written →
      encodeText allowReserved other = .ok written → text = other) ∧
    (∀ front back : Text, front.IsUnicode → back.IsUnicode →
      ∃ writtenFront writtenBack, encodeText allowReserved front = .ok writtenFront ∧
        encodeText allowReserved back = .ok writtenBack ∧
        encodeText allowReserved (front ++ back) = .ok (writtenFront ++ writtenBack)) ∧
    (∀ text : Text, text.IsUnicode → ∃ written, encodeText true text = .ok written ∧
      encodeText false text = .ok (written.flatMap escapeReserved)) ∧
    (∀ text : Text, ¬text.IsUnicode → ∃ run, encodeText allowReserved text = .error run) ∧
    ∀ (text : Text) (run : SurrogateRun), encodeText allowReserved text = .error run ↔
      ∃ split : text.FirstRun, run = .ofFirstRun split := by
  refine ⟨?_, ?_, ?_, ?_, ?_, fun text run => encodeText_eq_error_iff⟩
  · intro text unicode
    obtain ⟨chars, rfl⟩ := Text.isUnicode_iff.mp unicode
    refine ⟨chars, _, rfl, encodeText_ofChars allowReserved chars,
      madeOf_isEncoded allowReserved chars, ?_⟩
    rw [octets?_encode]
    simp [String.toUTF8, List.utf8Encode]
  · intro text other written encoded otherEncoded
    obtain ⟨chars, rfl, rfl⟩ := encodeText_eq_ok_iff.mp encoded
    obtain ⟨others, rfl, same⟩ := encodeText_eq_ok_iff.mp otherEncoded
    have decoded := congrArg decode? same
    rw [decode?_encode, decode?_encode, Option.some.injEq] at decoded
    rw [decoded]
  · intro front back frontUnicode backUnicode
    obtain ⟨chars, rfl⟩ := Text.isUnicode_iff.mp frontUnicode
    obtain ⟨others, rfl⟩ := Text.isUnicode_iff.mp backUnicode
    refine ⟨_, _, encodeText_ofChars _ _, encodeText_ofChars _ _, ?_⟩
    rw [← Text.ofChars_append, encodeText_ofChars, encode_append, Text.ofChars_append]
  · intro text unicode
    obtain ⟨chars, rfl⟩ := Text.isUnicode_iff.mp unicode
    refine ⟨_, encodeText_ofChars true chars, ?_⟩
    rw [encode_escapeReserved, encodeText_ofChars]
  · intro text notUnicode
    obtain ⟨split⟩ := Text.exists_firstRun notUnicode
    exact ⟨_, encodeText_of_firstRun allowReserved split⟩

/-- A letter outside ASCII, a delimiter and a percent sign; and surrogates in two places. -/
theorem encodeText_law_mixed :
    let text : Text := "é/%"
    let broken : Text :=
      [.scalar 'a', .surrogate 1, .surrogate 2, .scalar 'b', .surrogate 3]
    text.IsUnicode ∧ encodeText false text = .ok "%C3%A9%2F%25" ∧
    (∃ written, encodeText false text = .ok written ∧ MadeOf (IsEncoded false) written ∧
      octets? written = some [0xC3, 0xA9, 0x2F, 0x25]) ∧
    encodeText true text = .ok "%C3%A9/%25" ∧
    (∃ written, encodeText true text = .ok written ∧
      encodeText false text = .ok (written.flatMap escapeReserved)) ∧
    (∃ front back, encodeText false text = .ok front ∧ encodeText false text = .ok back ∧
      encodeText false (text ++ text) = .ok (front ++ back)) ∧
    (∀ other, encodeText false other = .ok "%C3%A9%2F%25" → text = other) ∧
    ¬broken.IsUnicode ∧ encodeText false broken = .error ⟨.surrogate 1, 1, 2⟩ := by
  intro text broken
  have unicode : text.IsUnicode := Text.isUnicode_iff.mpr ⟨"é/%".toList, rfl⟩
  have written : encodeText false text = .ok "%C3%A9%2F%25" := by decide +kernel
  have notUnicode : ¬broken.IsUnicode := fun unicode => unicode 1 (by decide)
  obtain ⟨encodes, injective, appends, escapes, _, locates⟩ := encodeText_law false
  refine ⟨unicode, written, ?_, by decide +kernel, escapes text unicode,
    appends text text unicode unicode, fun other => injective text other _ written,
    notUnicode, ?_⟩
  · obtain ⟨chars, encoded, spelled, isEncoded, made, read⟩ := encodes text unicode
    have same : chars = "é/%".toList := by
      have scalars := congrArg Text.scalars? spelled
      rw [Text.scalars?_ofChars] at scalars
      exact (Option.some.inj scalars).symm
    rw [same] at read
    exact ⟨encoded, isEncoded, made, read⟩
  · refine (locates broken _).mpr
      ⟨⟨['a'], 1, [2], [.scalar 'b', .surrogate 3], by simp, rfl⟩, rfl⟩

end UriTemplate.Percent
