import UriTemplate.Proofs.Value.Refusal

/-!
Native forms of values.

A value has one native form: a text, a list of texts, or a mapping of texts.  A
mapping is put together entry by entry, and a key that comes again would take the
place of the earlier one.  The keys of a value are distinct, so nothing is merged
(`Datum.dictionary_eq`), and coercion leads from the native form back to the value and
to no other: `Value.native_inverse`.
-/

namespace UriTemplate

open Outcome

namespace Datum

/-! ## Mappings put together -/

/-- A mapping that entries are put into one after the other. -/
def dictionary (entries : List (Datum × Datum)) : List (Datum × Datum) :=
  entries.foldl (fun built entry => insertEntry entry.1 entry.2 built) []

theorem sameKey_text_iff {raw : Text} {datum : Datum} :
    (Datum.text raw).sameKey datum = true ↔ datum = .text raw := by
  cases datum with
  | text other => rw [sameKey, beq_iff_eq, Datum.text.injEq, eq_comm]
  | _ => simp [sameKey, integer?]

/-- A key that is not there yet is put at the end. -/
theorem insertEntry_of_absent {Content : Type} {key : Datum} {entries : List (Datum × Content)}
    (absent : ∀ entry ∈ entries, entry.1.sameKey key = false) (content : Content) :
    insertEntry key content entries = entries ++ [(key, content)] := by
  induction entries with
  | nil => rfl
  | cons entry rest inductionHypothesis =>
      rw [List.forall_mem_cons] at absent
      rw [insertEntry, absent.1, if_neg Bool.false_ne_true, inductionHypothesis absent.2]
      rfl

theorem foldl_insertEntry {entries built : List (Datum × Datum)}
    (distinct : (built ++ entries).Pairwise fun earlier later =>
      earlier.1.sameKey later.1 = false) :
    entries.foldl (fun built entry => insertEntry entry.1 entry.2 built) built =
      built ++ entries := by
  induction entries generalizing built with
  | nil => rw [List.foldl_nil, List.append_nil]
  | cons entry rest inductionHypothesis =>
      have absent : ∀ other ∈ built, other.1.sameKey entry.1 = false := fun other among =>
        (List.pairwise_append.mp distinct).2.2 other among entry List.mem_cons_self
      rw [List.append_cons] at distinct
      rw [List.foldl_cons, insertEntry_of_absent absent, inductionHypothesis distinct,
        ← List.append_cons]

/-- Entries with distinct keys are kept as they are. -/
theorem dictionary_eq {entries : List (Datum × Datum)}
    (distinct : entries.Pairwise fun earlier later => earlier.1.sameKey later.1 = false) :
    dictionary entries = entries :=
  foldl_insertEntry distinct

-- Otherwise an entry takes the place of an earlier one.
example :
    dictionary [(.text "a", .text "1"), (.text "b", .text "2"), (.text "a", .text "3")] =
      [(.text "a", .text "3"), (.text "b", .text "2")] := rfl

theorem pairwise_ofPair {pairs : List (List Char × List Char)}
    (distinct : (pairs.map Prod.fst).Nodup) :
    (pairs.map ofPair).Pairwise fun earlier later => earlier.1.sameKey later.1 = false := by
  rw [List.Nodup, List.pairwise_map] at distinct
  rw [List.pairwise_map]
  refine distinct.imp ?_
  intro earlier later different
  rw [Bool.eq_false_iff, ofPair, ofPair, ne_eq, sameKey_text_iff, Datum.text.injEq]
  exact fun same => different (Text.ofChars_injective same.symm)

/-! ## Native data -/

def ofChars (chars : List Char) : Datum :=
  .text (Text.ofChars chars)

/-- A text, a list of texts, or a mapping of texts to texts. -/
inductive IsNative : Datum → Prop
  | text (value : Text) : IsNative (.text value)
  | list (items : List Text) : IsNative (.list (items.map .text))
  | mapping (entries : List (Text × Text)) :
      IsNative (.mapping (entries.map (Prod.map .text .text)))

/-- How a payload spells the strings of a value. -/
inductive Spells : Datum → Value → Prop
  | text (chars) : Spells (ofChars chars) (.text chars)
  | list {payload items} :
      payload.parts? = some (items.map ofChars) →
      Spells payload (.list items)
  | mapping (entries : AssocList) :
      Spells (.mapping (entries.pairs.map ofPair)) (.assoc entries)
  | pairs {payload parts} {entries : AssocList} :
      (∀ content, payload ≠ .mapping content) →
      payload.parts? = some parts →
      List.Forall₂ (fun part pair => part.parts? = some [ofChars pair.1, ofChars pair.2]) parts
        entries.pairs →
      Spells payload (.assoc entries)

section

variable {datum payload : Datum} {value : Value}

theorem unpack_eq_ok_iff {pair : Datum × Datum} :
    AssocList.unpack datum = .ok pair ↔ datum.parts? = some [pair.1, pair.2] := by
  unfold AssocList.unpack
  cases datum.parts? with
  | none => simp
  | some parts =>
      match parts with
      | [] => simp
      | [first] => simp
      | [first, second] => simp [Prod.ext_iff]
      | first :: second :: third :: rest => simp

theorem pairOf_eq_ok_iff {content : List Char × List Char} :
    AssocList.pairOf datum = .ok content ↔
      datum.parts? = some [ofChars content.1, ofChars content.2] := by
  simp only [AssocList.pairOf, bind_eq_ok_iff, unpack_eq_ok_iff]
  constructor
  · rintro ⟨pair, unpacked, checked⟩
    rw [unpacked, checkPair_eq_ok_iff.mp checked]
    rfl
  · intro unpacked
    exact ⟨ofPair content, unpacked, checkPair_eq_ok_iff.mpr rfl⟩

theorem buildText_eq_ok_iff :
    Value.buildText payload = .ok value ↔
      ∃ chars, value = .text chars ∧ payload = ofChars chars := by
  simp only [Value.buildText, bind_eq_ok_iff, Role.check_eq_ok_iff, pure_eq_ok, Except.ok.injEq]
  constructor
  · rintro ⟨chars, rfl, rfl⟩
    exact ⟨chars, rfl, rfl⟩
  · rintro ⟨chars, rfl, rfl⟩
    exact ⟨chars, rfl, rfl⟩

theorem buildList_eq_ok_iff :
    Value.buildList payload = .ok value ↔
      ∃ items, value = .list items ∧ payload.parts? = some (items.map ofChars) := by
  rw [Value.buildList]
  cases payload.parts? with
  | none => simp
  | some parts =>
      have spelled {items : List (List Char)} :
          parts.mapM Role.listItem.check = .ok items ↔ parts = items.map ofChars := by
        simp only [mapM_eq_ok_iff, Role.check_eq_ok_iff]
        rw [← List.forall₂_eq_eq_eq, List.forall₂_map_right_iff]
        rfl
      simp only [bind_eq_ok_iff, spelled, pure_eq_ok, Except.ok.injEq, Option.some.injEq]
      constructor
      · rintro ⟨items, rfl, rfl⟩
        exact ⟨items, rfl, rfl⟩
      · rintro ⟨items, rfl, rfl⟩
        exact ⟨items, rfl, rfl⟩

theorem pairsOf_mapping_eq_ok_iff {entries : List (Datum × Datum)}
    {contents : List (List Char × List Char)} :
    AssocList.pairsOf (.mapping entries) = .ok contents ↔ entries = contents.map ofPair := by
  simp only [AssocList.pairsOf, mapM_eq_ok_iff, checkPair_eq_ok_iff]
  rw [← List.forall₂_eq_eq_eq, List.forall₂_map_right_iff]

theorem pairsOf_eq_ok_iff (other : ∀ content, payload ≠ .mapping content)
    {contents : List (List Char × List Char)} :
    AssocList.pairsOf payload = .ok contents ↔
      ∃ parts, payload.parts? = some parts ∧
        List.Forall₂ (fun part pair => part.parts? = some [ofChars pair.1, ofChars pair.2]) parts
          contents := by
  have given : AssocList.pairsOf payload =
      payload.parts?.elim (.error (.notIterable payload.kind))
        fun parts => parts.mapM AssocList.pairOf := by
    cases payload with
    | mapping entries => exact absurd rfl (other entries)
    | _ => rfl
  rw [given]
  cases payload.parts? with
  | none => simp
  | some parts => simp [mapM_eq_ok_iff, pairOf_eq_ok_iff]

theorem buildAssoc_eq_ok_iff :
    Value.buildAssoc payload = .ok value ↔
      ∃ entries : AssocList, value = .assoc entries ∧
        AssocList.pairsOf payload = .ok entries.pairs := by
  simp only [Value.buildAssoc, bind_eq_ok_iff, AssocList.ofPairs_eq_ok_iff, pure_eq_ok,
    Except.ok.injEq]
  constructor
  · rintro ⟨pairs, spelled, entries, rfl, rfl⟩
    exact ⟨entries, rfl, spelled⟩
  · rintro ⟨entries, rfl, spelled⟩
    exact ⟨entries.pairs, spelled, entries, rfl, rfl⟩

/-- The constructors give a value exactly where a payload spells it. -/
theorem spells_iff :
    payload.Spells value ↔
      Value.buildText payload = .ok value ∨ Value.buildList payload = .ok value ∨
        Value.buildAssoc payload = .ok value := by
  rw [buildText_eq_ok_iff, buildList_eq_ok_iff, buildAssoc_eq_ok_iff]
  constructor
  · rintro (chars | spelled | entries | ⟨other, gone, spelled⟩)
    · exact Or.inl ⟨chars, rfl, rfl⟩
    · exact Or.inr (Or.inl ⟨_, rfl, spelled⟩)
    · exact Or.inr (Or.inr ⟨entries, rfl, pairsOf_mapping_eq_ok_iff.mpr rfl⟩)
    · exact Or.inr (Or.inr ⟨_, rfl, (pairsOf_eq_ok_iff other).mpr ⟨_, gone, spelled⟩⟩)
  · rintro (⟨chars, rfl, rfl⟩ | ⟨items, rfl, spelled⟩ | ⟨entries, rfl, spelled⟩)
    · exact .text chars
    · exact .list spelled
    · by_cases isMapping : ∃ content, payload = .mapping content
      · obtain ⟨content, rfl⟩ := isMapping
        rw [pairsOf_mapping_eq_ok_iff.mp spelled]
        exact .mapping entries
      · have other := not_exists.mp isMapping
        obtain ⟨parts, gone, spelledParts⟩ := (pairsOf_eq_ok_iff other).mp spelled
        exact .pairs other gone spelledParts

end

end Datum

namespace Value

/-- The strings of a value. -/
def texts : Value → List Text
  | .text chars => [Text.ofChars chars]
  | .list items => items.map Text.ofChars
  | .assoc entries => entries.pairs.flatMap fun pair => [Text.ofChars pair.1, Text.ofChars pair.2]

/-- What a value is as a text, as a list and as a mapping, as far as it is that. -/
def nativeForms (value : Value) : List Datum :=
  [value.text?.map Datum.ofChars,
    value.list?.map fun items => .list (items.map Datum.ofChars),
    value.pairs?.map fun pairs => .mapping (Datum.dictionary (pairs.map Datum.ofPair))].reduceOption

def native : Value → Datum
  | .text chars => .ofChars chars
  | .list items => .list (items.map Datum.ofChars)
  | .assoc entries => .mapping (entries.pairs.map Datum.ofPair)

theorem nativeForms_eq (value : Value) : value.nativeForms = [value.native] := by
  cases value with
  | text chars => rfl
  | list items => rfl
  | assoc entries =>
      have kept := Datum.dictionary_eq (Datum.pairwise_ofPair entries.keys_nodup)
      rw [nativeForms, pairs?, Option.map_some, kept]
      rfl

theorem isUnicode_of_mem_texts {value : Value} {text : Text} (among : text ∈ value.texts) :
    text.IsUnicode := by
  rw [Text.isUnicode_iff]
  cases value with
  | text chars => exact ⟨chars, List.mem_singleton.mp among⟩
  | list items =>
      obtain ⟨chars, _, rfl⟩ := List.mem_map.mp among
      exact ⟨chars, rfl⟩
  | assoc entries =>
      obtain ⟨pair, _, inPair⟩ := List.mem_flatMap.mp among
      obtain rfl | inPair := List.mem_cons.mp inPair
      · exact ⟨pair.1, rfl⟩
      · exact ⟨pair.2, List.mem_singleton.mp inPair⟩

theorem native_isNative (value : Value) : value.native.IsNative := by
  cases value with
  | text chars => exact .text _
  | list items =>
      have spelled : items.map Datum.ofChars = (items.map Text.ofChars).map .text := by
        rw [List.map_map]
        rfl
      rw [native, spelled]
      exact .list _
  | assoc entries =>
      have spelled : entries.pairs.map Datum.ofPair =
          (entries.pairs.map (Prod.map Text.ofChars Text.ofChars)).map
            (Prod.map .text .text) := by
        rw [List.map_map]
        rfl
      rw [native, spelled]
      exact .mapping _

theorem toValue_native (value : Value) : value.native.toValue = .ok (some value) := by
  cases value with
  | text chars =>
      rw [native, Datum.ofChars, Datum.toValue.eq_def]
      simp [Datum.scalarText, Role.chars, Text.scalars?_ofChars]
  | list items =>
      refine Datum.toValue_list_eq_ok_iff.mpr ⟨items, rfl, ?_⟩
      rw [List.forall₂_map_left_iff]
      exact List.forall₂_same.mpr fun chars _ => .text _
  | assoc entries =>
      refine Datum.toValue_mapping_eq_ok_iff.mpr ⟨entries, rfl, ?_⟩
      rw [List.forall₂_map_left_iff]
      exact List.forall₂_same.mpr fun pair _ => ⟨.text _, .text _⟩

theorem eq_native {datum : Datum} {value : Value} (isNative : datum.IsNative)
    (denotes : datum.toValue = .ok (some value)) : datum = value.native := by
  have hasText {text other : Text} : (Datum.text text).HasText other ↔ text = other :=
    ⟨fun has => by cases has; rfl, fun same => same ▸ .text text⟩
  cases isNative with
  | text text =>
      simp only [Datum.toValue, Datum.scalarText, bind_eq_ok_iff, ok_bind,
        Role.chars_eq_ok_iff, pure_eq_ok, Except.ok.injEq, Option.some.injEq] at denotes
      obtain ⟨chars, rfl, rfl⟩ := denotes
      rfl
  | list texts =>
      obtain ⟨items, isList, spelled⟩ := Datum.toValue_list_eq_ok_iff.mp denotes
      cases isList
      simp only [List.forall₂_map_left_iff, hasText] at spelled
      rw [← List.forall₂_map_right_iff, List.forall₂_eq_eq_eq] at spelled
      rw [spelled, List.map_map]
      rfl
  | mapping entries =>
      obtain ⟨built, isAssoc, spelled⟩ := Datum.toValue_mapping_eq_ok_iff.mp denotes
      cases isAssoc
      have same : entries = built.pairs.map (Prod.map Text.ofChars Text.ofChars) := by
        rw [← List.forall₂_eq_eq_eq, List.forall₂_map_right_iff]
        refine (List.forall₂_map_left_iff.mp spelled).imp ?_
        intro entry pair denoted
        exact Prod.ext (hasText.mp denoted.1) (hasText.mp denoted.2)
      rw [same, List.map_map]
      rfl

theorem coerce_shaped (values : Bindings Value) :
    coerce (values.map fun entry => (entry.1, .shaped entry.2)) = .ok values := by
  induction values with
  | nil => rfl
  | cons entry rest inductionHypothesis =>
      rw [List.map_cons, coerce, inductionHypothesis]
      rfl

/-- A payload gives a value in one of the three shapes exactly if it spells its strings, which have
no surrogates.  Of the text, the list and the mapping that a value may be there is exactly one; it
is a native datum, it denotes the value again, and no other native datum does.  Bindings that have
been coerced are coerced to themselves. -/
theorem native_inverse :
    (∀ payload value, (buildText payload = .ok value ∨ buildList payload = .ok value ∨
      buildAssoc payload = .ok value) ↔ payload.Spells value) ∧
    (∀ value : Value, (∀ text ∈ value.texts, text.IsUnicode) ∧
      ∃ native, value.nativeForms = [native] ∧
        ∀ datum : Datum, datum.IsNative ∧ datum.toValue = .ok (some value) ↔ datum = native) ∧
    ∀ bindings, (do
      let values ← coerce bindings
      coerce (values.map fun entry => (entry.1, .shaped entry.2))) = coerce bindings := by
  refine ⟨?_, ?_, ?_⟩
  · intro payload value
    exact Datum.spells_iff.symm
  · intro value
    refine ⟨fun text => isUnicode_of_mem_texts, value.native, value.nativeForms_eq, ?_⟩
    intro datum
    constructor
    · rintro ⟨isNative, denotes⟩
      exact eq_native isNative denotes
    · rintro rfl
      exact ⟨value.native_isNative, value.toValue_native⟩
  · intro bindings
    cases coerce bindings with
    | error error => rfl
    | ok values => exact coerce_shaped values

end Value

end UriTemplate
