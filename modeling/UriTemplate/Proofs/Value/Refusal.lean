import UriTemplate.Proofs.Text.Surrogates
import UriTemplate.Proofs.Value.Coercion

/-!
Which of several defects is reported.

Bindings, lists and tuples are refused as their first member that is refused, for
whatever reason.  A mapping is gone through twice: a key or value without a text
is reported even if surrogates stand before it, and a key that is repeated only if
there is nothing else to report.  Pairs that are given as such are gone through
once, so that the first bad part is reported (`coerce_reports_first`).
-/

namespace UriTemplate

open Outcome

/-! ## Texts in their roles -/

theorem Datum.kind_eq_str_iff {datum : Datum} :
    datum.kind = "str" ↔ ∃ text, datum = .text text := by
  cases datum with
  | enclosing isMapping => cases isMapping <;> simp [kind]
  | shaped value => cases value <;> simp [kind, Value.shape]
  | _ => simp [kind]

namespace Role

/-- Why a datum cannot stand in a role: it is no text, or one with surrogates. -/
inductive Refuses (role : Role) : Datum → ValueError → Prop where
  | notText {datum} :
      datum.kind ≠ "str" →
      role.Refuses datum (.notText role datum.kind)
  | surrogates {text} :
      ¬text.IsUnicode →
      role.Refuses (.text text) (.notUnicode role text)

variable {role : Role} {error : ValueError}

theorem chars_eq_ok_iff {text : Text} {chars : List Char} :
    role.chars text = .ok chars ↔ text = Text.ofChars chars := by
  rw [← Text.scalars?_eq_some_iff, Role.chars]
  cases text.scalars? <;> simp

theorem chars_eq_error_iff {text : Text} :
    role.chars text = .error error ↔ ¬text.IsUnicode ∧ error = .notUnicode role text := by
  by_cases unicode : text.IsUnicode
  · obtain ⟨chars, spelled⟩ := Text.isUnicode_iff.mp unicode
    simp [unicode, chars_eq_ok_iff.mpr spelled]
  · obtain ⟨split⟩ := Text.exists_firstRun unicode
    simp [unicode, Role.chars, split.scalars?_eq_none, eq_comm]

theorem check_eq_ok_iff {datum : Datum} {chars : List Char} :
    role.check datum = .ok chars ↔ datum = .text (Text.ofChars chars) := by
  cases datum with
  | text text => simp [check, chars_eq_ok_iff]
  | _ => simp [check]

theorem check_eq_error_iff {datum : Datum} :
    role.check datum = .error error ↔ role.Refuses datum error := by
  by_cases isText : ∃ text, datum = .text text
  · obtain ⟨text, rfl⟩ := isText
    rw [check, chars_eq_error_iff]
    constructor
    · rintro ⟨broken, rfl⟩
      exact .surrogates broken
    · rintro (other | broken)
      · contradiction
      · exact ⟨broken, rfl⟩
  · have fails : role.check datum = .error (.notText role datum.kind) := by
      cases datum with
      | text text => exact absurd ⟨text, rfl⟩ isText
      | _ => rfl
    rw [fails, Except.error.injEq]
    constructor
    · rintro rfl
      exact .notText (Datum.kind_eq_str_iff.not.mpr isText)
    · rintro (_ | _)
      · rfl
      · exact absurd ⟨_, rfl⟩ isText

end Role

/-! ## Texts and numbers -/

namespace Datum

/-- The text of a text or number. -/
inductive HasText : Datum → Text → Prop where
  | text (value : Text) :
      HasText (.text value) value
  | integer {value} :
      hasFewDigits value = true →
      HasText (.integer value) (Text.ofInt value)
  | real (value : Binary64) :
      HasText (.real value) value.written

/-- Why a datum has no text. -/
inductive LacksText : Datum → ValueError → Prop where
  | unsupported {datum} :
      datum.kind ∉ ["str", "int", "float"] →
      LacksText datum (.unsupported datum.kind)
  | tooManyDigits {value} :
      hasFewDigits value = false →
      LacksText (.integer value) .tooManyDigits

/-- An item that cannot be taken into a list. -/
inductive ItemRefused : Datum → ValueError → Prop where
  | noText {item error} :
      item.LacksText error →
      ItemRefused item error
  | surrogates {item text} :
      item.HasText text →
      ¬text.IsUnicode →
      ItemRefused item (.notUnicode .listItem text)

variable {datum : Datum} {error : ValueError}

theorem scalarText_eq_ok_iff {text : Text} :
    datum.scalarText = .ok text ↔ datum.HasText text := by
  constructor
  · intro has
    cases datum with
    | text value =>
        cases has
        exact .text _
    | integer value =>
        rw [scalarText] at has
        split at has
        · next few =>
            cases has
            exact .integer few
        · contradiction
    | real value =>
        cases has
        exact .real value
    | _ => contradiction
  · intro has
    cases has with
    | text value => rfl
    | real value => rfl
    | integer few => rw [scalarText, if_pos few]

theorem scalarText_eq_error_iff : datum.scalarText = .error error ↔ datum.LacksText error := by
  constructor
  · intro fails
    cases datum with
    | text value => contradiction
    | integer value =>
        rw [scalarText] at fails
        split at fails
        · contradiction
        · next many =>
            cases fails
            exact .tooManyDigits (Bool.eq_false_iff.mpr many)
    | real value => contradiction
    | enclosing isMapping =>
        cases fails
        cases isMapping <;> exact .unsupported (by simp [kind])
    | shaped value =>
        cases fails
        cases value <;> exact .unsupported (by simp [kind, Value.shape])
    | _ =>
        cases fails
        exact .unsupported (by simp [kind])
  · intro lacks
    cases lacks with
    | unsupported other =>
        cases datum with
        | text | integer | real => simp [kind] at other
        | _ => rfl
    | tooManyDigits many => simp [scalarText, many]

theorem itemChars_eq_ok_iff {chars : List Char} :
    datum.itemChars = .ok chars ↔ datum.HasText (Text.ofChars chars) := by
  rw [itemChars, bind_eq_ok_iff]
  simp [scalarText_eq_ok_iff, Role.chars_eq_ok_iff]

theorem itemChars_eq_error_iff : datum.itemChars = .error error ↔ datum.ItemRefused error := by
  rw [itemChars, bind_eq_error_iff, scalarText_eq_error_iff]
  constructor
  · rintro (lacks | ⟨text, has, fails⟩)
    · exact .noText lacks
    · obtain ⟨broken, rfl⟩ := Role.chars_eq_error_iff.mp fails
      exact .surrogates (scalarText_eq_ok_iff.mp has) broken
  · rintro (lacks | ⟨has, broken⟩)
    · exact Or.inl lacks
    · exact Or.inr ⟨_, scalarText_eq_ok_iff.mpr has, Role.chars_eq_error_iff.mpr ⟨broken, rfl⟩⟩

/-- Why an entry has no texts, the key first. -/
inductive EntryLacksText : Datum × Datum → ValueError → Prop where
  | key {key value error} :
      key.LacksText error →
      EntryLacksText (key, value) error
  | value {key value text error} :
      key.HasText text →
      value.LacksText error →
      EntryLacksText (key, value) error

/-- Where the texts of an entry have surrogates, the key first. -/
inductive EntryHasSurrogates : Text × Text → ValueError → Prop where
  | key {key value} :
      ¬key.IsUnicode →
      EntryHasSurrogates (key, value) (.notUnicode .key key)
  | value {name value} :
      ¬value.IsUnicode →
      EntryHasSurrogates (Text.ofChars name, value) (.notUnicode (.valueOf name) value)

def EntryHasTexts (entry : Datum × Datum) (texts : Text × Text) : Prop :=
  entry.1.HasText texts.1 ∧ entry.2.HasText texts.2

section

variable {entry : Datum × Datum} {texts : Text × Text}

theorem entryTexts_eq_ok_iff : entryTexts entry = .ok texts ↔ EntryHasTexts entry texts := by
  rw [entryTexts, pair_eq_ok_iff, scalarText_eq_ok_iff, scalarText_eq_ok_iff, EntryHasTexts]

theorem entryTexts_eq_error_iff : entryTexts entry = .error error ↔ EntryLacksText entry error := by
  simp only [entryTexts, pair_eq_error_iff, scalarText_eq_ok_iff, scalarText_eq_error_iff]
  constructor
  · rintro (lacks | ⟨text, has, lacks⟩)
    · exact .key lacks
    · exact .value has lacks
  · rintro (lacks | ⟨has, lacks⟩)
    · exact Or.inl lacks
    · exact Or.inr ⟨_, has, lacks⟩

theorem entryChars_eq_ok_iff {pair : List Char × List Char} :
    entryChars texts = .ok pair ↔ texts = pair.map Text.ofChars Text.ofChars := by
  rw [entryChars, pair_eq_ok_iff, Role.chars_eq_ok_iff, Role.chars_eq_ok_iff, Prod.ext_iff]
  rfl

theorem entryChars_eq_error_iff :
    entryChars texts = .error error ↔ EntryHasSurrogates texts error := by
  simp only [entryChars, pair_eq_error_iff, Role.chars_eq_ok_iff, Role.chars_eq_error_iff]
  constructor
  · obtain ⟨key, value⟩ := texts
    rintro (⟨broken, rfl⟩ | ⟨name, rfl, broken, rfl⟩)
    · exact .key broken
    · exact .value broken
  · rintro (broken | broken)
    · exact Or.inl ⟨broken, rfl⟩
    · exact Or.inr ⟨_, rfl, broken, rfl⟩

end

end Datum

/-! ## Repeated keys -/

/-- The first key that stands behind an equal one. -/
def FirstRepeated (keys : List (List Char)) (key : List Char) : Prop :=
  ∃ earlier later, keys = earlier ++ key :: later ∧ earlier.Nodup ∧ key ∈ earlier

namespace AssocList

theorem firstRepeated?_eq_some_iff {seen : List (List Char)} (distinct : seen.Nodup)
    {pairs : List (List Char × List Char)} {key : List Char} :
    firstRepeated? seen pairs = some key ↔
      ∃ earlier later, pairs.map Prod.fst = earlier ++ key :: later ∧
        (earlier ++ seen).Nodup ∧ key ∈ earlier ++ seen := by
  induction pairs generalizing seen with
  | nil => simp [firstRepeated?]
  | cons pair rest inductionHypothesis =>
      obtain ⟨first, content⟩ := pair
      rw [firstRepeated?, List.map_cons]
      by_cases isSeen : first ∈ seen
      · rw [if_pos isSeen, Option.some.injEq]
        constructor
        · rintro rfl
          exact ⟨[], _, rfl, distinct, isSeen⟩
        · rintro ⟨earlier, later, split, apart, _⟩
          cases earlier with
          | nil => exact (List.cons.inj split).1
          | cons other others =>
              -- The key that is seen already would be met again before the first repetition.
              obtain ⟨rfl, _⟩ := List.cons.inj split
              rw [List.cons_append, List.nodup_cons] at apart
              exact absurd (List.mem_append_right others isSeen) apart.1
      · -- The key is now seen: what comes before a repetition and what was seen before are together
        -- the same keys, in another order.
        have moved (earlier : List (List Char)) :
            (first :: earlier ++ seen).Perm (earlier ++ first :: seen) :=
          List.perm_middle.symm
        rw [if_neg isSeen, inductionHypothesis (List.nodup_cons.mpr ⟨isSeen, distinct⟩)]
        constructor
        · rintro ⟨earlier, later, split, apart, among⟩
          refine ⟨first :: earlier, later, by rw [split, List.cons_append], ?_, ?_⟩
          · exact (moved earlier).nodup_iff.mpr apart
          · exact (moved earlier).mem_iff.mpr among
        · rintro ⟨earlier, later, split, apart, among⟩
          cases earlier with
          | nil =>
              obtain ⟨rfl, _⟩ := List.cons.inj split
              contradiction
          | cons other others =>
              obtain ⟨rfl, splitRest⟩ := List.cons.inj split
              exact ⟨others, later, splitRest, (moved others).nodup_iff.mp apart,
                (moved others).mem_iff.mp among⟩

theorem nodup_of_firstRepeated?_eq_none {seen : List (List Char)}
    {pairs : List (List Char × List Char)} (found : firstRepeated? seen pairs = none) :
    (pairs.map Prod.fst).Nodup ∧ ∀ key ∈ pairs.map Prod.fst, key ∉ seen := by
  induction pairs generalizing seen with
  | nil => simp
  | cons pair rest inductionHypothesis =>
      rw [firstRepeated?] at found
      split at found
      · contradiction
      · next isNew =>
          obtain ⟨apart, new⟩ := inductionHypothesis found
          rw [List.map_cons, List.nodup_cons, List.forall_mem_cons]
          exact ⟨⟨fun among => new _ among List.mem_cons_self, apart⟩, isNew,
            fun key among isSeen => new key among (List.mem_cons_of_mem _ isSeen)⟩

variable {pairs : List (List Char × List Char)} {error : ValueError}

theorem ofPairs_eq_ok_iff {entries : AssocList} :
    ofPairs pairs = .ok entries ↔ entries.pairs = pairs := by
  unfold ofPairs
  constructor
  · intro built
    split at built
    · cases built
      rfl
    · contradiction
  · rintro rfl
    exact dif_pos entries.keys_nodup

theorem ofPairs_eq_error_iff :
    ofPairs pairs = .error error ↔
      ∃ key, FirstRepeated (pairs.map Prod.fst) key ∧ error = .duplicateKey key := by
  have found_iff (key : List Char) :
      firstRepeated? [] pairs = some key ↔ FirstRepeated (pairs.map Prod.fst) key := by
    simpa [FirstRepeated] using firstRepeated?_eq_some_iff List.nodup_nil
  by_cases distinct : (pairs.map Prod.fst).Nodup
  · constructor
    · rw [ofPairs, dif_pos distinct]
      intro impossible
      contradiction
    · rintro ⟨key, ⟨earlier, later, split, _, among⟩, _⟩
      rw [split, List.nodup_append] at distinct
      exact absurd rfl (distinct.2.2 key among key List.mem_cons_self)
  · rw [ofPairs, dif_neg distinct]
    cases found : firstRepeated? [] pairs with
    | none => exact absurd (nodup_of_firstRepeated?_eq_none found).1 distinct
    | some key => simp [← found_iff, found, eq_comm]

end AssocList

/-! ## Mappings and pairs -/

namespace Datum

/-- An entry denotes the pair that it has the texts of. -/
def EntryDenotes (entry : Datum × Datum) (pair : List Char × List Char) : Prop :=
  EntryHasTexts entry (pair.map Text.ofChars Text.ofChars)

/-- Why a mapping denotes no value.  Surrogates count only once everything has a text, and
repeated keys only once there are no surrogates. -/
inductive MappingRefused (entries : List (Datum × Datum)) : ValueError → Prop where
  | noText {error} :
      FirstRefused EntryLacksText entries error →
      MappingRefused entries error
  | surrogates {texts error} :
      List.Forall₂ EntryHasTexts entries texts →
      FirstRefused EntryHasSurrogates texts error →
      MappingRefused entries error
  | repeated {pairs : List (List Char × List Char)} {key} :
      List.Forall₂ EntryDenotes entries pairs →
      FirstRepeated (pairs.map Prod.fst) key →
      MappingRefused entries (.duplicateKey key)

/-- Why a pair of data is refused, the key first. -/
inductive PairRefused : Datum × Datum → ValueError → Prop where
  | key {key value error} :
      Role.key.Refuses key error →
      PairRefused (key, value) error
  | value {name value error} :
      (Role.valueOf name).Refuses value error →
      PairRefused (.text (Text.ofChars name), value) error

/-- Two texts as data. -/
def ofPair (pair : List Char × List Char) : Datum × Datum :=
  (.text (Text.ofChars pair.1), .text (Text.ofChars pair.2))

/-- Why pairs of data are refused: repeated keys count only once every pair is good. -/
inductive PairsRefused : List (Datum × Datum) → ValueError → Prop where
  | pair {pairs error} :
      FirstRefused PairRefused pairs error →
      PairsRefused pairs error
  | repeated {contents : List (List Char × List Char)} {key} :
      FirstRepeated (contents.map Prod.fst) key →
      PairsRefused (contents.map ofPair) (.duplicateKey key)

variable {entries : List (Datum × Datum)} {items : List Datum} {error : ValueError}

theorem toValue_list_eq_ok_iff {value? : Option Value} :
    (Datum.list items).toValue = .ok value? ↔
      ∃ contents, value? = some (.list contents) ∧
        List.Forall₂ (fun item chars => item.HasText (Text.ofChars chars)) items contents := by
  simp only [toValue, bind_eq_ok_iff, mapM_eq_ok_iff, itemChars_eq_ok_iff, pure_eq_ok,
    Except.ok.injEq]
  constructor
  · rintro ⟨contents, texts, rfl⟩
    exact ⟨contents, rfl, texts⟩
  · rintro ⟨contents, rfl, texts⟩
    exact ⟨contents, texts, rfl⟩

theorem toValue_list_eq_error_iff :
    (Datum.list items).toValue = .error error ↔ FirstRefused ItemRefused items error := by
  have fails : items.mapM itemChars = .error error ↔ FirstRefused ItemRefused items error :=
    mapM_eq_error_iff fun _ _ => itemChars_eq_error_iff
  simp [toValue, bind_eq_error_iff, fails]

theorem mapM_entryTexts_eq_ok_iff {texts : List (Text × Text)} :
    entries.mapM entryTexts = .ok texts ↔ List.Forall₂ EntryHasTexts entries texts := by
  simp only [mapM_eq_ok_iff, entryTexts_eq_ok_iff]

theorem mapM_entryChars_eq_ok_iff {texts : List (Text × Text)}
    {pairs : List (List Char × List Char)} :
    texts.mapM entryChars = .ok pairs ↔
      texts = pairs.map (Prod.map Text.ofChars Text.ofChars) := by
  simp only [mapM_eq_ok_iff, entryChars_eq_ok_iff]
  rw [← List.forall₂_eq_eq_eq, List.forall₂_map_right_iff]

theorem forall₂_entryHasTexts_iff {pairs : List (List Char × List Char)} :
    List.Forall₂ EntryHasTexts entries (pairs.map (Prod.map Text.ofChars Text.ofChars)) ↔
      List.Forall₂ EntryDenotes entries pairs :=
  List.forall₂_map_right_iff

theorem mapM_entryTexts_eq_error_iff :
    entries.mapM entryTexts = .error error ↔ FirstRefused EntryLacksText entries error :=
  mapM_eq_error_iff fun _ _ => entryTexts_eq_error_iff

theorem mapM_entryChars_eq_error_iff {texts : List (Text × Text)} :
    texts.mapM entryChars = .error error ↔ FirstRefused EntryHasSurrogates texts error :=
  mapM_eq_error_iff fun _ _ => entryChars_eq_error_iff

theorem toValue_mapping_eq_ok_iff {value? : Option Value} :
    (Datum.mapping entries).toValue = .ok value? ↔
      ∃ pairs : AssocList, value? = some (.assoc pairs) ∧
        List.Forall₂ EntryDenotes entries pairs.pairs := by
  simp only [toValue, bind_eq_ok_iff, mapM_entryTexts_eq_ok_iff, mapM_entryChars_eq_ok_iff,
    AssocList.ofPairs_eq_ok_iff, pure_eq_ok, Except.ok.injEq]
  constructor
  · rintro ⟨texts, haveTexts, pairs, rfl, built, rfl, rfl⟩
    exact ⟨built, rfl, forall₂_entryHasTexts_iff.mp haveTexts⟩
  · rintro ⟨built, rfl, denoted⟩
    exact ⟨_, forall₂_entryHasTexts_iff.mpr denoted, _, rfl, built, rfl, rfl⟩

theorem toValue_mapping_eq_error_iff :
    (Datum.mapping entries).toValue = .error error ↔ MappingRefused entries error := by
  simp only [toValue, bind_eq_error_iff, mapM_entryTexts_eq_ok_iff, mapM_entryTexts_eq_error_iff,
    mapM_entryChars_eq_ok_iff, mapM_entryChars_eq_error_iff, AssocList.ofPairs_eq_error_iff]
  constructor
  · rintro (lacks | ⟨texts, haveTexts, broken | ⟨pairs, rfl, ⟨key, first, rfl⟩ | ⟨_, _, none⟩⟩⟩)
    · exact .noText lacks
    · exact .surrogates haveTexts broken
    · exact .repeated (forall₂_entryHasTexts_iff.mp haveTexts) first
    · contradiction
  · intro refused
    cases refused with
    | noText lacks => exact Or.inl lacks
    | surrogates haveTexts broken => exact Or.inr ⟨_, haveTexts, Or.inl broken⟩
    | repeated denoted first =>
        exact Or.inr ⟨_, forall₂_entryHasTexts_iff.mpr denoted,
          Or.inr ⟨_, rfl, Or.inl ⟨_, first, rfl⟩⟩⟩

section

variable {pair : Datum × Datum}

theorem checkPair_eq_ok_iff {content : List Char × List Char} :
    AssocList.checkPair pair.1 pair.2 = .ok content ↔ pair = ofPair content := by
  rw [AssocList.checkPair, pair_eq_ok_iff, Role.check_eq_ok_iff, Role.check_eq_ok_iff,
    Prod.ext_iff]
  rfl

theorem checkPair_eq_error_iff :
    AssocList.checkPair pair.1 pair.2 = .error error ↔ PairRefused pair error := by
  simp only [AssocList.checkPair, pair_eq_error_iff, Role.check_eq_ok_iff,
    Role.check_eq_error_iff]
  constructor
  · obtain ⟨key, value⟩ := pair
    rintro (refused | ⟨name, rfl, refused⟩)
    · exact .key refused
    · exact .value refused
  · rintro (refused | refused)
    · exact Or.inl refused
    · exact Or.inr ⟨_, rfl, refused⟩

end

/-- Pairs given as tuples in a list. -/
def ofTuples (pairs : List (Datum × Datum)) : Datum :=
  .list (pairs.map fun pair => .tuple [pair.1, pair.2])

theorem pairsOf_ofTuples (pairs : List (Datum × Datum)) :
    AssocList.pairsOf (ofTuples pairs) =
      pairs.mapM fun pair => AssocList.checkPair pair.1 pair.2 := by
  have each : (AssocList.pairOf ∘ fun pair : Datum × Datum => .tuple [pair.1, pair.2]) =
      fun pair => AssocList.checkPair pair.1 pair.2 := rfl
  rw [← each, ← List.mapM_map]
  rfl

variable {pairs : List (Datum × Datum)}

theorem pairsOf_ofTuples_eq_ok_iff {contents : List (List Char × List Char)} :
    AssocList.pairsOf (ofTuples pairs) = .ok contents ↔ pairs = contents.map ofPair := by
  simp only [pairsOf_ofTuples, mapM_eq_ok_iff, checkPair_eq_ok_iff]
  rw [← List.forall₂_eq_eq_eq, List.forall₂_map_right_iff]

theorem pairsOf_ofTuples_eq_error_iff :
    AssocList.pairsOf (ofTuples pairs) = .error error ↔ FirstRefused PairRefused pairs error := by
  rw [pairsOf_ofTuples]
  exact mapM_eq_error_iff fun _ _ => checkPair_eq_error_iff

theorem buildAssoc_ofTuples_eq_ok_iff {value : Value} :
    Value.buildAssoc (ofTuples pairs) = .ok value ↔
      ∃ built : AssocList, value = .assoc built ∧ pairs = built.pairs.map ofPair := by
  simp only [Value.buildAssoc, bind_eq_ok_iff, pairsOf_ofTuples_eq_ok_iff,
    AssocList.ofPairs_eq_ok_iff, pure_eq_ok, Except.ok.injEq]
  constructor
  · rintro ⟨_, rfl, built, rfl, rfl⟩
    exact ⟨built, rfl, rfl⟩
  · rintro ⟨built, rfl, rfl⟩
    exact ⟨built.pairs, rfl, built, rfl, rfl⟩

theorem buildAssoc_ofTuples_eq_error_iff :
    Value.buildAssoc (ofTuples pairs) = .error error ↔ PairsRefused pairs error := by
  simp only [Value.buildAssoc, bind_eq_error_iff, pairsOf_ofTuples_eq_ok_iff,
    pairsOf_ofTuples_eq_error_iff, AssocList.ofPairs_eq_error_iff]
  constructor
  · rintro (refused | ⟨contents, rfl, ⟨key, first, rfl⟩ | ⟨_, _, impossible⟩⟩)
    · exact .pair refused
    · exact .repeated first
    · contradiction
  · rintro (refused | first)
    · exact Or.inl refused
    · exact Or.inr ⟨_, rfl, Or.inl ⟨_, first, rfl⟩⟩

end Datum

/-- Bindings are refused as the first entry whose datum is refused; lists and tuples as their first
item without text or with surrogates in it.  A mapping is refused for the first key or value
without text, else for the first one with surrogates, else for the first repeated key; otherwise
it denotes its pairs in order.  Pairs of data are refused for the first key or value that is no
text or has surrogates, else for the first repeated key; otherwise they are kept in order. -/
theorem coerce_reports_first :
    (∀ bindings error, coerce bindings = .error error ↔
      FirstRefused (fun entry cause => entry.2.toValue = .error cause) bindings error) ∧
    (∀ items error,
      ((Datum.list items).toValue = .error error ↔ FirstRefused Datum.ItemRefused items error) ∧
      ((Datum.tuple items).toValue = .error error ↔
        FirstRefused Datum.ItemRefused items error)) ∧
    (∀ entries,
      (∀ error, (Datum.mapping entries).toValue = .error error ↔
        Datum.MappingRefused entries error) ∧
      ∀ value?, (Datum.mapping entries).toValue = .ok value? ↔
        ∃ built : AssocList, value? = some (.assoc built) ∧
          List.Forall₂ Datum.EntryDenotes entries built.pairs) ∧
    ∀ pairs,
      (∀ error, Value.buildAssoc (Datum.ofTuples pairs) = .error error ↔
        Datum.PairsRefused pairs error) ∧
      ∀ value, Value.buildAssoc (Datum.ofTuples pairs) = .ok value ↔
        ∃ built : AssocList, value = .assoc built ∧ pairs = built.pairs.map Datum.ofPair := by
  refine ⟨?_, ?_, ?_, ?_⟩
  · intro bindings error
    exact coerce_eq_error_iff
  · intro items error
    have same : (Datum.tuple items).toValue = (Datum.list items).toValue := by
      simp only [Datum.toValue]
    rw [same]
    exact ⟨Datum.toValue_list_eq_error_iff, Datum.toValue_list_eq_error_iff⟩
  · intro entries
    exact ⟨fun error => Datum.toValue_mapping_eq_error_iff,
      fun value? => Datum.toValue_mapping_eq_ok_iff⟩
  · intro pairs
    exact ⟨fun error => Datum.buildAssoc_ofTuples_eq_error_iff,
      fun value => Datum.buildAssoc_ofTuples_eq_ok_iff⟩

-- Surrogates in a key, with a truth value behind them.
example :
    let entries : List (Datum × Datum) :=
      [(.text [.surrogate 0], .text "a"), (.text "b", .truth true)]
    (Datum.mapping entries).toValue = .error (.unsupported "bool") ∧
      Value.buildAssoc (Datum.ofTuples entries) = .error (.notUnicode .key [.surrogate 0]) :=
  ⟨rfl, rfl⟩

end UriTemplate
