import UriTemplate.Catalog.Document
import UriTemplate.Proofs.Expansion.Relevance
import Mathlib.Data.List.Forall2

/-!
What a document declares.

`Describes` says which base a document declares and which names, with the text
that stands under each of them, without going through the steps of a reading.  The
steps that read the top, the base and the templates give just what is declared, so
a document declares at most one base and one list of names (`Describes.unique`).
-/

namespace UriTemplate

namespace Document

/-- The mapping with the given entries is what stands at a place. -/
def IsMapping (document : Document) (item : Item) (entries : List (Datum × Item)) : Prop :=
  ∃ number, item = .numbered number ∧ document.collections[number]? = some (.mapping entries)

variable {document : Document} {item : Item} {entries : List (Datum × Item)}

theorem entries?_eq_some_iff :
    document.entries? item = some entries ↔ document.IsMapping item entries := by
  unfold entries? IsMapping
  cases item with
  | plain datum => simp
  | numbered number =>
      dsimp only
      split
      · next found held => simp [held]
      · next noMapping =>
          simp only [reduceCtorEq, Item.numbered.injEq, exists_eq_left', false_iff]
          exact noMapping entries

/-- No list, set or mapping is a text. -/
theorem datum_eq_text_iff {raw : Text} :
    document.datum item = .text raw ↔ item = .plain (.text raw) := by
  cases item with
  | plain content => simp [datum, datumInside]
  | numbered number =>
      simp only [datum, datumInside, List.contains_nil, reduceCtorEq, iff_false]
      split <;> simp

end Document

namespace Catalog

open Document

/-- What stands under a key, which is null if the key is missing. -/
inductive Under (key : Text) : List (Datum × Item) → Item → Prop
  | missing {entries} : (∀ entry ∈ entries, entry.1 ≠ .text key) →
      Under key entries (.plain .null)
  | first (before) {after item} : (∀ entry ∈ before, entry.1 ≠ .text key) →
      Under key (before ++ (.text key, item) :: after) item

/-- The top of a document: its entries, or none if the document is empty. -/
inductive HasTop (document : Document) : List (Datum × Item) → Prop
  | empty : document.root = .plain .null → HasTop document []
  | mapping {top} : document.IsMapping document.root top → HasTop document top

inductive HasBase (top : List (Datum × Item)) : Text → Prop
  | missing : Under "base" top (.plain .null) → HasBase top []
  | text {base} : Under "base" top (.plain (.text base)) → HasBase top base

inductive HasTemplates (document : Document) (top : List (Datum × Item)) :
    List (Datum × Item) → Prop
  | missing : Under "templates" top (.plain .null) → HasTemplates document top []
  | mapping {item entries} : Under "templates" top item → document.IsMapping item entries →
      HasTemplates document top entries

/-- An entry of a mapping declares a name with a text. -/
def Declares (entry : Datum × Item) (declared : Text × Text) : Prop :=
  nameOf entry.1 = .ok declared.1 ∧ entry.2 = .plain (.text declared.2)

/-- What a document declares: a base, and names with their texts in the order of the document. -/
inductive Describes (document : Document) (base : Text) (declared : Bindings Text) : Prop
  | intro {top entries} : HasTop document top →
      (∀ entry ∈ top, nameOf entry.1 = .ok "base" ∨ nameOf entry.1 = .ok "templates") →
      HasBase top base → HasTemplates document top entries →
      List.Forall₂ Declares entries declared → Describes document base declared

section Under

variable {key : Text} {entry : Datum × Item} {before after : List (Datum × Item)}

theorem Under.cons {item : Item} (different : entry.1 ≠ .text key) (under : Under key after item) :
    Under key (entry :: after) item := by
  cases under with
  | missing absent => exact .missing (List.forall_mem_cons.mpr ⟨different, absent⟩)
  | first before earlier =>
      exact .first (entry :: before) (List.forall_mem_cons.mpr ⟨different, earlier⟩)

theorem valueAt?_cons_of_ne (different : entry.1 ≠ .text key) :
    valueAt? key (entry :: after) = valueAt? key after := by
  obtain ⟨other, item⟩ := entry
  cases other with
  | text name =>
      rw [valueAt?, if_neg]
      rintro rfl
      exact different rfl
  | _ => rfl

theorem valueAt?_append_of_ne (different : ∀ entry ∈ before, entry.1 ≠ .text key)
    (after : List (Datum × Item)) : valueAt? key (before ++ after) = valueAt? key after := by
  induction before with
  | nil => rfl
  | cons entry rest inductionHypothesis =>
      rw [List.forall_mem_cons] at different
      rw [List.cons_append, valueAt?_cons_of_ne different.1, inductionHypothesis different.2]

theorem under_valueAt? (key : Text) (entries : List (Datum × Item)) :
    Under key entries ((valueAt? key entries).getD (.plain .null)) := by
  induction entries with
  | nil => exact .missing (List.forall_mem_nil _)
  | cons entry rest inductionHypothesis =>
      by_cases same : entry.1 = .text key
      · obtain ⟨other, item⟩ := entry
        cases same
        rw [valueAt?, if_pos rfl]
        exact .first [] (List.forall_mem_nil _)
      · rw [valueAt?_cons_of_ne same]
        exact inductionHypothesis.cons same

theorem under_iff {entries : List (Datum × Item)} {item : Item} :
    Under key entries item ↔
      valueAt? key entries = some item ∨ valueAt? key entries = none ∧ item = .plain .null := by
  constructor
  · intro under
    cases under with
    | missing absent =>
        right
        rw [← List.append_nil entries, valueAt?_append_of_ne absent]
        exact ⟨rfl, rfl⟩
    | first _ earlier =>
        left
        rw [valueAt?_append_of_ne earlier, valueAt?, if_pos rfl]
  · have under := under_valueAt? key entries
    rintro (found | ⟨without, rfl⟩)
    · rwa [found] at under
    · rwa [without] at under

theorem Under.value {entries : List (Datum × Item)} {item : Item}
    (under : Under key entries item) : (valueAt? key entries).getD (.plain .null) = item := by
  obtain found | ⟨without, rfl⟩ := under_iff.mp under
  · rw [found, Option.getD_some]
  · rw [without, Option.getD_none]

theorem Under.unique {entries : List (Datum × Item)} {item other : Item}
    (under : Under key entries item) (again : Under key entries other) : item = other :=
  under.value.symm.trans again.value

end Under

/-! ## The steps of a reading -/

section Steps

variable {document : Document} {top entries : List (Datum × Item)} {base : Text}

theorem topEntries_eq_ok_iff : topEntries document = .ok top ↔ HasTop document top := by
  unfold topEntries
  constructor
  · intro read
    split at read
    · next isNull =>
        cases read
        exact .empty isNull
    · split at read
      · next found =>
          cases read
          exact .mapping (entries?_eq_some_iff.mp found)
      · contradiction
  · intro hasTop
    cases hasTop with
    | empty isNull => rw [isNull]
    | mapping isMapping =>
        have found := entries?_eq_some_iff.mpr isMapping
        obtain ⟨number, isNumbered, _⟩ := isMapping
        rw [isNumbered] at found ⊢
        dsimp only
        rw [found]

theorem baseOf_eq_ok_iff : baseOf top = .ok base ↔ HasBase top base := by
  unfold baseOf
  constructor
  · intro read
    split at read
    · next without =>
        cases read
        exact .missing (under_iff.mpr (.inr ⟨without, rfl⟩))
    · next isNull =>
        cases read
        exact .missing (under_iff.mpr (.inl isNull))
    · next isText =>
        cases read
        exact .text (under_iff.mpr (.inl isText))
    · contradiction
  · intro hasBase
    cases hasBase with
    | missing under =>
        obtain isNull | ⟨without, _⟩ := under_iff.mp under
        · rw [isNull]
        · rw [without]
    | text under =>
        obtain isText | ⟨_, isNull⟩ := under_iff.mp under
        · rw [isText]
        · cases isNull

theorem templateEntries_eq_ok_iff {read : List (Datum × Datum)} :
    templateEntries document top = .ok read ↔
      ∃ entries, HasTemplates document top entries ∧
        read = entries.map fun entry => (entry.1, document.datum entry.2) := by
  unfold templateEntries
  constructor
  · intro reads
    split at reads
    · next without =>
        cases reads
        exact ⟨[], .missing (under_iff.mpr (.inr ⟨without, rfl⟩)), rfl⟩
    · next isNull =>
        cases reads
        exact ⟨[], .missing (under_iff.mpr (.inl isNull)), rfl⟩
    · next item _ found =>
        split at reads
        · next entries isMapping =>
            cases reads
            exact ⟨entries, .mapping (under_iff.mpr (.inl found))
              (entries?_eq_some_iff.mp isMapping), rfl⟩
        · contradiction
  · rintro ⟨entries, hasTemplates, rfl⟩
    cases hasTemplates with
    | missing under =>
        obtain isNull | ⟨without, _⟩ := under_iff.mp under
        · rw [isNull]
          rfl
        · rw [without]
          rfl
    | @mapping item _ under isMapping =>
        have found := entries?_eq_some_iff.mpr isMapping
        obtain ⟨number, rfl, _⟩ := isMapping
        obtain isItem | ⟨_, isNull⟩ := under_iff.mp under
        · rw [isItem]
          dsimp only
          rw [found]
        · contradiction

theorem isEmpty_unrecognized_iff {names : List Text} :
    (unrecognized names).isEmpty = true ↔ ∀ name ∈ names, name ∈ recognizedKeys := by
  rw [List.isEmpty_iff, List.eq_nil_iff_forall_not_mem]
  simp [unrecognized, List.mem_eraseDups]

theorem mapM_nameOf_iff :
    (∃ names, (top.mapM fun entry => nameOf entry.1) = .ok names ∧
      (unrecognized names).isEmpty = true) ↔
    ∀ entry ∈ top, nameOf entry.1 = .ok "base" ∨ nameOf entry.1 = .ok "templates" := by
  simp only [isEmpty_unrecognized_iff, Outcome.exists_mapM_eq_ok_iff]
  simp [recognizedKeys, and_or_left, exists_or]

theorem HasTemplates.unique {others : List (Datum × Item)}
    (has : HasTemplates document top entries) (again : HasTemplates document top others) :
    entries = others := by
  cases has with
  | missing under =>
      cases again with
      | missing => rfl
      | mapping other isMapping =>
          obtain ⟨number, rfl, _⟩ := isMapping
          cases under.unique other
  | mapping under isMapping =>
      cases again with
      | missing other =>
          obtain ⟨number, rfl, _⟩ := isMapping
          cases under.unique other
      | mapping other isOther =>
          cases under.unique other
          rw [← entries?_eq_some_iff] at isMapping isOther
          rw [isMapping] at isOther
          exact Option.some.inj isOther

theorem rightUnique_declares : Relator.RightUnique Declares := by
  rintro ⟨key, item⟩ ⟨name, raw⟩ ⟨other, otherRaw⟩ ⟨isNamed, isText⟩ ⟨isOther, isOtherText⟩
  rw [isNamed] at isOther
  rw [isText] at isOtherText
  cases isOther
  cases isOtherText
  rfl

/-- A document declares one base and one list of names with texts. -/
theorem Describes.unique {other : Text} {declared others : Bindings Text}
    (describes : Describes document base declared) (again : Describes document other others) :
    base = other ∧ declared = others := by
  obtain ⟨isTop, _, isBase, hasTemplates, declares⟩ := describes
  obtain ⟨isTopAgain, _, isBaseAgain, hasTemplatesAgain, declaresAgain⟩ := again
  rw [← topEntries_eq_ok_iff] at isTop isTopAgain
  rw [isTop] at isTopAgain
  cases isTopAgain
  rw [← baseOf_eq_ok_iff] at isBase isBaseAgain
  rw [isBase] at isBaseAgain
  cases isBaseAgain
  cases hasTemplates.unique hasTemplatesAgain
  exact ⟨rfl, rightUnique_declares.forall₂ declares declaresAgain⟩

end Steps

end Catalog

end UriTemplate
