import UriTemplate.Proofs.Catalog.Acceptance

/-!
Why a document gives no catalog.

The top, the base and the templates are checked in this order, and then the entries
in the order of the document.  The first bad entry is reported: for its name, for
what stands under it, or for the defect of its text behind the base.  Such a defect
is reported as reading the text reports it, and only the detail says in addition
under which name it was found (`ofDocument_refuses`).
-/

namespace UriTemplate

open Outcome

namespace Catalog

open Document

/-- The keys of a document are no others than those of the base and of the templates. -/
def HasRecognizedKeys (top : List (Datum × Item)) : Prop :=
  ∀ entry ∈ top, nameOf entry.1 = .ok "base" ∨ nameOf entry.1 = .ok "templates"

/-- The names of entries, as far as they have any. -/
def entryNames (entries : List (Datum × Item)) : List Text :=
  entries.filterMap fun entry => (nameOf entry.1).toOption

/-- Why an entry is refused behind earlier ones: for its name first, then for what stands under
it. -/
inductive EntryRefused (document : Document) (base : Text) (earlier : List (Datum × Item)) :
    Datum × Item → DocumentError → Prop
  | unnamed {key item error} :
      nameOf key = .error error →
      EntryRefused document base earlier (key, item) error
  | duplicate {key item name} :
      nameOf key = .ok name →
      name ∈ entryNames earlier →
      EntryRefused document base earlier (key, item) (.duplicateName name)
  | notText {key item name} :
      nameOf key = .ok name →
      name ∉ entryNames earlier →
      (∀ raw, item ≠ .plain (.text raw)) →
      (document.datum item).isDisplayable = true →
      EntryRefused document base earlier (key, item)
        (.templateNotText name (document.datum item))
  | undisplayable {key item name} :
      nameOf key = .ok name →
      name ∉ entryNames earlier →
      (document.datum item).isDisplayable = false →
      EntryRefused document base earlier (key, item) .tooManyDigits
  | defective {key name raw defect} :
      nameOf key = .ok name →
      name ∉ entryNames earlier →
      Template.ofText (base ++ raw) = .error defect →
      EntryRefused document base earlier (key, .plain (.text raw))
        (.defective name (base ++ raw) defect)

/-- Why a document is refused.  Each check counts only if all those before it are passed. -/
inductive Refused (document : Document) : DocumentError → Prop
  | top :
      (∀ top, ¬HasTop document top) →
      Refused document .notMapping
  | unnamed {top error} :
      HasTop document top →
      FirstRefused (fun entry cause => nameOf entry.1 = .error cause) top error →
      Refused document error
  | unrecognized {top names} :
      HasTop document top →
      List.Forall₂ (fun entry name => nameOf entry.1 = .ok name) top names →
      ¬HasRecognizedKeys top →
      Refused document (.unrecognizedKeys (unrecognized names))
  | base {top} :
      HasTop document top →
      HasRecognizedKeys top →
      (∀ base, ¬HasBase top base) →
      Refused document .baseNotText
  | templates {top base} :
      HasTop document top →
      HasRecognizedKeys top →
      HasBase top base →
      (∀ entries, ¬HasTemplates document top entries) →
      Refused document .templatesNotMapping
  | entry {top base entries error} :
      HasTop document top →
      HasRecognizedKeys top →
      HasBase top base →
      HasTemplates document top entries →
      FirstRefusedAfter (EntryRefused document base) [] entries error →
      Refused document error

variable {document : Document} {top entries : List (Datum × Item)} {base : Text}
  {error : DocumentError}

/-! ## The checks before the entries -/

theorem topEntries_eq_error_iff :
    topEntries document = .error error ↔ (∀ top, ¬HasTop document top) ∧ error = .notMapping := by
  simp only [← topEntries_eq_ok_iff]
  apply eq_error_iff_of_only
  intro cause failed
  unfold topEntries at failed
  split at failed
  · contradiction
  · split at failed <;> cases failed
    rfl

theorem baseOf_eq_error_iff :
    baseOf top = .error error ↔ (∀ base, ¬HasBase top base) ∧ error = .baseNotText := by
  simp only [← baseOf_eq_ok_iff]
  apply eq_error_iff_of_only
  intro cause failed
  unfold baseOf at failed
  split at failed <;> cases failed
  rfl

theorem templateEntries_eq_error_iff :
    templateEntries document top = .error error ↔
      (∀ entries, ¬HasTemplates document top entries) ∧ error = .templatesNotMapping := by
  have none_iff : (∀ entries, ¬HasTemplates document top entries) ↔
      ∀ read, templateEntries document top ≠ .ok read := by
    simp only [ne_eq, templateEntries_eq_ok_iff]
    constructor
    · rintro missing read ⟨entries, hasTemplates, _⟩
      exact missing entries hasTemplates
    · intro missing entries hasTemplates
      exact missing _ ⟨entries, hasTemplates, rfl⟩
  rw [none_iff]
  apply eq_error_iff_of_only
  intro cause failed
  unfold templateEntries at failed
  split at failed
  · contradiction
  · contradiction
  · split at failed <;> cases failed
    rfl

/-! ## The entries -/

theorem readNamed_of_mem {taken : List Text} {name : Text} (isTaken : name ∈ taken)
    (datum : Datum) : readNamed base taken name datum = .error (.duplicateName name) := by
  unfold readNamed
  exact if_pos isTaken

theorem readNamed_of_not_text {taken : List Text} {name : Text} (free : name ∉ taken)
    {datum : Datum} (noText : ∀ raw, datum ≠ .text raw) :
    readNamed base taken name datum =
      .error (if datum.isDisplayable then .templateNotText name datum else .tooManyDigits) := by
  unfold readNamed
  rw [if_neg free]
  cases datum with
  | text raw => exact absurd rfl (noText raw)
  | _ => exact (apply_ite _ _ _ _).symm

theorem readNamed_of_rejected {taken : List Text} {name raw : Text} (free : name ∉ taken)
    {defect : Defect} (rejected : Template.ofText (base ++ raw) = .error defect) :
    readNamed base taken name (.text raw) = .error (.defective name (base ++ raw) defect) := by
  unfold readNamed
  rw [if_neg free]
  dsimp only
  rw [rejected]

section Entries

variable {earlier : List (Datum × Item)} {taken : List Text}
  (sameNames : ∀ name, name ∈ taken ↔ name ∈ entryNames earlier)
include sameNames

theorem readEntry_eq_error_iff {entry : Datum × Item} :
    readEntry base taken (entry.1, document.datum entry.2) = .error error ↔
      EntryRefused document base earlier entry error := by
  obtain ⟨key, item⟩ := entry
  rw [readEntry, bind_eq_error_iff]
  constructor
  · rintro (failed | ⟨name, isNamed, failed⟩)
    · exact .unnamed failed
    · unfold readNamed at failed
      split at failed
      · next isTaken =>
          cases failed
          exact .duplicate isNamed ((sameNames name).mp isTaken)
      · next isFree =>
          have free := (sameNames name).not.mp isFree
          split at failed
          · next raw isText =>
              cases datum_eq_text_iff.mp isText
              split at failed
              · contradiction
              · next defect rejected =>
                  cases failed
                  exact .defective isNamed free rejected
          · next noText =>
              split at failed
              · next displayable =>
                  cases failed
                  refine .notText isNamed free ?_ displayable
                  intro raw isText
                  exact noText raw (datum_eq_text_iff.mpr isText)
              · next hidden =>
                  cases failed
                  exact .undisplayable isNamed free (Bool.eq_false_iff.mpr hidden)
  · intro refused
    cases refused with
    | unnamed failed => exact Or.inl failed
    | duplicate isNamed among =>
        exact Or.inr ⟨_, isNamed, readNamed_of_mem ((sameNames _).mpr among) _⟩
    | notText isNamed free noText displayable =>
        refine Or.inr ⟨_, isNamed, ?_⟩
        rw [readNamed_of_not_text ((sameNames _).not.mpr free), if_pos displayable]
        exact fun raw isText => noText raw (datum_eq_text_iff.mp isText)
    | undisplayable isNamed free hidden =>
        refine Or.inr ⟨_, isNamed, ?_⟩
        rw [readNamed_of_not_text ((sameNames _).not.mpr free), hidden]
        · rfl
        · intro raw isText
          dsimp only at isText
          rw [isText] at hidden
          contradiction
    | defective isNamed free rejected =>
        exact Or.inr ⟨_, isNamed, readNamed_of_rejected ((sameNames _).not.mpr free) rejected⟩

omit sameNames in
theorem mem_entryNames_concat_iff {entry : Datum × Item} {named name : Text}
    (isNamed : nameOf entry.1 = .ok named) :
    name ∈ entryNames (earlier ++ [entry]) ↔ name = named ∨ name ∈ entryNames earlier := by
  rw [entryNames, List.filterMap_append, List.mem_append, ← entryNames, or_comm]
  simp [isNamed, Except.toOption]

theorem readEntries_eq_error_iff :
    readEntries base taken (entries.map fun entry => (entry.1, document.datum entry.2)) =
        .error error ↔
      FirstRefusedAfter (EntryRefused document base) earlier entries error := by
  induction entries generalizing earlier taken with
  | nil => simp [readEntries]
  | cons entry rest inductionHypothesis =>
      have refused_iff (cause : DocumentError) :
          readEntry base taken (entry.1, document.datum entry.2) = .error cause ↔
            EntryRefused document base earlier entry cause :=
        readEntry_eq_error_iff sameNames
      rw [List.map_cons, readEntries, bind_eq_error_iff, firstRefusedAfter_cons_iff, refused_iff]
      refine or_congr Iff.rfl ?_
      have next {named : Text × Template}
          (read : readEntry base taken (entry.1, document.datum entry.2) = .ok named) :
          readEntries base (named.1 :: taken)
              (rest.map fun entry => (entry.1, document.datum entry.2)) = .error error ↔
            FirstRefusedAfter (EntryRefused document base) (earlier ++ [entry]) rest error := by
        obtain ⟨declared, declares, reads, _⟩ := readEntry_eq_ok_iff.mp read
        apply inductionHypothesis
        intro name
        rw [List.mem_cons, sameNames, reads.1, mem_entryNames_concat_iff declares.1]
      simp only [← refused_iff]
      cases read : readEntry base taken (entry.1, document.datum entry.2) with
      | error cause => simp
      | ok named => simp [bind_eq_error_iff, next read]

end Entries

/-! ## The whole document -/

theorem hasRecognizedKeys_iff {names : List Text}
    (areNames : (top.mapM fun entry => nameOf entry.1) = .ok names) :
    HasRecognizedKeys top ↔ (unrecognized names).isEmpty = true := by
  rw [HasRecognizedKeys, ← mapM_nameOf_iff, areNames]
  simp

/-- What is left to do once the keys of a document are known to be recognized. -/
theorem ofDocument_of_recognized (isTop : HasTop document top)
    (recognized : HasRecognizedKeys top) :
    ofDocument document = do
      let base ← baseOf top
      let templates ← templateEntries document top
      return ⟨← readEntries base [] templates⟩ := by
  obtain ⟨names, areNames, isEmpty⟩ := mapM_nameOf_iff.mpr recognized
  rw [ofDocument, topEntries_eq_ok_iff.mpr isTop, ok_bind, areNames, ok_bind, if_pos isEmpty]

/-- Once all other checks are passed, a document is refused as its entries are. -/
theorem ofDocument_eq_error_iff_of_checked (isTop : HasTop document top)
    (recognized : HasRecognizedKeys top) (isBase : HasBase top base)
    (hasTemplates : HasTemplates document top entries) :
    ofDocument document = .error error ↔
      FirstRefusedAfter (EntryRefused document base) [] entries error := by
  have sameNames : ∀ name, name ∈ [] ↔ name ∈ entryNames [] := fun _ => Iff.rfl
  rw [ofDocument_of_recognized isTop recognized, baseOf_eq_ok_iff.mpr isBase, ok_bind,
    templateEntries_eq_ok_iff.mpr ⟨_, hasTemplates, rfl⟩, ok_bind, bind_eq_error_iff,
    readEntries_eq_error_iff sameNames]
  simp

theorem ofDocument_eq_error_iff : ofDocument document = .error error ↔ Refused document error := by
  constructor
  · intro failed
    by_cases noTop : ∀ top, ¬HasTop document top
    · rw [ofDocument, topEntries_eq_error_iff.mpr ⟨noTop, rfl⟩] at failed
      cases failed
      exact .top noTop
    obtain ⟨top, isTop⟩ := not_forall_not.mp noTop
    by_cases recognized : HasRecognizedKeys top
    · by_cases noBase : ∀ base, ¬HasBase top base
      · rw [ofDocument_of_recognized isTop recognized,
          baseOf_eq_error_iff.mpr ⟨noBase, rfl⟩] at failed
        cases failed
        exact .base isTop recognized noBase
      obtain ⟨base, isBase⟩ := not_forall_not.mp noBase
      by_cases noTemplates : ∀ entries, ¬HasTemplates document top entries
      · rw [ofDocument_of_recognized isTop recognized, baseOf_eq_ok_iff.mpr isBase, ok_bind,
          templateEntries_eq_error_iff.mpr ⟨noTemplates, rfl⟩] at failed
        cases failed
        exact .templates isTop recognized isBase noTemplates
      obtain ⟨entries, hasTemplates⟩ := not_forall_not.mp noTemplates
      exact .entry isTop recognized isBase hasTemplates
        ((ofDocument_eq_error_iff_of_checked isTop recognized isBase hasTemplates).mp failed)
    · rw [ofDocument, topEntries_eq_ok_iff.mpr isTop, ok_bind] at failed
      cases areNames : top.mapM fun entry => nameOf entry.1 with
      | error cause =>
          rw [areNames] at failed
          cases failed
          exact .unnamed isTop ((mapM_eq_error_iff fun _ _ => Iff.rfl).mp areNames)
      | ok names =>
          rw [areNames, ok_bind,
            if_neg ((hasRecognizedKeys_iff areNames).not.mp recognized)] at failed
          cases failed
          exact .unrecognized isTop (mapM_eq_ok_iff.mp areNames) recognized
  · intro refused
    cases refused with
    | top noTop =>
        rw [ofDocument, topEntries_eq_error_iff.mpr ⟨noTop, rfl⟩]
        rfl
    | unnamed isTop failed =>
        rw [ofDocument, topEntries_eq_ok_iff.mpr isTop, ok_bind,
          (mapM_eq_error_iff fun _ _ => Iff.rfl).mpr failed]
        rfl
    | unrecognized isTop areNames notRecognized =>
        rw [← mapM_eq_ok_iff] at areNames
        rw [ofDocument, topEntries_eq_ok_iff.mpr isTop, ok_bind, areNames, ok_bind,
          if_neg ((hasRecognizedKeys_iff areNames).not.mp notRecognized)]
        rfl
    | base isTop recognized noBase =>
        rw [ofDocument_of_recognized isTop recognized, baseOf_eq_error_iff.mpr ⟨noBase, rfl⟩]
        rfl
    | templates isTop recognized isBase noTemplates =>
        rw [ofDocument_of_recognized isTop recognized, baseOf_eq_ok_iff.mpr isBase, ok_bind,
          templateEntries_eq_error_iff.mpr ⟨noTemplates, rfl⟩]
        rfl
    | entry isTop recognized isBase hasTemplates failed =>
        exact (ofDocument_eq_error_iff_of_checked isTop recognized isBase hasTemplates).mpr failed

/-- A document is refused by the first check that it does not pass.  Behind the checks of the top,
the keys, the base and the templates it is refused as soon as one of its entries is, and then as the
first of them.  A template that cannot be read is reported in the category of its defect, with the
fragment and the position of the defect in the text behind the base, and with the name before the
detail. -/
theorem ofDocument_refuses (document : Document) :
    (∀ error, ofDocument document = .error error ↔ Refused document error) ∧
    (∀ top base entries, HasTop document top → HasRecognizedKeys top → HasBase top base →
      HasTemplates document top entries →
      (∀ error, ofDocument document = .error error ↔
        FirstRefusedAfter (EntryRefused document base) [] entries error) ∧
      ((∃ error, ofDocument document = .error error) ↔
        ∃ earlier entry later, entries = earlier ++ entry :: later ∧
          ∃ error, EntryRefused document base earlier entry error)) ∧
    ∀ name (raw : Text) (defect : Defect),
      DocumentError.defectReport name defect =
        ⟨defect.report.category, Text.concat ["template '", name, "': ", defect.report.detail],
          defect.report.fragment, defect.report.position⟩ ∧
      (DocumentError.defective name raw defect).message =
        Text.concat [defect.report.category.label, ": template '", name, "': ",
          defect.report.detail] := by
  refine ⟨?_, ?_, ?_⟩
  · intro error
    exact ofDocument_eq_error_iff
  · intro top base entries isTop recognized isBase hasTemplates
    have refused_iff (error : DocumentError) : ofDocument document = .error error ↔
        FirstRefusedAfter (EntryRefused document base) [] entries error :=
      ofDocument_eq_error_iff_of_checked isTop recognized isBase hasTemplates
    refine ⟨refused_iff, ?_⟩
    simp only [refused_iff, exists_firstRefusedAfter_iff, List.nil_append]
  · intro name raw defect
    have joined : Text.ofString ": template '" =
        Text.ofString ": " ++ Text.ofString "template '" := rfl
    refine ⟨rfl, ?_⟩
    simp [joined, DocumentError.message, DocumentError.defectReport, Report.message,
      Defect.report, Text.concat]

/-- The second entry ends the expression that the base begins, with a length that is none.  The
third one has the name of the first and is no text either. -/
theorem ofDocument_refuses_length :
    let one : Datum × Item := (.integer 1, .plain (.text "\x7d"))
    let two : Datum × Item := (.text "b", .plain (.text ":0\x7d"))
    let three : Datum × Item := (.text "1", .plain (.integer 3))
    let document : Document :=
      ⟨#[.mapping [(.text "templates", .numbered 1), (.text "base", .plain (.text "/x\x7ba"))],
        .mapping [one, two, three]], .numbered 0⟩
    let error : DocumentError := .defective "b" "/x\x7ba:0\x7d" (.badLength 3 "a:0" "0")
    ofDocument document = .error error ∧
    EntryRefused document "/x\x7ba" [one, two] three (.duplicateName "1") ∧
    error.message = Text.concat ["Invalid modifier", ": template '", "b", "': ",
      "Invalid prefix length: '0' (expected an integer from 1 to 9999)"] := by
  intro one two three document error
  let top : List (Datum × Item) :=
    [(.text "templates", .numbered 1), (.text "base", .plain (.text "/x\x7ba"))]
  have isTop : HasTop document top := .mapping ⟨0, rfl, rfl⟩
  have recognized : HasRecognizedKeys top := by
    simp [top, HasRecognizedKeys, nameOf, Datum.isDisplayable, Datum.asText]
  have isBase : HasBase top "/x\x7ba" := baseOf_eq_ok_iff.mp rfl
  have hasTemplates : HasTemplates document top [one, two, three] := by
    have under : Under "templates" top (.numbered 1) := .first [] (List.forall_mem_nil _)
    exact .mapping under ⟨1, rfl, rfl⟩
  obtain ⟨_, checked, reports⟩ := ofDocument_refuses document
  have isNamed : nameOf (.integer 1) = .ok "1" := by
    rw [nameOf, if_pos (by decide +kernel)]
    exact congrArg Except.ok (by decide +kernel)
  have good : ∀ cause, ¬EntryRefused document "/x\x7ba" [] one cause := by
    have reads : (readEntry "/x\x7ba" [] (.integer 1, .text "\x7d")).isOk = true := by
      decide +kernel
    intro cause refused
    have failed : readEntry "/x\x7ba" [] (one.1, document.datum one.2) = .error cause :=
      (readEntry_eq_error_iff fun _ => Iff.rfl).mpr refused
    have impossible : (Except.error cause : Except DocumentError (Text × Template)).isOk = true :=
      failed ▸ reads
    contradiction
  have defective : Template.ofText (Text.ofString "/x\x7ba" ++ Text.ofString ":0\x7d") =
      .error (.badLength 3 "a:0" "0") :=
    Template.ofText_eq_error_iff.mpr (by decide +kernel)
  have rejected : EntryRefused document "/x\x7ba" [one] two error :=
    .defective rfl (by decide +kernel) defective
  refine ⟨?_, ?_, (reports "b" _ _).2⟩
  · refine ((checked top _ _ isTop recognized isBase hasTemplates).1 error).mpr ?_
    exact firstRefusedAfter_cons_iff.mpr (Or.inr ⟨good,
      firstRefusedAfter_cons_iff.mpr (Or.inl rejected)⟩)
  · refine .duplicate rfl ?_
    decide +kernel

end Catalog

end UriTemplate
