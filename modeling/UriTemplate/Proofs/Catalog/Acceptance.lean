import UriTemplate.Proofs.Catalog.Declaration

/-!
Which documents give a catalog.

A document gives a catalog if and only if it declares distinct names and every
text is a template behind the base; the catalog then holds these templates and no
others (`ofDocument_accepts`).
-/

namespace UriTemplate

namespace Catalog

open Document

section LookUp

variable {catalog : Catalog} {name : Text} {template : Template}

theorem contains_of_keyable {key : Datum} (keyable : key.unkeyable? = none) :
    ∃ found, catalog.contains key = .ok found ∧
      (found = true ↔ ∃ name ∈ catalog.names, key = .text name) := by
  refine ⟨(catalog.find? key).isSome, by rw [contains, keyable], ?_⟩
  cases key with
  | text name =>
      rw [find?, Bindings.isSome_find?_iff]
      simp [names]
  | _ => simp [find?]

theorem get_of_mem (distinct : catalog.names.Nodup) (among : (name, template) ∈ catalog.entries) :
    catalog.get (.text name) = .ok template := by
  have found : catalog.find? (.text name) = some template :=
    (Bindings.find?_eq_some_iff distinct).mpr among
  rw [get, found]
  rfl

theorem expand_of_get {key : Datum} (found : catalog.get key = .ok template)
    (bindings overriding : Bindings Datum) :
    catalog.expand key bindings overriding =
      (template.expand bindings overriding).mapError .badValue := by
  rw [expand, found]
  dsimp only
  cases template.expand bindings overriding <;> rfl

end LookUp

section Entries

variable {document : Document} {entries : List (Datum × Item)} {base : Text}
  {declared : Bindings Text} {named : Bindings Template}

theorem readNamed_eq_ok_iff {taken : List Text} {name : Text} {datum : Datum}
    {named : Text × Template} :
    readNamed base taken name datum = .ok named ↔
      name ∉ taken ∧ named.1 = name ∧
        ∃ raw, datum = .text raw ∧ Template.ofText (base ++ raw) = .ok named.2 := by
  unfold readNamed
  by_cases isTaken : name ∈ taken
  · simp [isTaken]
  rw [if_neg isTaken, and_iff_right isTaken]
  constructor
  · intro read
    split at read
    · next raw =>
        split at read
        · next template reads =>
            cases read
            exact ⟨rfl, raw, rfl, reads⟩
        · contradiction
    · split at read <;> contradiction
  · rintro ⟨rfl, raw, rfl, reads⟩
    dsimp only
    rw [reads]

/-- A declared name is given the template of its text behind the base. -/
def ReadsAs (base : Text) (declared : Text × Text) (named : Text × Template) : Prop :=
  named.1 = declared.1 ∧ Template.ofText (base ++ declared.2) = .ok named.2

theorem readEntry_eq_ok_iff {taken : List Text} {entry : Datum × Item}
    {named : Text × Template} :
    readEntry base taken (entry.1, document.datum entry.2) = .ok named ↔
      ∃ declared, Declares entry declared ∧ ReadsAs base declared named ∧
        declared.1 ∉ taken := by
  rw [readEntry, Outcome.bind_eq_ok_iff]
  constructor
  · rintro ⟨name, isNamed, read⟩
    obtain ⟨free, rfl, raw, isText, reads⟩ := readNamed_eq_ok_iff.mp read
    exact ⟨(named.1, raw), ⟨isNamed, datum_eq_text_iff.mp isText⟩, ⟨rfl, reads⟩, free⟩
  · rintro ⟨⟨name, raw⟩, ⟨isNamed, isText⟩, ⟨sameName, reads⟩, free⟩
    exact ⟨name, isNamed, readNamed_eq_ok_iff.mpr
      ⟨free, sameName, raw, datum_eq_text_iff.mpr isText, reads⟩⟩

theorem readEntries_eq_ok_iff {taken : List Text} {named : Bindings Template} :
    readEntries base taken (entries.map fun entry => (entry.1, document.datum entry.2)) =
        .ok named ↔
      ∃ declared : Bindings Text, List.Forall₂ Declares entries declared ∧
        List.Forall₂ (ReadsAs base) declared named ∧
        declared.names.Nodup ∧ ∀ name ∈ declared.names, name ∉ taken := by
  induction entries generalizing taken named with
  | nil =>
      constructor
      · intro read
        cases read
        exact ⟨[], .nil, .nil, List.nodup_nil, List.forall_mem_nil _⟩
      · rintro ⟨_, declares, readsAs, _⟩
        cases declares
        cases readsAs
        rfl
  | cons entry rest inductionHypothesis =>
      rw [List.map_cons, readEntries, Outcome.bind_eq_ok_iff]
      constructor
      · rintro ⟨template, read, readsLater⟩
        obtain ⟨first, declaresFirst, readsFirst, free⟩ := readEntry_eq_ok_iff.mp read
        obtain ⟨others, readsRest, combined⟩ := Outcome.bind_eq_ok_iff.mp readsLater
        cases combined
        obtain ⟨declared, declares, readsAs, distinct, untaken⟩ :=
          inductionHypothesis.mp readsRest
        refine ⟨first :: declared, .cons declaresFirst declares, .cons readsFirst readsAs, ?_, ?_⟩
        · rw [Bindings.names, List.map_cons, List.nodup_cons, ← readsFirst.1]
          exact ⟨fun again => untaken _ again List.mem_cons_self, distinct⟩
        · rw [Bindings.names, List.map_cons, List.forall_mem_cons]
          exact ⟨free, fun name among isTaken =>
            untaken name among (List.mem_cons_of_mem _ isTaken)⟩
      · rintro ⟨_, declares, readsAs, distinct, untaken⟩
        obtain ⟨first, declared, declaresFirst, declaresRest, rfl⟩ :=
          List.forall₂_cons_left_iff.mp declares
        obtain ⟨template, others, readsFirst, readsRest, rfl⟩ :=
          List.forall₂_cons_left_iff.mp readsAs
        rw [Bindings.names, List.map_cons, List.nodup_cons, ← readsFirst.1] at distinct
        rw [Bindings.names, List.map_cons, List.forall_mem_cons] at untaken
        have free : ∀ name ∈ Bindings.names declared, name ∉ template.1 :: taken := by
          intro name among
          rw [List.mem_cons, not_or]
          exact ⟨fun same => distinct.1 (same ▸ among), untaken.2 name among⟩
        refine ⟨template, readEntry_eq_ok_iff.mpr
          ⟨first, declaresFirst, readsFirst, untaken.1⟩, ?_⟩
        rw [inductionHypothesis.mpr ⟨declared, declaresRest, readsRest, distinct.2, free⟩]
        rfl

theorem names_of_readsAs (readsAs : List.Forall₂ (ReadsAs base) declared named) :
    named.names = declared.names := by
  induction readsAs with
  | nil => rfl
  | cons first _ inductionHypothesis =>
      rw [Bindings.names, List.map_cons, first.1]
      exact congrArg _ inductionHypothesis

theorem mem_of_readsAs (readsAs : List.Forall₂ (ReadsAs base) declared named)
    {entry : Text × Text} (among : entry ∈ declared) :
    ∃ template, Template.ofText (base ++ entry.2) = .ok template ∧ (entry.1, template) ∈ named := by
  induction readsAs with
  | nil => contradiction
  | @cons _ template _ _ first _ inductionHypothesis =>
      obtain rfl | later := List.mem_cons.mp among
      · exact ⟨template.2, first.2, first.1 ▸ List.mem_cons_self⟩
      · obtain ⟨found, reads, isNamed⟩ := inductionHypothesis later
        exact ⟨found, reads, List.mem_cons_of_mem _ isNamed⟩

theorem exists_readsAs_iff :
    (∃ named, List.Forall₂ (ReadsAs base) declared named) ↔
      ∀ entry ∈ declared, ∃ template, Template.ofText (base ++ entry.2) = .ok template := by
  constructor
  · rintro ⟨named, readsAs⟩ entry among
    obtain ⟨template, reads, _⟩ := mem_of_readsAs readsAs among
    exact ⟨template, reads⟩
  · intro accepted
    induction declared with
    | nil => exact ⟨[], .nil⟩
    | cons entry rest inductionHypothesis =>
        rw [List.forall_mem_cons] at accepted
        obtain ⟨template, reads⟩ := accepted.1
        obtain ⟨named, readsAs⟩ := inductionHypothesis accepted.2
        exact ⟨(entry.1, template) :: named, .cons ⟨rfl, reads⟩ readsAs⟩

end Entries

variable {document : Document} {catalog : Catalog}

theorem ofDocument_eq_ok_iff :
    ofDocument document = .ok catalog ↔
      ∃ base declared, Describes document base declared ∧ declared.names.Nodup ∧
        List.Forall₂ (ReadsAs base) declared catalog.entries := by
  rw [ofDocument, Outcome.bind_eq_ok_iff]
  constructor
  · rintro ⟨top, isTop, rest⟩
    obtain ⟨names, areNames, rest⟩ := Outcome.bind_eq_ok_iff.mp rest
    split at rest
    · next recognized =>
        obtain ⟨base, isBase, rest⟩ := Outcome.bind_eq_ok_iff.mp rest
        obtain ⟨read, areTemplates, rest⟩ := Outcome.bind_eq_ok_iff.mp rest
        obtain ⟨entries, hasTemplates, rfl⟩ := templateEntries_eq_ok_iff.mp areTemplates
        obtain ⟨named, reads, combined⟩ := Outcome.bind_eq_ok_iff.mp rest
        cases combined
        obtain ⟨declared, declares, readsAs, distinct, _⟩ := readEntries_eq_ok_iff.mp reads
        exact ⟨base, declared,
          .intro (topEntries_eq_ok_iff.mp isTop) (mapM_nameOf_iff.mp ⟨names, areNames, recognized⟩)
            (baseOf_eq_ok_iff.mp isBase) hasTemplates declares, distinct, readsAs⟩
    · contradiction
  · rintro ⟨base, declared, ⟨isTop, recognized, isBase, hasTemplates, declares⟩, distinct,
      readsAs⟩
    obtain ⟨names, areNames, recognized⟩ := mapM_nameOf_iff.mpr recognized
    refine ⟨_, topEntries_eq_ok_iff.mpr isTop, ?_⟩
    rw [areNames, Outcome.ok_bind, if_pos recognized, baseOf_eq_ok_iff.mpr isBase, Outcome.ok_bind,
      templateEntries_eq_ok_iff.mpr ⟨_, hasTemplates, rfl⟩, Outcome.ok_bind,
      readEntries_eq_ok_iff.mpr
        ⟨declared, declares, readsAs, distinct, fun _ _ => List.not_mem_nil⟩]
    rfl

/-- A document gives a catalog if and only if it declares distinct names and texts that are all
templates behind the base.  The catalog has the declared names in their order, each of them with
the template of its own text, and no other name. -/
theorem ofDocument_accepts (document : Document) :
    ((∃ catalog, ofDocument document = .ok catalog) ↔
      ∃ base declared, Describes document base declared ∧ declared.names.Nodup ∧
        ∀ entry ∈ declared, ∃ template, Template.ofText (base ++ entry.2) = .ok template) ∧
    ∀ catalog base declared, ofDocument document = .ok catalog →
      Describes document base declared →
      catalog.names = declared.names ∧
      catalog.size = declared.length ∧
      (∀ key, key.unkeyable? = none → ∃ found, catalog.contains key = .ok found ∧
        (found = true ↔ ∃ name ∈ declared.names, key = .text name)) ∧
      ∀ entry ∈ declared, ∃ template, Template.ofText (base ++ entry.2) = .ok template ∧
        catalog.get (.text entry.1) = .ok template ∧ template.raw = base ++ entry.2 ∧
        ∀ bindings overriding, catalog.expand (.text entry.1) bindings overriding =
          (template.expand bindings overriding).mapError .badValue := by
  refine ⟨⟨?_, ?_⟩, ?_⟩
  · rintro ⟨catalog, read⟩
    obtain ⟨base, declared, describes, distinct, readsAs⟩ := ofDocument_eq_ok_iff.mp read
    exact ⟨base, declared, describes, distinct, exists_readsAs_iff.mp ⟨_, readsAs⟩⟩
  · rintro ⟨base, declared, describes, distinct, accepted⟩
    obtain ⟨named, readsAs⟩ := exists_readsAs_iff.mpr accepted
    exact ⟨⟨named⟩, ofDocument_eq_ok_iff.mpr ⟨base, declared, describes, distinct, readsAs⟩⟩
  · intro catalog base declared read describes
    obtain ⟨_, _, again, distinct, readsAs⟩ := ofDocument_eq_ok_iff.mp read
    obtain ⟨rfl, rfl⟩ := describes.unique again
    have sameNames : catalog.names = declared.names := names_of_readsAs readsAs
    refine ⟨sameNames, readsAs.length_eq.symm, ?_, ?_⟩
    · intro key keyable
      rw [← sameNames]
      exact contains_of_keyable keyable
    · intro entry among
      obtain ⟨template, reads, isNamed⟩ := mem_of_readsAs readsAs among
      have found : catalog.get (.text entry.1) = .ok template :=
        get_of_mem (sameNames ▸ distinct) isNamed
      exact ⟨template, reads, found, (Template.ofText_eq_ok_iff.mp reads).1, expand_of_get found⟩

/-- The base ends inside an expression, and one of the names is a number. -/
theorem ofDocument_accepts_seam :
    let document : Document :=
      ⟨#[.mapping [(.text "templates", .numbered 1), (.text "base", .plain (.text "/x\x7ba"))],
        .mapping [(.integer 1, .plain (.text "\x7d")), (.text "b", .plain (.text ",c\x7d/y"))]],
        .numbered 0⟩
    let declared : Bindings Text := [("1", "\x7d"), ("b", ",c\x7d/y")]
    Describes document "/x\x7ba" declared ∧
    ∃ catalog, ofDocument document = .ok catalog ∧
      catalog.names = [Text.ofString "1", "b"] ∧ catalog.size = 2 ∧
      catalog.contains (.text "1") = .ok true ∧ catalog.contains (.integer 1) = .ok false ∧
      ∃ template, catalog.get (.text "b") = .ok template ∧ template.raw = "/x\x7ba,c\x7d/y" := by
  intro document declared
  have one : nameOf (.integer 1) = .ok "1" := by
    rw [nameOf, if_pos (by decide +kernel)]
    exact congrArg Except.ok (by decide +kernel)
  have describes : Describes document "/x\x7ba" declared := by
    refine .intro (.mapping ⟨0, rfl, rfl⟩) ?_ (.text (.first [_] ?_))
      (.mapping (.first [] (List.forall_mem_nil _)) ⟨1, rfl, rfl⟩)
      (.cons ⟨one, rfl⟩ (.cons ⟨rfl, rfl⟩ .nil))
    · simp [nameOf, Datum.isDisplayable, Datum.asText]
    · simp only [List.mem_singleton, forall_eq, ne_eq, Datum.text.injEq]
      decide
  have accepted : ∀ entry ∈ declared,
      ∃ template, Template.ofText (Text.ofString "/x\x7ba" ++ entry.2) = .ok template := by
    have readable : ∀ entry ∈ declared,
        (Template.ofText (Text.ofString "/x\x7ba" ++ entry.2)).isOk = true := by decide +kernel
    exact fun entry among => Outcome.isOk_iff.mp (readable entry among)
  obtain ⟨gives, holds⟩ := ofDocument_accepts document
  obtain ⟨catalog, read⟩ := gives.mpr ⟨_, declared, describes, by decide +kernel, accepted⟩
  obtain ⟨names, size, isFound, entries⟩ := holds catalog _ declared read describes
  obtain ⟨found, contained, isName⟩ := isFound (.text "1") rfl
  obtain ⟨foundNumber, containedNumber, isNumber⟩ := isFound (.integer 1) rfl
  obtain ⟨template, _, gets, sameRaw, _⟩ := entries ("b", ",c\x7d/y") (by decide +kernel)
  refine ⟨describes, catalog, read, names, size, ?_, ?_, template, gets, sameRaw⟩
  · rw [contained, isName.mpr ⟨"1", by decide +kernel, rfl⟩]
  · have unnamed : foundNumber = false := by
      rw [Bool.eq_false_iff]
      intro isFound
      obtain ⟨_, _, same⟩ := isNumber.mp isFound
      contradiction
    rw [containedNumber, unnamed]

end Catalog

end UriTemplate
