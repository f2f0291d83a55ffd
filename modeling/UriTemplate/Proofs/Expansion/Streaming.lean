import UriTemplate.Expansion.Unchecked
import UriTemplate.Proofs.Outcome
import UriTemplate.Proofs.Text.Marks
import UriTemplate.Proofs.Value.Bindings

/-!
Expansion in one pass.

A stream writes as it goes: it only remembers whether the present expression has
written anything, and writes each piece after the lead of the operator or after
its separator.  The main statement is `Streaming.expandAll_eq_stream`: joining the
fragments of an expression, and within a fragment the parts of a spread value,
gives the same text.  In between stands `joined`, the pieces of an expression as
one list behind the lead: the stream writes it piece by piece, and a join of joins
is the same join.
-/

theorem UriTemplate.Template.expand_of_coerce {template : Template}
    {bindings overriding : Bindings Datum} {values : Bindings Value}
    (coerced : coerce (bindings.overlay overriding) = .ok values) :
    template.expand bindings overriding =
      .ok (Component.expandAll values.environment template.components) := by
  rw [expand, coerced]
  rfl

namespace UriTemplate.Streaming

def encode (operator : Operator) (chars : List Char) : Text :=
  Text.ofChars (Percent.encode operator.allowsReserved chars)

/-- A text, after the name and an equals sign if the operator is named. -/
def withName (operator : Operator) (name text : Text) : Text :=
  if operator.isNamed then name ++ .scalar '=' :: text else text

/-- The part of a text that a modifier leaves. -/
def truncate (chars : List Char) : Modifier → List Char
  | .truncate length => chars.take length.count
  | _ => chars

/-- The pieces of a value: several only if it is spread. -/
def pieces (operator : Operator) (spec : VarSpec) : Value → List Text
  | .text chars =>
      let kept := truncate chars spec.modifier
      if operator = .parameter ∧ kept = [] then [spec.name]
      else [withName operator spec.name (encode operator kept)]
  | .list items =>
      if spec.modifier = .explode then
        items.map fun item => withName operator spec.name (encode operator item)
      else
        [withName operator spec.name
          (List.intercalate [.scalar ','] (items.map (encode operator)))]
  | .assoc entries =>
      if spec.modifier = .explode then
        entries.pairs.map fun pair =>
          encode operator pair.1 ++ .scalar '=' :: encode operator pair.2
      else
        [withName operator spec.name (List.intercalate [.scalar ',']
          (entries.pairs.flatMap fun pair => [encode operator pair.1, encode operator pair.2]))]

/-- What has been written, and whether the present expression has written a piece. -/
structure Output where
  written : Text
  started : Bool

def emit (operator : Operator) (output : Output) (piece : Text) : Output where
  written := output.written ++ (if output.started then operator.separator else operator.lead) ++
    piece
  started := true

/-- Writes the pieces of a variable; an undefined one is passed over. -/
def visit (operator : Operator) (environment : Environment) (output : Output)
    (spec : VarSpec) : Output :=
  match environment spec.name with
  | none => output
  | some value =>
      if value.isDefined then (pieces operator spec value).foldl (emit operator) output
      else output

def pass (environment : Environment) (output : Output) : Component → Output
  | .literal run => { output with written := output.written ++ run }
  | .expression parsed =>
      parsed.specs.foldl (visit parsed.operator environment) { output with started := false }

/-- The expansion of components in one pass. -/
def stream (environment : Environment) (components : List Component) : Text :=
  (components.foldl (pass environment) ⟨[], false⟩).written

theorem pieces_ne_nil (operator : Operator) (spec : VarSpec) {value : Value}
    (defined : value.isDefined = true) : pieces operator spec value ≠ [] := by
  cases value with
  | text chars =>
      simp only [pieces]
      split <;> simp
  | list items =>
      simp only [pieces]
      split
      · simpa [Value.isDefined] using defined
      · simp
  | assoc entries =>
      simp only [pieces]
      split
      · simpa [Value.isDefined] using defined
      · simp

theorem isExploded_eq_true_iff (spec : VarSpec) :
    spec.isExploded = true ↔ spec.modifier = .explode := by
  unfold VarSpec.isExploded
  cases spec.modifier <;> simp

theorem truncated_eq (spec : VarSpec) (chars : List Char) :
    spec.truncated chars = truncate chars spec.modifier := by
  unfold VarSpec.truncated VarSpec.maxLength?
  cases spec.modifier <;> rfl

theorem textFragment_eq (operator : Operator) (spec : VarSpec) (chars : List Char) :
    spec.textFragment operator chars =
      List.intercalate operator.separator (pieces operator spec (.text chars)) := by
  simp only [VarSpec.textFragment, pieces, truncated_eq]
  cases truncate chars spec.modifier with
  | nil =>
      cases operator <;>
        simp [Operator.isNamed, Operator.marksEmptyValues, withName, encode, VarSpec.labelled,
          VarSpec.withName, VarSpec.encoded, Percent.encode, Text.ofChars]
  | cons char rest =>
      simp [withName, encode, VarSpec.withName, VarSpec.labelled, VarSpec.encoded]

theorem listFragment_eq (operator : Operator) (spec : VarSpec) (items : List (List Char)) :
    spec.listFragment operator items =
      List.intercalate operator.separator (pieces operator spec (.list items)) := by
  have sameName : spec.withName operator = withName operator spec.name := rfl
  simp only [VarSpec.listFragment, pieces, isExploded_eq_true_iff, sameName]
  split
  · rw [List.map_map]
    rfl
  · rw [List.intercalate_singleton]
    rfl

theorem assocFragment_eq (operator : Operator) (spec : VarSpec) (entries : AssocList) :
    spec.assocFragment operator entries.pairs =
      List.intercalate operator.separator (pieces operator spec (.assoc entries)) := by
  have sameName : spec.withName operator = withName operator spec.name := rfl
  simp only [VarSpec.assocFragment, pieces, isExploded_eq_true_iff, sameName]
  split
  · rw [List.map_map]
    rfl
  · rw [List.flatMap_map, List.intercalate_singleton]
    rfl

/-- A fragment is made of the pieces of its value. -/
theorem fragment_eq (operator : Operator) (spec : VarSpec) (value : Value) :
    spec.fragment operator value =
      List.intercalate operator.separator (pieces operator spec value) := by
  cases value with
  | text chars => exact textFragment_eq operator spec chars
  | list items => exact listFragment_eq operator spec items
  | assoc entries => exact assocFragment_eq operator spec entries

/-! ## What an expression writes -/

def piecesIn (operator : Operator) (environment : Environment) (spec : VarSpec) : List Text :=
  match environment spec.name with
  | none => []
  | some value => if value.isDefined then pieces operator spec value else []

theorem mem_piecesIn_iff {operator : Operator} {environment : Environment} {spec : VarSpec}
    {piece : Text} :
    piece ∈ piecesIn operator environment spec ↔
      ∃ value, environment spec.name = some value ∧ value.isDefined = true ∧
        piece ∈ pieces operator spec value := by
  rw [piecesIn]
  cases environment spec.name with
  | none => simp
  | some value =>
      by_cases defined : value.isDefined = true
      · simp [defined]
      · simp [defined]

theorem visit_eq (operator : Operator) (environment : Environment) (output : Output)
    (spec : VarSpec) :
    visit operator environment output spec =
      (piecesIn operator environment spec).foldl (emit operator) output := by
  unfold visit piecesIn
  cases environment spec.name with
  | none => rfl
  | some value =>
      dsimp only
      split <;> rfl

theorem foldl_visit (operator : Operator) (environment : Environment) (output : Output)
    (specs : List VarSpec) :
    specs.foldl (visit operator environment) output =
      (specs.flatMap (piecesIn operator environment)).foldl (emit operator) output := by
  induction specs generalizing output with
  | nil => rfl
  | cons spec rest inductionHypothesis =>
      rw [List.foldl_cons, List.flatMap_cons, List.foldl_append, ← visit_eq]
      exact inductionHypothesis (visit operator environment output spec)

/-- Once an expression has written a piece, the separator stands before each further one. -/
theorem foldl_emit_started (operator : Operator) (written : Text) (texts : List Text) :
    texts.foldl (emit operator) ⟨written, true⟩ =
      ⟨written ++ texts.flatMap (operator.separator ++ ·), true⟩ := by
  induction texts generalizing written with
  | nil => simp
  | cons text rest inductionHypothesis =>
      rw [List.foldl_cons, List.flatMap_cons, emit, if_pos rfl, inductionHypothesis]
      simp only [List.append_assoc]

def joined (operator : Operator) : List Text → Text
  | [] => []
  | texts => operator.lead ++ List.intercalate operator.separator texts

theorem joined_of_ne_nil (operator : Operator) {texts : List Text} (nonempty : texts ≠ []) :
    joined operator texts = operator.lead ++ List.intercalate operator.separator texts := by
  cases texts with
  | nil => contradiction
  | cons text rest => rfl

theorem foldl_emit_fresh (operator : Operator) (written : Text) (texts : List Text) :
    (texts.foldl (emit operator) ⟨written, false⟩).written =
      written ++ joined operator texts := by
  cases texts with
  | nil => simp [joined]
  | cons text rest =>
      rw [List.foldl_cons, emit, if_neg Bool.false_ne_true, foldl_emit_started, joined,
        Text.intercalate_cons]
      · simp only [List.append_assoc]
      · exact List.cons_ne_nil text rest

/-! ## What its fragments make of it -/

theorem joined_map_intercalate {operator : Operator} {groups : List (List Text)}
    (nonempty : ∀ group ∈ groups, group ≠ []) :
    joined operator (groups.map (List.intercalate operator.separator)) =
      joined operator groups.flatten := by
  cases groups with
  | nil => rfl
  | cons group others =>
      have hasPiece : (group :: others).flatten ≠ [] := by
        rw [List.flatten_cons]
        exact List.append_ne_nil_of_left_ne_nil (nonempty group List.mem_cons_self) _
      rw [joined, joined, Text.intercalate_map_intercalate nonempty]
      · exact hasPiece
      · exact List.cons_ne_nil _ _

theorem fragment?_eq (operator : Operator) (environment : Environment) (spec : VarSpec) :
    spec.fragment? operator environment =
      if (piecesIn operator environment spec).isEmpty then none
      else some (List.intercalate operator.separator (piecesIn operator environment spec)) := by
  unfold VarSpec.fragment? piecesIn
  cases environment spec.name with
  | none => rfl
  | some value =>
      dsimp only
      by_cases defined : value.isDefined = true
      · have hasPiece := pieces_ne_nil operator spec defined
        simp [defined, hasPiece, fragment_eq]
      · simp [defined]

theorem filterMap_fragment? (operator : Operator) (environment : Environment)
    (specs : List VarSpec) :
    specs.filterMap (VarSpec.fragment? operator environment) =
      ((specs.map (piecesIn operator environment)).filter (!·.isEmpty)).map
        (List.intercalate operator.separator) := by
  induction specs with
  | nil => rfl
  | cons spec rest inductionHypothesis =>
      rw [List.filterMap_cons, fragment?_eq, List.map_cons, List.filter_cons]
      by_cases silent : (piecesIn operator environment spec).isEmpty = true
      · simpa [silent] using inductionHypothesis
      · simpa [silent] using inductionHypothesis

theorem expandSpecs_eq (operator : Operator) (environment : Environment)
    (specs : List VarSpec) :
    Expression.expandSpecs operator environment specs =
      joined operator (specs.flatMap (piecesIn operator environment)) := by
  calc Expression.expandSpecs operator environment specs
      = joined operator (specs.filterMap (VarSpec.fragment? operator environment)) := rfl
    _ = joined operator
          ((specs.map (piecesIn operator environment)).filter (!·.isEmpty)).flatten := by
        rw [filterMap_fragment?, joined_map_intercalate]
        intro group among
        simpa using (List.mem_filter.mp among).2
    _ = joined operator (specs.flatMap (piecesIn operator environment)) := by
        rw [List.flatten_filter_not_isEmpty, List.flatMap_def]

/-! ## Whole sequences of components -/

theorem written_pass (environment : Environment) (output : Output) (component : Component) :
    (pass environment output component).written =
      output.written ++ component.expand environment := by
  cases component with
  | literal run => rfl
  | expression parsed =>
      rw [pass, foldl_visit, foldl_emit_fresh, ← expandSpecs_eq]
      rfl

theorem written_foldl_pass (environment : Environment) (output : Output)
    (components : List Component) :
    (components.foldl (pass environment) output).written =
      output.written ++ Component.expandAll environment components := by
  induction components generalizing output with
  | nil => simp [Component.expandAll]
  | cons component rest inductionHypothesis =>
      rw [List.foldl_cons, inductionHypothesis, written_pass, List.append_assoc]
      rfl

/-- Bindings to values or to null. -/
def given (bindings : Bindings (Option Value)) : Bindings Datum :=
  bindings.map fun (name, value?) => (name, value?.elim .null .shaped)

theorem find?_given (bindings : Bindings (Option Value)) (name : Text) :
    (given bindings).find? name =
      (bindings.find? name).map fun value? => value?.elim .null .shaped :=
  Bindings.find?_map (fun value? : Option Value => value?.elim Datum.null Datum.shaped)
    bindings name

theorem values_given (bindings : Bindings (Option Value)) :
    (given bindings).values = fun name => (bindings.find? name).join := by
  funext name
  rw [Bindings.values, find?_given]
  rcases bindings.find? name with _ | _ | value <;> rfl

theorem check_given (bindings : Bindings (Option Value)) (spec : VarSpec) :
    spec.check (given bindings) = .ok () := by
  rw [VarSpec.check, find?_given]
  rcases bindings.find? spec.name with _ | _ | value <;> rfl

theorem forM_check_given (bindings : Bindings (Option Value)) (specs : List VarSpec) :
    specs.forM (VarSpec.check (given bindings)) = .ok () := by
  induction specs with
  | nil => rfl
  | cons spec rest inductionHypothesis =>
      rw [List.forM, check_given, Outcome.ok_bind]
      exact inductionHypothesis

theorem expand_given (bindings : Bindings (Option Value)) (component : Component) :
    Part.expand (given bindings) (.component component) =
      .ok (component.expand (given bindings).values) := by
  cases component with
  | literal run => rfl
  | expression parsed =>
      rw [Part.expand, Expression.expandUnchecked, forM_check_given]
      rfl

theorem expandAll_given (bindings : Bindings (Option Value)) (components : List Component) :
    Part.expandAll (given bindings) (components.map Part.component) =
      .ok (Component.expandAll (given bindings).values components) := by
  have each : (components.map Part.component).mapM (Part.expand (given bindings)) =
      .ok (components.map (Component.expand (given bindings).values)) := by
    rw [List.mapM_map]
    exact Outcome.mapM_eq_ok fun component _ => expand_given bindings component
  rw [Part.expandAll, each, Outcome.ok_bind, Component.expandAll, List.flatMap_def]
  rfl

/-- Expansion writes what the stream writes, and the stream has a piece for every defined
value. -/
theorem expandAll_eq_stream :
    (∀ (environment : Environment) (components : List Component),
      Component.expandAll environment components = stream environment components) ∧
    (∀ (bindings : Bindings (Option Value)) (components : List Component),
      Part.expandAll (given bindings) (components.map Part.component) =
        .ok (stream (fun name => (bindings.find? name).join) components)) ∧
    (∀ (operator : Operator) (spec : VarSpec) (value : Value),
      value.isDefined = true → pieces operator spec value ≠ []) := by
  have agree (environment : Environment) (components : List Component) :
      Component.expandAll environment components = stream environment components := by
    rw [stream, written_foldl_pass, List.nil_append]
  refine ⟨agree, ?_, ?_⟩
  · intro bindings components
    rw [expandAll_given, values_given, agree]
  · intro operator spec value defined
    exact pieces_ne_nil operator spec defined

theorem expandAll_eq_stream_spread :
    Value.isDefined (.list ["x".toList, "y".toList]) = true ∧
    pieces .query ⟨"a", .explode⟩ (.list ["x".toList, "y".toList]) ≠ [] :=
  ⟨rfl, expandAll_eq_stream.2.2 _ _ _ rfl⟩

end UriTemplate.Streaming
