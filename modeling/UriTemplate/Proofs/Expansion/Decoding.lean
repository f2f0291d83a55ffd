import UriTemplate.Proofs.Expansion.Streaming
import UriTemplate.Proofs.Percent.Decoding

/-!
Reading values back from an expansion.

Where reserved characters are encoded, an encoded text holds no delimiter, and a name
never does.  So the output of an expression splits at the separator into the pieces
that were written, and each of them at its other delimiters into what was encoded.
`Decoding.expandUnchecked_decodable` says so for the operators that have a delimiter of
their own as separator: with the others it is the comma that stands between the parts
of one piece as well, or a dot, which may stand anywhere.  The pieces do not tell
whether commas separate items or keys and values, so `Decoding.read?` is told.
-/

namespace UriTemplate.Decoding

/-- How a value is written. -/
inductive Shape where
  | text
  | list
  | pairs
deriving DecidableEq, Repr

def Shape.ofValue : Value → Shape
  | .text _ => .text
  | .list _ => .list
  | .assoc _ => .pairs

/-- What a piece holds besides the name of its variable; a name alone goes with an empty text. -/
def content? (operator : Operator) (name piece : Text) : Option Text :=
  if operator.isNamed then
    match Text.cut? (.scalar '=') piece with
    | some (label, content) => if label = name then some content else none
    | none => if piece = name then some [] else none
  else some piece

def item? (operator : Operator) (name piece : Text) : Option (List Char) := do
  Percent.decode? (← content? operator name piece)

/-- The parts of a piece between its commas. -/
def parts? (operator : Operator) (name piece : Text) : Option (List (List Char)) := do
  (List.splitOn (.scalar ',') (← content? operator name piece)).mapM Percent.decode?

/-- A pair that is spread: the key reaches to the first equals sign. -/
def pair? (piece : Text) : Option (List Char × List Char) := do
  let (key, content) ← Text.cut? (.scalar '=') piece
  return (← Percent.decode? key, ← Percent.decode? content)

def single? {Content : Type} : List Content → Option Content
  | [content] => some content
  | _ => none

/-- Keys and values in turn. -/
def pairUp? {Content : Type} : List Content → Option (List (Content × Content))
  | [] => some []
  | [_] => none
  | key :: content :: rest => (pairUp? rest).map ((key, content) :: ·)

def text? (operator : Operator) (spec : VarSpec) (pieces : List Text) : Option (List Char) := do
  item? operator spec.name (← single? pieces)

def items? (operator : Operator) (spec : VarSpec) (pieces : List Text) :
    Option (List (List Char)) :=
  if spec.isExploded then pieces.mapM (item? operator spec.name)
  else do parts? operator spec.name (← single? pieces)

def pairs? (operator : Operator) (spec : VarSpec) (pieces : List Text) :
    Option (List (List Char × List Char)) :=
  if spec.isExploded then pieces.mapM pair?
  else do pairUp? (← parts? operator spec.name (← single? pieces))

/-- The value that the pieces of a variable were written for. -/
def read? (operator : Operator) (spec : VarSpec) (pieces : List Text) : Shape → Option Value
  | .text => (text? operator spec pieces).map .text
  | .list => (items? operator spec pieces).map .list
  | .pairs => do
      let entries ← (AssocList.ofPairs (← pairs? operator spec pieces)).toOption
      return .assoc entries

/-- What a variable contributes of a value. -/
def kept (spec : VarSpec) : Value → Value
  | .text chars => .text (spec.truncated chars)
  | .list items => .list items
  | .assoc entries => .assoc entries

/-- The number of pieces that a value is written in. -/
def count (spec : VarSpec) : Value → Nat
  | .text _ => 1
  | .list items => if spec.isExploded then items.length else 1
  | .assoc entries => if spec.isExploded then entries.pairs.length else 1

/-! ## What a piece is made of -/

/-- A name alone, parts between commas, or a pair. -/
inductive IsPiece (operator : Operator) (name : Text) : Text → Prop where
  | name : IsPiece operator name name
  | parts (contents : List (List Char)) : IsPiece operator name
      (Streaming.withName operator name
        (List.intercalate [.scalar ','] (contents.map (Streaming.encode operator))))
  | pair (key content : List Char) : IsPiece operator name
      (Streaming.encode operator key ++ .scalar '=' :: Streaming.encode operator content)

theorem IsPiece.part (operator : Operator) (name : Text) (content : List Char) :
    IsPiece operator name
      (Streaming.withName operator name (Streaming.encode operator content)) := by
  simpa using IsPiece.parts [content]

theorem flatMap_encode (operator : Operator) (pairs : List (List Char × List Char)) :
    (pairs.flatMap fun pair =>
        [Streaming.encode operator pair.1, Streaming.encode operator pair.2]) =
      (pairs.flatMap fun pair => [pair.1, pair.2]).map (Streaming.encode operator) := by
  rw [List.map_flatMap]
  rfl

theorem isPiece_of_mem {operator : Operator} {spec : VarSpec} {value : Value} {piece : Text}
    (written : piece ∈ Streaming.pieces operator spec value) :
    IsPiece operator spec.name piece := by
  cases value with
  | text chars =>
      simp only [Streaming.pieces] at written
      split at written
      · rw [List.mem_singleton.mp written]
        exact .name
      · rw [List.mem_singleton.mp written]
        exact .part operator spec.name _
  | list items =>
      simp only [Streaming.pieces] at written
      split at written
      · obtain ⟨item, _, rfl⟩ := List.mem_map.mp written
        exact .part operator spec.name item
      · rw [List.mem_singleton.mp written]
        exact .parts items
  | assoc entries =>
      simp only [Streaming.pieces] at written
      split at written
      · obtain ⟨pair, _, rfl⟩ := List.mem_map.mp written
        exact .pair pair.1 pair.2
      · rw [List.mem_singleton.mp written, flatMap_encode]
        exact .parts _

theorem name_free {name : Text} (isName : Grammar.IsName name) {mark : Char}
    (isReserved : mark ∈ Percent.reserved) : .scalar mark ∉ name := by
  have foreign : ∀ mark ∈ Percent.reserved, ¬Grammar.IsNameChar mark :=
    Percent.forall_reserved (by decide)
  apply isName.not_mem (foreign mark isReserved)
  rintro rfl
  exact absurd isReserved (by decide)

/-! ## Reading a piece -/

theorem mapM_map_of_inverse {Item Spelling : Type} {read : Spelling → Option Item}
    {write : Item → Spelling} (inverse : ∀ item, read (write item) = some item)
    (items : List Item) : (items.map write).mapM read = some items := by
  have composed : read ∘ write = pure := funext inverse
  rw [List.mapM_map, composed, List.mapM_pure, List.map_id']
  rfl

theorem decode?_encode (operator : Operator) (chars : List Char) :
    Percent.decode? (Streaming.encode operator chars) = some chars :=
  Percent.decode?_encode operator.allowsReserved chars

section Reading

variable {operator : Operator}

theorem content?_withName {name : Text} (isName : Grammar.IsName name) (text : Text) :
    content? operator name (Streaming.withName operator name text) = some text := by
  rw [content?, Streaming.withName]
  by_cases isNamed : operator.isNamed = true
  · rw [if_pos isNamed, if_pos isNamed,
      Text.cut?_append_cons (name_free isName (by decide)) text]
    exact if_pos rfl
  · rw [if_neg isNamed, if_neg isNamed]

theorem content?_name {name : Text} (isName : Grammar.IsName name)
    (isNamed : operator.isNamed = true) : content? operator name name = some [] := by
  have uncut : Text.cut? (.scalar '=') name = none :=
    Text.cut?_eq_none_iff.mpr (name_free isName (by decide))
  rw [content?, if_pos isNamed, uncut]
  exact if_pos rfl

theorem item?_withName {name : Text} (isName : Grammar.IsName name) (chars : List Char) :
    item? operator name
        (Streaming.withName operator name (Streaming.encode operator chars)) = some chars := by
  rw [item?, content?_withName isName]
  exact decode?_encode operator chars

theorem text?_pieces {spec : VarSpec} (isName : Grammar.IsName spec.name) (chars : List Char) :
    text? operator spec (Streaming.pieces operator spec (.text chars)) =
      some (spec.truncated chars) := by
  rw [Streaming.truncated_eq, Streaming.pieces]
  -- A parameter without content is written as its name alone, with nothing to cut at.
  by_cases nameAlone : operator = .parameter ∧ Streaming.truncate chars spec.modifier = []
  · have isNamed : operator.isNamed = true := by
      rw [nameAlone.1]
      rfl
    rw [if_pos nameAlone, nameAlone.2, text?, single?, Option.bind_eq_bind, Option.bind_some,
      item?, content?_name isName isNamed]
    rfl
  · rw [if_neg nameAlone]
    exact item?_withName isName (Streaming.truncate chars spec.modifier)

theorem pairUp?_flatMap (pairs : List (List Char × List Char)) :
    pairUp? (pairs.flatMap fun pair => [pair.1, pair.2]) = some pairs := by
  induction pairs with
  | nil => rfl
  | cons pair rest inductionHypothesis =>
      rw [List.flatMap_cons, List.cons_append, List.cons_append, List.nil_append, pairUp?,
        inductionHypothesis]
      rfl

end Reading

/-! ## Where reserved characters are encoded -/

section Encoded

variable {operator : Operator} (encodes : operator.allowsReserved = false)

include encodes

theorem encode_free {mark : Char} (isReserved : mark ∈ Percent.reserved) (chars : List Char) :
    .scalar mark ∉ Streaming.encode operator chars := by
  intro among
  rw [Streaming.encode, encodes] at among
  have stands := Percent.stands_of_reserved (Percent.madeOf_encode false chars) isReserved among
  have apart : ∀ mark ∈ Percent.reserved, Percent.isKept false mark = false :=
    Percent.forall_reserved (by decide)
  rw [apart mark isReserved] at stands
  contradiction

theorem intercalate_free {mark : Char} (isReserved : mark ∈ Percent.reserved)
    (notComma : mark ≠ ',') (contents : List (List Char)) :
    .scalar mark ∉ List.intercalate [.scalar ','] (contents.map (Streaming.encode operator)) := by
  intro among
  rcases Text.mem_intercalate among with inComma | ⟨part, inParts, inPart⟩
  · rw [List.mem_singleton, CodePoint.scalar.injEq] at inComma
    exact notComma inComma
  · obtain ⟨chars, _, rfl⟩ := List.mem_map.mp inParts
    exact encode_free encodes isReserved chars inPart

/-- Of the reserved characters, a piece holds commas and equals signs only. -/
theorem IsPiece.free {name : Text} (isName : Grammar.IsName name) {mark : Char}
    (isReserved : mark ∈ Percent.reserved) (notComma : mark ≠ ',') (notEquals : mark ≠ '=')
    {piece : Text} (isPiece : IsPiece operator name piece) : .scalar mark ∉ piece := by
  have assigned {front back : Text} (frontFree : .scalar mark ∉ front)
      (backFree : .scalar mark ∉ back) : .scalar mark ∉ front ++ .scalar '=' :: back := by
    rw [List.mem_append, List.mem_cons, not_or, not_or]
    exact ⟨frontFree, by simpa using notEquals, backFree⟩
  have nameFree := name_free isName isReserved
  cases isPiece with
  | name => exact nameFree
  | parts contents =>
      have partsFree := intercalate_free encodes isReserved notComma contents
      rw [Streaming.withName]
      split
      · exact assigned nameFree partsFree
      · exact partsFree
  | pair key content =>
      exact assigned (encode_free encodes isReserved key) (encode_free encodes isReserved content)

theorem parts?_withName {name : Text} (isName : Grammar.IsName name)
    {contents : List (List Char)} (nonempty : contents ≠ []) :
    parts? operator name (Streaming.withName operator name
      (List.intercalate [.scalar ','] (contents.map (Streaming.encode operator)))) =
        some contents := by
  have commaFree : ∀ part ∈ contents.map (Streaming.encode operator), .scalar ',' ∉ part := by
    intro part among
    obtain ⟨chars, _, rfl⟩ := List.mem_map.mp among
    exact encode_free encodes (by decide) chars
  rw [parts?, content?_withName isName, Option.bind_eq_bind, Option.bind_some,
    List.splitOn_intercalate _ commaFree (by simpa using nonempty)]
  exact mapM_map_of_inverse (decode?_encode operator) contents

theorem pair?_assignment (key content : List Char) :
    pair? (Streaming.encode operator key ++ .scalar '=' :: Streaming.encode operator content) =
      some (key, content) := by
  rw [pair?, Text.cut?_append_cons (encode_free encodes (by decide) key)]
  simp only [Option.bind_eq_bind, Option.bind_some, decode?_encode]
  rfl

theorem items?_pieces {spec : VarSpec} (isName : Grammar.IsName spec.name)
    {items : List (List Char)} (nonempty : items ≠ []) :
    items? operator spec (Streaming.pieces operator spec (.list items)) = some items := by
  rw [items?, Streaming.pieces]
  by_cases exploded : spec.isExploded = true
  · have isExplode := (Streaming.isExploded_eq_true_iff spec).mp exploded
    rw [if_pos isExplode, if_pos exploded]
    exact mapM_map_of_inverse (item?_withName isName) items
  · have notExplode := mt (Streaming.isExploded_eq_true_iff spec).mpr exploded
    rw [if_neg notExplode, if_neg exploded]
    exact parts?_withName encodes isName nonempty

theorem pairs?_pieces {spec : VarSpec} (isName : Grammar.IsName spec.name)
    {entries : AssocList} (nonempty : entries.pairs ≠ []) :
    pairs? operator spec (Streaming.pieces operator spec (.assoc entries)) =
      some entries.pairs := by
  rw [pairs?, Streaming.pieces]
  by_cases exploded : spec.isExploded = true
  · have isExplode := (Streaming.isExploded_eq_true_iff spec).mp exploded
    rw [if_pos isExplode, if_pos exploded]
    exact mapM_map_of_inverse (fun pair => pair?_assignment encodes pair.1 pair.2) entries.pairs
  · have notExplode := mt (Streaming.isExploded_eq_true_iff spec).mpr exploded
    have hasPart : (entries.pairs.flatMap fun pair => [pair.1, pair.2]) ≠ [] := by
      obtain ⟨pair, rest, shape⟩ := List.exists_cons_of_ne_nil nonempty
      rw [shape]
      exact List.cons_ne_nil _ _
    rw [if_neg notExplode, if_neg exploded, single?, flatMap_encode, Option.bind_eq_bind,
      Option.bind_some, parts?_withName encodes isName hasPart]
    exact pairUp?_flatMap entries.pairs

/-- A value, as far as its variable contributes it, is read back from its pieces. -/
theorem read?_pieces {spec : VarSpec} (isName : Grammar.IsName spec.name) {value : Value}
    (defined : value.isDefined = true) :
    read? operator spec (Streaming.pieces operator spec value) (Shape.ofValue value) =
      some (kept spec value) := by
  cases value with
  | text chars =>
      rw [Shape.ofValue, read?, text?_pieces isName]
      rfl
  | list items =>
      have nonempty : items ≠ [] := by simpa [Value.isDefined] using defined
      rw [Shape.ofValue, read?, items?_pieces encodes isName nonempty]
      rfl
  | assoc entries =>
      have nonempty : entries.pairs ≠ [] := by simpa [Value.isDefined] using defined
      have rebuilt : AssocList.ofPairs entries.pairs = .ok entries := dif_pos entries.keys_nodup
      rw [Shape.ofValue, read?, pairs?_pieces encodes isName nonempty, Option.bind_eq_bind,
        Option.bind_some, rebuilt]
      rfl

end Encoded

theorem length_pieces (operator : Operator) (spec : VarSpec) (value : Value) :
    (Streaming.pieces operator spec value).length = count spec value := by
  have spread := Streaming.isExploded_eq_true_iff spec
  cases value with
  | text chars =>
      simp only [Streaming.pieces, count]
      split <;> rfl
  | list items =>
      simp only [Streaming.pieces, count, spread]
      split
      · exact List.length_map _
      · rfl
  | assoc entries =>
      simp only [Streaming.pieces, count, spread]
      split
      · exact List.length_map _
      · rfl

/-! ## Whole expressions -/

/-- The operators for which an output can be taken apart. -/
def operators : List Operator :=
  [.path, .parameter, .query, .continuation]

theorem of_mem_operators : ∀ operator ∈ operators,
    operator.allowsReserved = false ∧ operator.separatorChar ∈ Percent.reserved ∧
      operator.separatorChar ≠ ',' ∧ operator.separatorChar ≠ '=' := by
  decide

def written (operator : Operator) (bindings : Bindings (Option Value)) (spec : VarSpec) :
    List Text :=
  Streaming.piecesIn operator (fun name => (bindings.find? name).join) spec

section Written

variable {operator : Operator} {bindings : Bindings (Option Value)} {spec : VarSpec}

theorem written_of_defined {value : Value} (bound : bindings.find? spec.name = some (some value))
    (defined : value.isDefined = true) :
    written operator bindings spec = Streaming.pieces operator spec value := by
  rw [written, Streaming.piecesIn, bound]
  exact if_pos defined

theorem written_eq_nil (undefined : ∀ value, bindings.find? spec.name = some (some value) →
    value.isDefined = false) : written operator bindings spec = [] := by
  apply List.eq_nil_iff_forall_not_mem.mpr
  intro piece among
  obtain ⟨value, bound, defined, _⟩ := Streaming.mem_piecesIn_iff.mp among
  rw [undefined value (Option.join_eq_some_iff.mp bound)] at defined
  contradiction

theorem separator_free (decodable : operator ∈ operators)
    (named : VarSpec.isName spec.name = true) {piece : Text}
    (among : piece ∈ written operator bindings spec) :
    .scalar operator.separatorChar ∉ piece := by
  obtain ⟨encodes, isReserved, notComma, notEquals⟩ := of_mem_operators operator decodable
  obtain ⟨value, _, _, inPieces⟩ := Streaming.mem_piecesIn_iff.mp among
  have isName := (Grammar.isName_eq_true_iff spec.name).mp named
  exact (isPiece_of_mem inPieces).free encodes isName isReserved notComma notEquals

end Written

theorem expandUnchecked_given (bindings : Bindings (Option Value)) (parsed : Expression) :
    parsed.expandUnchecked (Streaming.given bindings) =
      .ok (Streaming.joined parsed.operator
        (parsed.specs.flatMap (written parsed.operator bindings))) := by
  have expands := Streaming.expand_given bindings (.expression parsed)
  rw [Part.expand, Streaming.values_given, Component.expand, Expression.expand,
    Streaming.expandSpecs_eq] at expands
  exact expands

/-- What an expression writes is split at its separator into the pieces of its variables, one
variable after the other.  A variable that is not defined has none; the others have one for each
text or for each item or pair that is spread, and from the pieces their value is read back, cut to
the length to which it was truncated. -/
theorem expandUnchecked_decodable {parsed : Expression} (decodable : parsed.operator ∈ operators)
    (named : ∀ spec ∈ parsed.specs, VarSpec.isName spec.name = true)
    {bindings : Bindings (Option Value)}
    (someDefined : ∃ spec ∈ parsed.specs, ∃ value,
      bindings.find? spec.name = some (some value) ∧ value.isDefined = true) :
    ∃ rest,
      parsed.expandUnchecked (Streaming.given bindings) = .ok (parsed.operator.lead ++ rest) ∧
      List.splitOn (.scalar parsed.operator.separatorChar) rest =
        parsed.specs.flatMap (written parsed.operator bindings) ∧
      ∀ spec ∈ parsed.specs,
        ((∀ value, bindings.find? spec.name = some (some value) → value.isDefined = false) →
          written parsed.operator bindings spec = []) ∧
        ∀ value, bindings.find? spec.name = some (some value) → value.isDefined = true →
          (written parsed.operator bindings spec).length = count spec value ∧
          read? parsed.operator spec (written parsed.operator bindings spec)
            (Shape.ofValue value) = some (kept spec value) := by
  have hasPiece : parsed.specs.flatMap (written parsed.operator bindings) ≠ [] := by
    obtain ⟨spec, inSpecs, value, bound, defined⟩ := someDefined
    obtain ⟨piece, rest, pieces⟩ :=
      List.exists_cons_of_ne_nil (Streaming.pieces_ne_nil parsed.operator spec defined)
    have inWritten : piece ∈ written parsed.operator bindings spec := by
      rw [written_of_defined bound defined, pieces]
      exact List.mem_cons_self
    exact List.ne_nil_of_mem (List.mem_flatMap.mpr ⟨spec, inSpecs, inWritten⟩)
  refine ⟨List.intercalate parsed.operator.separator
    (parsed.specs.flatMap (written parsed.operator bindings)), ?_, ?_, ?_⟩
  · rw [expandUnchecked_given, Streaming.joined_of_ne_nil _ hasPiece]
  · refine List.splitOn_intercalate _ ?_ hasPiece
    intro piece among
    obtain ⟨spec, inSpecs, inPieces⟩ := List.mem_flatMap.mp among
    exact separator_free decodable (named spec inSpecs) inPieces
  · intro spec inSpecs
    refine ⟨written_eq_nil, ?_⟩
    intro value bound defined
    have encodes := (of_mem_operators parsed.operator decodable).1
    have isName := (Grammar.isName_eq_true_iff spec.name).mp (named spec inSpecs)
    rw [written_of_defined bound defined]
    exact ⟨length_pieces parsed.operator spec value, read?_pieces encodes isName defined⟩

/-- Delimiters in a key and in its value, and in a list that has an empty item. -/
theorem expandUnchecked_decodable_delimiters :
    ∃ (parsed : Expression) (bindings : Bindings (Option Value)) (rest : Text),
      parsed.operator = .parameter ∧
      parsed.specs = [⟨"u", .plain⟩, ⟨"k", .explode⟩, ⟨"l", .plain⟩] ∧
      parsed.expandUnchecked (Streaming.given bindings) = .ok (parsed.operator.lead ++ rest) ∧
      List.splitOn (.scalar ';') rest =
        [Text.ofString "a%3D%3B=b%26", Text.ofString "l=x%2Cy,"] ∧
      read? .parameter ⟨"k", .explode⟩ ["a%3D%3B=b%26"] .pairs =
        some (.assoc ⟨[("a=;".toList, "b&".toList)], by simp⟩) ∧
      read? .parameter ⟨"l", .plain⟩ ["l=x%2Cy,"] .list = some (.list ["x,y".toList, []]) := by
  have recovered := @expandUnchecked_decodable
    ⟨.parameter, [⟨"u", .plain⟩, ⟨"k", .explode⟩, ⟨"l", .plain⟩], by simp⟩
    (by decide) (by decide +kernel)
    [("u", none), ("k", some (.assoc ⟨[("a=;".toList, "b&".toList)], by simp⟩)),
      ("l", some (.list ["x,y".toList, []]))]
    ⟨⟨"l", .plain⟩, by simp, .list ["x,y".toList, []], by decide +kernel, rfl⟩
  obtain ⟨rest, expanded, split, each⟩ := recovered
  have ofPairs := ((each ⟨"k", .explode⟩ (by simp)).2 _ (by rfl) rfl).2
  have ofList := ((each ⟨"l", .plain⟩ (by simp)).2 _ (by rfl) rfl).2
  refine ⟨_, _, rest, rfl, rfl, expanded, split.trans ?_, ?_, ?_⟩
  · decide +kernel
  · exact ofPairs
  · exact ofList

end UriTemplate.Decoding
