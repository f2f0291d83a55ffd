import UriTemplate.Value.Document
import UriTemplate.Value.SetOrder
import UriTemplate.Yaml.Merge
import UriTemplate.Yaml.Node
import UriTemplate.Yaml.Scalar

/-!
Documents in YAML.

Every node denotes one item, and a collection is numbered when it is first met.
What stands inside the collections is looked at in the order of their numbers, so
that of several faults the least deeply nested one is reported.  A key given again
keeps its place and its first form and takes the last value.
-/

namespace UriTemplate.Yaml

namespace Graph

/-- The text of a scalar, or of the value entry of a mapping that stands for a scalar. -/
def textWithin (graph : Graph) : Nat → Nat → Except Fault Text
  | 0, _ => .error .tooDeep
  | limit + 1, number =>
      match graph.content number with
      | .scalar text => .ok text
      | .sequence _ => .error .malformed
      | .mapping entries =>
          match entries.find? fun entry => graph.tag entry.1 == .value with
          | some (_, value) => textWithin graph limit value
          | none => .error .malformed

/-- The datum of a node with the tag of a scalar.  A timestamp must be written as a scalar. -/
def scalarDatum (graph : Graph) (number : Nat) : Except Fault Datum := do
  let tag := graph.tag number
  if tag.isScalar then
    let text ← graph.textWithin (graph.size + 1) number
    if tag = .timestamp ∧ graph.isMapping number then throw .notScalar
    Scalar.datum number tag text
  else
    throw .malformed

end Graph

/-- What is known about a document while its nodes are looked at. -/
structure Draft where
  graph : Graph
  /-- What the nodes denote, as far as it has been asked for. -/
  items : Array (Option Item)
  /-- The nodes of the collections, by the numbers of these. -/
  sources : Array Nat

namespace Draft

/-- A step that extends a draft. -/
abbrev Step := StateT Draft (Except Fault)

def note (node : Nat) (item : Item) (draft : Draft) : Draft :=
  { draft with items := draft.items.setIfInBounds node (some item) }

def itemAt (node : Nat) : Step Item := do
  let draft ← get
  match draft.items[node]?.join with
  | some item => return item
  | none =>
      if (draft.graph.tag node).isCollection then
        let item := Item.numbered draft.sources.size
        modify fun draft => { draft.note node item with sources := draft.sources.push node }
        return item
      else
        let item := Item.plain (← draft.graph.scalarDatum node)
        modify (note node item)
        return item

def sequenceItems (node : Nat) : Step (List Nat) := do
  match (← get).graph.content node with
  | .sequence items => return items
  | _ => throw .malformed

/-- The key and the value of a mapping with one entry. -/
def pairAt (node : Nat) : Step (Item × Item) := do
  match (← get).graph.content node with
  | .mapping [entry] => return (← itemAt entry.1, ← itemAt entry.2)
  | _ => throw .malformed

/-- Adds an entry of a mapping, of which the key must be no collection. -/
def addEntry (entries : List (Datum × Item)) (entry : Nat × Nat) : Step (List (Datum × Item)) := do
  match ← itemAt entry.1 with
  | .numbered _ => throw .malformed
  | .plain key => return Datum.insertEntry key (← itemAt entry.2) entries

/-- The entries of a mapping, those merged into it first. -/
def mappingEntries (node : Nat) : Step (List (Datum × Item)) := do
  let graph := (← get).graph
  if graph.isMapping node then
    let graph ← graph.merge node
    modify fun draft => { draft with graph := graph }
    (graph.entries node).foldlM addEntry []
  else
    throw .malformed

def collectionAt (node : Nat) : Step Collection := do
  match (← get).graph.tag node with
  | .sequence => return .list (← (← sequenceItems node).mapM itemAt)
  | .orderedMapping | .pairs => return .pairs (← (← sequenceItems node).mapM pairAt)
  | .set => return .set (Datum.inSetOrder ((← mappingEntries node).map Prod.fst))
  | _ => return .mapping (← mappingEntries node)

def collectionsFrom : Nat → Nat → Step (List Collection)
  | 0, _ => return []
  | limit + 1, number => do
      match (← get).sources[number]? with
      | none => return []
      | some node => return (← collectionAt node) :: (← collectionsFrom limit (number + 1))

def documentAt (root : Nat) : Step Document := do
  let item ← itemAt root
  let collections ← collectionsFrom ((← get).graph.size + 1) 0
  return ⟨collections.toArray, item⟩

/-- The draft of a document that nothing is known about. -/
def start (graph : Graph) : Draft :=
  ⟨graph, Array.replicate graph.size none, #[]⟩

end Draft

/-- Whether a character can stand in a text. -/
def isAllowed (char : Char) : Bool :=
  let number := char.toNat
  number = 0x9 || number = 0xA || number = 0xD || (0x20 ≤ number && number ≤ 0x7E) ||
    number = 0x85 || (0xA0 ≤ number && number ≤ 0xFFFD) || 0x10000 ≤ number

/-- The document that a text holds; a text with only blanks and comments holds null. -/
def load (text : Text) : Except Fault Document :=
  match text.scalars? with
  | none => .error .malformed
  | some chars =>
      if chars.all isAllowed then do
        match ← Graph.ofTokens (Token.ofText chars) with
        | none => return ⟨#[], .plain .null⟩
        | some (root, graph) => (Draft.documentAt root).run' (.start graph)
      else
        .error .malformed

end UriTemplate.Yaml
