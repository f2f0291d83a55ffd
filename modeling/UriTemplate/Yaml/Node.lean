import UriTemplate.Yaml.Graph
import UriTemplate.Yaml.Outline

/-!
The node that a YAML text consists of.

A text holds at most one document, and a document is one node.  An alias stands
for the node with its anchor, which must start earlier but may still be open.
Anchors are distinct.  Collections stand inside one another only to a certain depth.
-/

namespace UriTemplate.Yaml

/-- The tokens that have not been read, and what has to be known to read them. -/
structure Reader where
  tokens : List Token
  handles : List (List Char × List Char)
  anchors : List (List Char × Nat)
  graph : Graph
  depth : Nat

/-- The properties before the content of a node. -/
structure Properties where
  anchor : Option (List Char)
  tag : Option (List Char)

/-- Where a node stands. -/
inductive Context where
  | flow
  | block
  /-- After a key or a colon of a block, where a sequence need not be indented. -/
  | blockPart
deriving DecidableEq

namespace Reader

/-- The handles that need no directive. -/
def standardHandles : List (List Char × List Char) :=
  [(['!'], ['!']), (['!', '!'], Tag.namespaceName)]

def next (reader : Reader) : Token :=
  reader.tokens.headD .finish

def skip (reader : Reader) : Reader :=
  { reader with tokens := reader.tokens.drop 1 }

/-- The fault of a token that cannot stand where it does. -/
def unexpected {Result : Type} (reader : Reader) : Except Fault Result :=
  match reader.next with
  | .broken fault => .error fault
  | _ => .error .malformed

/-- The name of an anchor, if one comes next. -/
def anchor? (reader : Reader) : Option (List Char) × Reader :=
  match reader.next with
  | .anchor name => (some name, reader.skip)
  | _ => (none, reader)

def tagName (reader : Reader) (written : WrittenTag) : Except Fault (List Char) :=
  match written.handle with
  | none => .ok written.suffix
  | some handle =>
      match reader.handles.lookup handle with
      | some expansion => .ok (expansion ++ written.suffix)
      | none => .error .malformed

/-- Requires that a token comes next. -/
def requireToken (reader : Reader) : Except Fault Unit :=
  match reader.next with
  | .broken fault => .error fault
  | _ => .ok ()

/-- The properties that come next, in either order.  A handle is looked up after the anchor that
follows it. -/
def properties (reader : Reader) : Except Fault (Properties × Reader) := do
  let (anchor, reader) := reader.anchor?
  match reader.next with
  | .tag written =>
      if anchor.isSome then
        return (⟨anchor, some (← reader.tagName written)⟩, reader.skip)
      else
        reader.skip.requireToken
        let (late, after) := reader.skip.anchor?
        return (⟨late, some (← reader.tagName written)⟩, after)
  | _ => return (⟨anchor, none⟩, reader)

def collectionTag (usual : Tag) (tag : Option (List Char)) : Tag :=
  match tag with
  | none => usual
  | some name => if name = ['!'] then usual else Tag.ofName name

/-- The tag of a scalar: that of its form if it is plain and untagged or its tag says no more. -/
def scalarTag (tag : Option (List Char)) (text : Text) (isPlain : Bool) : Tag :=
  match tag with
  | none => if isPlain then Tag.ofPlain text else .string
  | some name => if name = ['!'] then Tag.ofPlain text else Tag.ofName name

/-- Adds a node, which becomes known by its anchor if it has one. -/
def add (anchor : Option (List Char)) (node : Node) (reader : Reader) : Nat × Reader :=
  let number := reader.graph.size
  let named := anchor.toList.map fun name => (name, number)
  (number, { reader with
    graph := reader.graph.add node
    anchors := named ++ reader.anchors })

def addEmpty (reader : Reader) : Nat × Reader :=
  reader.add none ⟨.null, .scalar []⟩

/-- The greatest number of collections inside one another. -/
def maxDepth : Nat := 490

def enter (anchor : Option (List Char)) (node : Node) (reader : Reader) :
    Except Fault (Nat × Reader) :=
  if reader.depth < maxDepth then
    let (number, inside) := reader.add anchor node
    .ok (number, { inside with depth := reader.depth + 1 })
  else
    .error .tooDeep

def leave (number : Nat) (content : Content) (reader : Reader) : Nat × Reader :=
  (number, { reader with
    graph := reader.graph.fill number content
    depth := reader.depth - 1 })

def nextIn (reader : Reader) (tokens : List Token) : Bool :=
  tokens.contains reader.next

mutual

def node (context : Context) : Nat → Reader → Except Fault (Nat × Reader)
  | 0, _ => .error .malformed
  | limit + 1, reader =>
      match reader.next with
      | .reference name =>
          match reader.anchors.lookup name with
          | some number => .ok (number, reader.skip)
          | none => .error .malformed
      | _ => do
          let (properties, reader) ← reader.properties
          reader.requireToken
          if properties.anchor.any fun name => (reader.anchors.lookup name).isSome then
            throw .malformed
          content context properties limit reader

def content (context : Context) (properties : Properties) :
    Nat → Reader → Except Fault (Nat × Reader)
  | 0, _ => .error .malformed
  | limit + 1, reader =>
      let anchor := properties.anchor
      let sequence := enter anchor ⟨collectionTag .sequence properties.tag, .sequence []⟩
      let mapping := enter anchor ⟨collectionTag .mapping properties.tag, .mapping []⟩
      let scalar (text : Text) (isPlain : Bool) :=
        add anchor ⟨scalarTag properties.tag text isPlain, .scalar text⟩
      match reader.next with
      | .scalar text isPlain => .ok (scalar text isPlain reader.skip)
      | .openBracket => do
          let (number, reader) ← sequence reader.skip
          let (items, reader) ← flowItems true limit reader
          return reader.leave number (.sequence items)
      | .openBrace => do
          let (number, reader) ← mapping reader.skip
          let (entries, reader) ← flowEntries true limit reader
          return reader.leave number (.mapping entries)
      | token =>
          if token = .entry ∧ context = .blockPart then do
            let (number, reader) ← sequence reader
            let (items, reader) ← looseItems limit reader
            return reader.leave number (.sequence items)
          else if token = .sequenceStart ∧ context ≠ .flow then do
            let (number, reader) ← sequence reader.skip
            let (items, reader) ← items limit reader
            return reader.leave number (.sequence items)
          else if token = .mappingStart ∧ context ≠ .flow then do
            let (number, reader) ← mapping reader.skip
            let (entries, reader) ← entries limit reader
            return reader.leave number (.mapping entries)
          else if properties.anchor.isSome || properties.tag.isSome then
            .ok (scalar [] true reader)
          else
            reader.unexpected

/-- Reads a node unless one of the given tokens shows that its place is empty. -/
def nodeUnless (context : Context) (ends : List Token) :
    Nat → Reader → Except Fault (Nat × Reader)
  | 0, _ => .error .malformed
  | limit + 1, reader =>
      if reader.nextIn ends then .ok reader.addEmpty else node context limit reader

def items : Nat → Reader → Except Fault (List Nat × Reader)
  | 0, _ => .error .malformed
  | limit + 1, reader =>
      match reader.next with
      | .entry => do
          let (item, reader) ← nodeUnless .block [.entry, .blockEnd] limit reader.skip
          let (others, reader) ← items limit reader
          return (item :: others, reader)
      | .blockEnd => .ok ([], reader.skip)
      | _ => reader.unexpected

/-- Reads the items of a sequence that is not indented. -/
def looseItems : Nat → Reader → Except Fault (List Nat × Reader)
  | 0, _ => .error .malformed
  | limit + 1, reader =>
      match reader.next with
      | .entry => do
          let (item, reader) ←
            nodeUnless .block [.entry, .key, .value, .blockEnd] limit reader.skip
          let (others, reader) ← looseItems limit reader
          return (item :: others, reader)
      | _ => .ok ([], reader)

def entries : Nat → Reader → Except Fault (List (Nat × Nat) × Reader)
  | 0, _ => .error .malformed
  | limit + 1, reader =>
      match reader.next with
      | .key => do
          let (key, reader) ← nodeUnless .blockPart [.key, .value, .blockEnd] limit reader.skip
          let (value, reader) ← valueAfter .blockPart [.key, .value, .blockEnd] limit reader
          let (others, reader) ← entries limit reader
          return ((key, value) :: others, reader)
      | .blockEnd => .ok ([], reader.skip)
      | _ => reader.unexpected

/-- Reads the value of an entry, which may be missing. -/
def valueAfter (context : Context) (ends : List Token) :
    Nat → Reader → Except Fault (Nat × Reader)
  | 0, _ => .error .malformed
  | limit + 1, reader =>
      if reader.next = .value then nodeUnless context ends limit reader.skip
      else .ok reader.addEmpty

def flowItems (isFirst : Bool) : Nat → Reader → Except Fault (List Nat × Reader)
  | 0, _ => .error .malformed
  | limit + 1, reader =>
      if reader.next = .closeBracket then .ok ([], reader.skip)
      else if !isFirst && reader.next ≠ .comma then reader.unexpected
      else
        let reader := if isFirst then reader else reader.skip
        if reader.next = .closeBracket then .ok ([], reader.skip)
        else do
          let (item, reader) ← flowItem limit reader
          let (others, reader) ← flowItems false limit reader
          return (item :: others, reader)

/-- Reads an item of a flow sequence, which may be a mapping with one entry. -/
def flowItem : Nat → Reader → Except Fault (Nat × Reader)
  | 0, _ => .error .malformed
  | limit + 1, reader =>
      if reader.next = .key then do
        let (mapping, reader) ← reader.skip.enter none ⟨.mapping, .mapping []⟩
        let (key, reader) ← nodeUnless .flow [.value, .comma, .closeBracket] limit reader
        let (value, reader) ← valueAfter .flow [.comma, .closeBracket] limit reader
        return reader.leave mapping (.mapping [(key, value)])
      else
        node .flow limit reader

def flowEntries (isFirst : Bool) : Nat → Reader → Except Fault (List (Nat × Nat) × Reader)
  | 0, _ => .error .malformed
  | limit + 1, reader =>
      if reader.next = .closeBrace then .ok ([], reader.skip)
      else if !isFirst && reader.next ≠ .comma then reader.unexpected
      else
        let reader := if isFirst then reader else reader.skip
        if reader.next = .closeBrace then .ok ([], reader.skip)
        else do
          let (entry, reader) ← flowEntry limit reader
          let (others, reader) ← flowEntries false limit reader
          return (entry :: others, reader)

/-- Reads an entry of a flow mapping, which may be a key alone. -/
def flowEntry : Nat → Reader → Except Fault ((Nat × Nat) × Reader)
  | 0, _ => .error .malformed
  | limit + 1, reader =>
      if reader.next = .key then do
        let (key, reader) ← nodeUnless .flow [.value, .comma, .closeBrace] limit reader.skip
        let (value, reader) ← valueAfter .flow [.comma, .closeBrace] limit reader
        return ((key, value), reader)
      else do
        let (key, reader) ← node .flow limit reader
        let (value, reader) := reader.addEmpty
        return ((key, value), reader)

end

/-- Reads the directives before a document. -/
def directives (version : Bool) : List Token → List (List Char × List Char) →
    Except Fault (List Token × List (List Char × List Char))
  | .directive (.version major) :: rest, handles =>
      if version ∨ major ≠ 1 then .error .malformed else directives true rest handles
  | .directive (.handle handle expansion) :: rest, handles =>
      if (handles.lookup handle).isSome then .error .malformed
      else directives version rest ((handle, expansion) :: handles)
  | .directive .other :: rest, handles => directives version rest handles
  | rest, handles => .ok (rest, handles)

/-- A number that bounds the calls needed to read the tokens. -/
def limit (tokens : List Token) : Nat := 4 * tokens.length + 8

/-- Requires that no further document comes.  The directives of one are looked at first. -/
def finish (reader : Reader) : Except Fault Unit := do
  let tokens := reader.tokens.dropWhile (· == Token.documentEnd)
  if tokens.head? = some .finish then return ()
  let (rest, _) ← directives false tokens []
  unexpected { reader with tokens := rest }

/-- Reads a document in a text with other content than blanks and comments. -/
def document (reader : Reader) : Except Fault (Nat × Reader) := do
  if reader.nextIn [.documentStart] || (reader.next matches .directive _) then
    let (tokens, handles) ← directives false reader.tokens []
    let reader := { reader with tokens := tokens, handles := handles ++ standardHandles }
    if reader.next ≠ .documentStart then reader.unexpected
    else
      let reader := reader.skip
      if reader.nextIn [.documentStart, .documentEnd, .finish] ||
          (reader.next matches .directive _) then
        return reader.addEmpty
      else node .block (limit reader.tokens) reader
  else
    node .block (limit reader.tokens) reader

end Reader

/-- The nodes of a text, with the number of the one it consists of; none if it has only blanks
and comments. -/
def Graph.ofTokens (tokens : List Token) : Except Fault (Option (Nat × Graph)) := do
  let reader : Reader := ⟨tokens, Reader.standardHandles, [], .empty, 0⟩
  if reader.next = .finish then return none
  else
    let (root, reader) ← reader.document
    reader.finish
    return some (root, reader.graph)

end UriTemplate.Yaml
