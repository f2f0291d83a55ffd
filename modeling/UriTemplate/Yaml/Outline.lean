import UriTemplate.Yaml.Name
import UriTemplate.Yaml.Plain
import UriTemplate.Yaml.Quoted

/-!
The outline of a YAML text: its tokens, with indentation made explicit.

Outside flow collections a block opens where a key or an entry is indented further
than those around it, and it closes where a token is indented less.  Whether a
scalar or a collection is a key is known only at the colon after it, so its place
is remembered; such a key ends on the line it starts on and is at most 1024
characters long.
-/

namespace UriTemplate.Yaml

/-- Where a key may have started.  It is required if nothing else can stand there. -/
structure KeyPlace where
  /-- The number of tokens before the key. -/
  tokenCount : Nat
  isRequired : Bool
  index : Nat
  line : Nat
  column : Nat

/-- The tokens read so far, and what decides about those that follow. -/
structure Outline where
  cursor : Cursor
  tokens : Array Token
  /-- The columns of the open blocks, the innermost first. -/
  blocks : List Nat
  /-- Where a key of the innermost collection may have started. -/
  place : Option KeyPlace
  /-- The same for the collections around the open flow collections, the innermost first. -/
  outerPlaces : List (Option KeyPlace)
  /-- Whether a key may start at the cursor. -/
  keyAllowed : Bool

namespace Outline

/-- The outline of a text of which nothing has been read; a byte order mark is passed over. -/
def start (text : List Char) : Outline where
  cursor :=
    if text.head? = some '\uFEFF' then (Cursor.start text).advance else Cursor.start text
  tokens := #[]
  blocks := []
  place := none
  outerPlaces := []
  keyAllowed := true

def inFlow (outline : Outline) : Bool :=
  !outline.outerPlaces.isEmpty

/-- The least column of what belongs to the innermost block. -/
def contentColumn (outline : Outline) : Nat :=
  match outline.blocks with
  | [] => 0
  | column :: _ => column + 1

def push (token : Token) (outline : Outline) : Outline :=
  { outline with tokens := outline.tokens.push token }

def moveTo (cursor : Cursor) (outline : Outline) : Outline :=
  { outline with cursor := cursor }

def allowKey (allowed : Bool) (outline : Outline) : Outline :=
  { outline with keyAllowed := allowed }

/-- The place after blank space, comments and the ends of lines, and whether a line has ended. -/
def nextContent : Nat → Bool → Cursor → Cursor × Bool
  | 0, ended, cursor => (cursor, ended)
  | limit + 1, ended, cursor =>
      let last := cursor.skipSpaces.skipComment
      match last.lineBreak? with
      | none => (last, ended)
      | some (_, after) => nextContent limit true after

/-- Moves to the next token.  A key may start on a new line of a block. -/
def skipBlank (outline : Outline) : Outline :=
  let (cursor, ended) := nextContent (outline.cursor.rest.length + 1) false outline.cursor
  { outline with
    cursor := cursor
    keyAllowed := outline.keyAllowed || (ended && !outline.inFlow) }

/-- Gives a remembered place up if the cursor is too far from it. -/
def expire (cursor : Cursor) : Option KeyPlace → Except Fault (Option KeyPlace)
  | none => .ok none
  | some place =>
      if place.line = cursor.line ∧ cursor.index - place.index ≤ 1024 then .ok (some place)
      else if place.isRequired then .error .malformed
      else .ok none

/-- Gives up all remembered places that are too far away. -/
def expirePlaces (outline : Outline) : Except Fault Outline := do
  let place ← expire outline.cursor outline.place
  let outerPlaces ← outline.outerPlaces.mapM (expire outline.cursor)
  return { outline with place := place, outerPlaces := outerPlaces }

/-- Forgets the place of a key, which must not be a required one. -/
def forget (outline : Outline) : Except Fault Outline :=
  if outline.place.any KeyPlace.isRequired then .error .malformed
  else .ok { outline with place := none }

/-- Remembers the cursor as the place of a key, if one may start here. -/
def remember (outline : Outline) : Except Fault Outline := do
  if outline.keyAllowed then
    let cursor := outline.cursor
    let isRequired := !outline.inFlow && outline.blocks.head? == some cursor.column
    return { ← outline.forget with
      place := some ⟨outline.tokens.size, isRequired, cursor.index, cursor.line, cursor.column⟩ }
  else
    return outline

/-- Closes the innermost blocks as long as their columns satisfy a test. -/
def closeBlocks (test : Nat → Bool) (outline : Outline) : Outline :=
  let closed := outline.blocks.takeWhile test
  { outline with
    blocks := outline.blocks.drop closed.length
    tokens := outline.tokens ++ closed.map fun _ => Token.blockEnd }

/-- Closes the blocks that reach further than the cursor. -/
def dedent (outline : Outline) : Outline :=
  if outline.inFlow then outline
  else outline.closeBlocks fun column => outline.cursor.column < column

def closeAll (outline : Outline) : Outline :=
  if outline.inFlow then outline else outline.closeBlocks fun _ => true

/-- Opens a block at a column that is indented further than the innermost one. -/
def openBlock (column count : Nat) (token : Token) (outline : Outline) : Outline :=
  if !outline.inFlow && outline.contentColumn ≤ column then
    { outline with
      blocks := column :: outline.blocks
      tokens := outline.tokens.insertIdxIfInBounds count token }
  else
    outline

/-- Requires that a key may start at the cursor, unless a flow collection is open. -/
def requireAllowed (outline : Outline) : Except Fault Unit :=
  if outline.inFlow || outline.keyAllowed then .ok () else .error .malformed

def readFinish (outline : Outline) : Except Fault Outline := do
  return (← outline.closeAll.forget).push .finish

def readDirective (outline : Outline) : Except Fault Outline := do
  let outline ← outline.closeAll.forget
  let (directive, after) ← Directive.read outline.cursor
  return ((outline.allowKey false).push (.directive directive)).moveTo after

def readMarker (token : Token) (outline : Outline) : Except Fault Outline := do
  let outline ← outline.closeAll.forget
  return ((outline.allowKey false).push token).moveTo (outline.cursor.advanceBy 3)

def openFlow (token : Token) (outline : Outline) : Except Fault Outline := do
  let outline ← outline.remember
  return { outline with
    outerPlaces := outline.place :: outline.outerPlaces
    place := none
    keyAllowed := true
    tokens := outline.tokens.push token
    cursor := outline.cursor.advance }

def closeFlow (token : Token) (outline : Outline) : Except Fault Outline := do
  let outline ← outline.forget
  match outline.outerPlaces with
  | [] => throw .malformed
  | place :: outerPlaces =>
      return { outline with
        outerPlaces := outerPlaces
        place := place
        keyAllowed := false
        tokens := outline.tokens.push token
        cursor := outline.cursor.advance }

def readComma (outline : Outline) : Except Fault Outline := do
  let outline ← outline.forget
  return ((outline.allowKey true).push .comma).moveTo outline.cursor.advance

def readEntry (outline : Outline) : Except Fault Outline := do
  outline.requireAllowed
  let outline := outline.openBlock outline.cursor.column outline.tokens.size .sequenceStart
  let outline ← outline.forget
  return ((outline.allowKey true).push .entry).moveTo outline.cursor.advance

def readKey (outline : Outline) : Except Fault Outline := do
  outline.requireAllowed
  let outline := outline.openBlock outline.cursor.column outline.tokens.size .mappingStart
  let outline ← outline.forget
  return ((outline.allowKey (!outline.inFlow)).push .key).moveTo outline.cursor.advance

def markKey (place : KeyPlace) (outline : Outline) : Outline :=
  { outline with
    place := none
    keyAllowed := false
    tokens := outline.tokens.insertIdxIfInBounds place.tokenCount .key }

def readValue (outline : Outline) : Except Fault Outline := do
  let outline ←
    match outline.place with
    | some place =>
        pure ((outline.markKey place).openBlock place.column place.tokenCount .mappingStart)
    | none => do
        outline.requireAllowed
        let outline := outline.openBlock outline.cursor.column outline.tokens.size .mappingStart
        pure (outline.allowKey (!outline.inFlow))
  return (outline.push .value).moveTo outline.cursor.advance

/-- Reads a token at which a key may start and after which none may. -/
def readKeyPart (read : Cursor → Except Fault (Token × Cursor)) (outline : Outline) :
    Except Fault Outline := do
  let outline ← outline.remember
  let (token, after) ← read outline.cursor
  return ((outline.allowKey false).push token).moveTo after

def readBlockScalar (folded : Bool) (outline : Outline) : Except Fault Outline := do
  let outline ← outline.forget
  let (text, after) ← Block.read folded outline.contentColumn outline.cursor
  return ((outline.allowKey true).push (.scalar (Text.ofChars text) false)).moveTo after

def readPlain (outline : Outline) : Except Fault Outline := do
  let outline ← outline.remember
  let piece := Plain.read outline.inFlow outline.contentColumn outline.cursor
  return ((outline.allowKey piece.endsLine).push
    (.scalar (Text.ofChars piece.content) true)).moveTo piece.after

def quotedToken (quote : Char) (cursor : Cursor) : Except Fault (Token × Cursor) := do
  let (text, after) ← Quoted.read quote cursor
  return (.scalar text false, after)

def aliasToken (cursor : Cursor) : Except Fault (Token × Cursor) := do
  let (name, after) ← readName cursor.advance
  return (.reference name, after)

def anchorToken (cursor : Cursor) : Except Fault (Token × Cursor) := do
  let (name, after) ← readName cursor.advance
  return (.anchor name, after)

def tagToken (cursor : Cursor) : Except Fault (Token × Cursor) := do
  let (written, after) ← WrittenTag.read cursor
  return (.tag written, after)

/-- The characters that cannot start a plain scalar. -/
def isIndicator (char : Char) : Bool :=
  "-?:,[]\x7b\x7d#&*!|>'\"%@`".toList.contains char

def startsPlain (inFlow : Bool) (char : Char) (rest : List Char) : Bool :=
  !(isBlank char || isIndicator char) ||
    (!atBlank rest && (char == '-' || (!inFlow && (char == '?' || char == ':'))))

/-- Whether the next character alone makes a token: always in a flow collection, and otherwise
before a blank. -/
def standsAlone (outline : Outline) (rest : List Char) : Bool :=
  outline.inFlow || atBlank rest

def readToken (outline : Outline) : Except Fault Outline :=
  let cursor := outline.cursor
  match cursor.rest with
  | [] => outline.readFinish
  | char :: rest =>
      if cursor.column = 0 ∧ char = '%' then outline.readDirective
      else if cursor.column = 0 ∧ atMarker (char :: rest) then
        outline.readMarker (if char = '-' then .documentStart else .documentEnd)
      else if char = '[' then outline.openFlow .openBracket
      else if char = '\x7b' then outline.openFlow .openBrace
      else if char = ']' then outline.closeFlow .closeBracket
      else if char = '\x7d' then outline.closeFlow .closeBrace
      else if char = ',' then outline.readComma
      else if char = '-' ∧ atBlank rest then outline.readEntry
      else if char = '?' ∧ outline.standsAlone rest then outline.readKey
      else if char = ':' ∧ outline.standsAlone rest then outline.readValue
      else if char = '*' then outline.readKeyPart aliasToken
      else if char = '&' then outline.readKeyPart anchorToken
      else if char = '!' then outline.readKeyPart tagToken
      else if char = '|' ∧ !outline.inFlow then outline.readBlockScalar false
      else if char = '>' ∧ !outline.inFlow then outline.readBlockScalar true
      else if char = '\'' ∨ char = '"' then outline.readKeyPart (quotedToken char)
      else if startsPlain outline.inFlow char rest then outline.readPlain
      else .error .malformed

/-- Reads the next token after what stands before it. -/
def readNext (outline : Outline) : Except Fault Outline := do
  (← outline.skipBlank.expirePlaces).dedent.readToken

def isFinished (outline : Outline) : Bool :=
  outline.tokens.back? == some .finish

/-- The number of tokens before which no key can be inserted any more. -/
def settledCount (outline : Outline) : Nat :=
  (outline.place :: outline.outerPlaces).foldl
    (fun count place => place.elim count fun place => min count place.tokenCount)
    outline.tokens.size

/-- The settled tokens, with a fault in place of the others. -/
def breakOff (fault : Fault) (outline : Outline) : List Token :=
  outline.tokens.toList.take outline.settledCount ++ [.broken fault]

/-- The tokens of the text.  Where no further token can be read, those that are not settled are
lost as well. -/
def readAll : Nat → Outline → List Token
  | 0, outline => outline.tokens.toList
  | limit + 1, outline =>
      match outline.expirePlaces with
      | .error fault => outline.breakOff fault
      | .ok outline =>
          match outline.readNext with
          | .error fault => outline.breakOff fault
          | .ok after => if after.isFinished then after.tokens.toList else readAll limit after

end Outline

def Token.ofText (text : List Char) : List Token :=
  Outline.readAll (text.length + 1) (Outline.start text)

end UriTemplate.Yaml
