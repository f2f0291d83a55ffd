import UriTemplate.Value.Datum

/-!
Documents.

The lists, sets and mappings of a document are numbered.  What stands inside one
of them is given by its number, so it may stand in several places, and even inside
itself.  `Document.datum` follows the numbers from one place on and cuts off where
it would go round in a circle.
-/

namespace UriTemplate

/-- What stands at a place of a document. -/
inductive Item where
  /-- A datum that is no list, set or mapping. -/
  | plain (datum : Datum)
  /-- The list, set or mapping with a number. -/
  | numbered (number : Nat)

/-- A list, a set or a mapping; `pairs` is a list of tuples. -/
inductive Collection where
  | list (items : List Item)
  | pairs (items : List (Item × Item))
  | set (members : List Datum)
  | mapping (entries : List (Datum × Item))

/-- A document: its lists, sets and mappings by number, and what it consists of. -/
structure Document where
  collections : Array Collection
  root : Item

namespace Document

def entries? (document : Document) : Item → Option (List (Datum × Item))
  | .plain _ => none
  | .numbered number =>
      match document.collections[number]? with
      | some (.mapping entries) => some entries
      | _ => none

def datumInside (document : Document) : Nat → List Nat → Item → Datum
  | _, _, .plain datum => datum
  | 0, _, .numbered _ => .null
  | limit + 1, enclosing, .numbered number =>
      let isInside := enclosing.contains number
      let inner := datumInside document limit (number :: enclosing)
      match document.collections[number]? with
      | some (.list items) => if isInside then .enclosing false else .list (items.map inner)
      | some (.pairs items) =>
          if isInside then .enclosing false
          else .list (items.map fun pair => .tuple [inner pair.1, inner pair.2])
      | some (.set members) => .set members
      | some (.mapping entries) =>
          if isInside then .enclosing true
          else .mapping (entries.map fun entry => (entry.1, inner entry.2))
      | none => .null

def datum (document : Document) (item : Item) : Datum :=
  document.datumInside (document.collections.size + 1) [] item

end Document

end UriTemplate
