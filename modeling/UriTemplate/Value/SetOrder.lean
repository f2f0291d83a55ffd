import UriTemplate.Value.Datum

/-!
The order in which a set of numbers shows its members.

The members lie in a table whose size is a power of two, each at a place computed
from its residue modulo a Mersenne prime.  Equal numbers have equal residues,
whatever their kind.  A place that is taken sends a member to the next ones, or
further through the table.  The members are shown in the order of their places.
-/

namespace UriTemplate.Datum

def residueModulus : Nat := 0x1FFFFFFFFFFFFFFF

/-- The residue with a sign, which is never minus one. -/
def signedResidue (negative : Bool) (residue : Nat) : Int :=
  if negative then (if residue = 1 then -2 else -residue) else residue

/-- The residue of a number; a power of two counts by its exponent modulo 61. -/
def residue? : Datum → Option Int
  | .truth value => some (if value then 1 else 0)
  | .integer value => some (signedResidue (value < 0) (value.natAbs % residueModulus))
  | .real value =>
      if value.isFinite then
        some (signedResidue value.isNegative
          (value.significand * Nat.pow 2 (value.scale.emod 61).toNat % residueModulus))
      else if value.isInfinite then some (signedResidue value.isNegative 314159)
      else none
  | _ => none

/-- The number of places for a number of members. -/
def tableSize (count : Nat) : Nat :=
  if count < 5 then 8 else Nat.pow 2 (Nat.log2 (2 * count) + 1)

/-- The first free place from an index on, among those that are tried before going further. -/
def freePlace? (table : Array (Option Datum)) (index : Nat) : Option Nat :=
  let last := if index + 9 < table.size then index + 9 else index
  (List.range' index (last + 1 - index)).find? fun place => (table[place]?.join).isNone

/-- Puts a member into the table, starting at an index; what is left of the residue decides where
to go on. -/
def insertFrom (member : Datum) : Nat → Nat → Nat → Array (Option Datum) → Array (Option Datum)
  | 0, _, _, table => table
  | limit + 1, index, rest, table =>
      match freePlace? table index with
      | some place => table.setIfInBounds place (some member)
      | none =>
          let rest := rest / 32
          insertFrom member limit ((index * 5 + 1 + rest) % table.size) rest table

/-- Puts a member with a residue into the table. -/
def insertMember (table : Array (Option Datum)) (member : Datum × Int) : Array (Option Datum) :=
  let bits := (member.2.emod 0x10000000000000000).toNat
  insertFrom member.1 (table.size + 16) (bits % table.size) bits table

/-- The members of a set in the order in which they are shown; members other than numbers have no
order of their own. -/
def inSetOrder (members : List Datum) : List Datum :=
  match members.mapM fun member => member.residue?.map fun residue => (member, residue) with
  | none => members
  | some numbered =>
      let table := Array.replicate (tableSize members.length) none
      (numbered.foldl insertMember table).toList.filterMap id

end UriTemplate.Datum
