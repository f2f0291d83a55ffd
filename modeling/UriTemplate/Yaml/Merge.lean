import UriTemplate.Yaml.Fault
import UriTemplate.Yaml.Graph

/-!
Merged entries of mappings.

A mapping takes over the entries of the mappings that its merge entries refer to.
They come before its own, so that those override them, and of several mappings
the last comes first.  Merging changes the graph: every mapping that takes part
has its merge entries replaced for good, and the mark of a value entry among its
keys becomes an ordinary string.
-/

namespace UriTemplate.Yaml.Graph

def isMerge (graph : Graph) (entry : Nat × Nat) : Bool :=
  graph.tag entry.1 == .merge

/-- The value of the first entry to be merged, and the other entries. -/
def takeMerge? (graph : Graph) (entries : List (Nat × Nat)) :
    Option (Nat × List (Nat × Nat)) :=
  let before := entries.takeWhile fun entry => !graph.isMerge entry
  match entries.drop before.length with
  | [] => none
  | (_, value) :: after => some (value, before ++ after)

/-- The mappings that are merged for a value: the value itself, or its items. -/
def mergeSources (graph : Graph) (value : Nat) : Except Fault (List Nat) :=
  match graph.content value with
  | .mapping _ => .ok [value]
  | .sequence items =>
      if items.all graph.isMapping then .ok items else .error .malformed
  | .scalar _ => .error .malformed

/-- Makes the key of an entry an ordinary string if it is the mark of a value entry. -/
def plainKey (graph : Graph) (entry : Nat × Nat) : Graph :=
  if graph.tag entry.1 = .value then graph.retag entry.1 .string else graph

/-- Puts merged entries before those of a mapping without entries to be merged. -/
def settle (merged : List (Nat × Nat)) (number : Nat) (graph : Graph) : Graph :=
  let entries := graph.entries number
  entries.foldl plainKey (graph.fill number (.mapping (merged ++ entries)))

/-- Merges what is left to be merged into a mapping, given what has been merged so far.  An entry
is taken away before the mappings it refers to are looked at, which may be this one. -/
def mergeRest : Nat → List (Nat × Nat) → Nat → Graph → Except Fault Graph
  | 0, merged, number, graph => .ok (graph.settle merged number)
  | limit + 1, merged, number, graph =>
      match graph.takeMerge? (graph.entries number) with
      | none => .ok (graph.settle merged number)
      | some (value, others) => do
          let graph := graph.fill number (.mapping others)
          let sources ← graph.mergeSources value
          let (added, graph) ← sources.foldlM
            (fun (added, graph) source => do
              let graph ← mergeRest limit [] source graph
              return (graph.entries source ++ added, graph))
            ([], graph)
          mergeRest limit (merged ++ added) number graph

/-- The number of entries to be merged, in all mappings together. -/
def mergeCount (graph : Graph) : Nat :=
  graph.nodes.foldl
    (fun count node =>
      match node.content with
      | .mapping entries => count + (entries.filter graph.isMerge).length
      | _ => count)
    0

/-- Merges what is to be merged into a mapping. -/
def merge (number : Nat) (graph : Graph) : Except Fault Graph :=
  mergeRest (graph.mergeCount + 1) [] number graph

end UriTemplate.Yaml.Graph
