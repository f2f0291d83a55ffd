import UriTemplate.Yaml.Tag

/-!
The nodes of a YAML text.

Nodes are numbered in the order in which they start.  A collection refers to its
parts by their numbers, so a node may be a part of several collections, and even
of itself.
-/

namespace UriTemplate.Yaml

inductive Content where
  | scalar (text : Text)
  | sequence (items : List Nat)
  | mapping (entries : List (Nat × Nat))
deriving DecidableEq, Repr, Inhabited

structure Node where
  tag : Tag
  content : Content
deriving DecidableEq, Repr

structure Graph where
  nodes : Array Node

namespace Graph

def empty : Graph := ⟨#[]⟩

/-- The number of nodes, which is also the number of the node that is added next. -/
def size (graph : Graph) : Nat := graph.nodes.size

def add (node : Node) (graph : Graph) : Graph :=
  ⟨graph.nodes.push node⟩

def fill (number : Nat) (content : Content) (graph : Graph) : Graph :=
  ⟨graph.nodes.modify number fun node => { node with content := content }⟩

def retag (number : Nat) (tag : Tag) (graph : Graph) : Graph :=
  ⟨graph.nodes.modify number fun node => { node with tag := tag }⟩

def tag (graph : Graph) (number : Nat) : Tag :=
  (graph.nodes[number]?.map Node.tag).getD .unknown

def content (graph : Graph) (number : Nat) : Content :=
  (graph.nodes[number]?.map Node.content).getD (.scalar [])

def entries (graph : Graph) (number : Nat) : List (Nat × Nat) :=
  match graph.content number with
  | .mapping entries => entries
  | _ => []

def isMapping (graph : Graph) (number : Nat) : Bool :=
  graph.content number matches .mapping _

end Graph

end UriTemplate.Yaml
