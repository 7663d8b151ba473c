import NamedSignal.Yaml.Tag

/-!
The nodes of a document. An alias is no node of its own but leads to the
anchored one, so nodes are numbered and collections hold numbers; a collection
may hold itself.
-/
namespace NamedSignal.Yaml

/-- What a node is made of. -/
inductive Content where
  | scalar (text : Text)
  | sequence (items : List Nat)
  | mapping (entries : List (Nat × Nat))
  deriving Inhabited

structure Node where
  tag : Tag
  content : Content
  deriving Inhabited

/-- The nodes of a document by number, and its root unless it is empty. -/
structure Graph where
  nodes : Array Node
  root : Option Nat

namespace Graph

/-- The node with a number. -/
def node (graph : Graph) (number : Nat) : Node := graph.nodes[number]?.getD default

/-- Replace a node. -/
def replace (graph : Graph) (number : Nat) (node : Node) : Graph :=
  { graph with nodes := graph.nodes.setIfInBounds number node }

end Graph
end NamedSignal.Yaml
