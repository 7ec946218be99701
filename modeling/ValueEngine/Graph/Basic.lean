import ValueEngine.Data.SortedSet
import ValueEngine.Text.Quoted
import ValueEngine.Value.Requirement

/-!
# Dependency graphs

A node is one application of a function to a target. An edge runs from the node
that produces a value to a node that consumes it, so edges point in the
direction of execution.

The edges are kept with the latest first, and an edge that is added again stays
where it was. `Graph.inputs` and `Graph.dependents` list the neighbours of a
node in that order, and every traversal follows it.
-/

set_option autoImplicit false

namespace ValueEngine

/-- The position of a node in its graph. -/
abbrev NodeId := Nat

/-- One application of a function to a target. -/
structure Node where
  /-- The function that is applied. -/
  function : FunctionCall
  /-- The object it is applied to. -/
  target : Target
  /-- The values it consumes. -/
  inputs : SortedSet Specification := ∅
  /-- The values it produces. -/
  outputs : SortedSet Specification := ∅
deriving DecidableEq, Inhabited

/-- The text of a node. -/
def Node.text (node : Node) : String := node.function.text ++ " on " ++ node.target

/-- The dependent node consumes a value that the input node produces. -/
structure Edge where
  /-- The node that produces. -/
  input : NodeId
  /-- The node that consumes. -/
  dependent : NodeId
deriving DecidableEq

/-- Nodes, and the edges between them. -/
structure Graph where
  /-- The calculation configuration the graph was built for. -/
  configuration : String
  /-- The nodes by position. -/
  nodes : List Node := []
  /-- The edges, the latest first. -/
  edges : List Edge := []
  /-- Both ends of every edge are nodes of the graph. -/
  edges_inRange : ∀ edge ∈ edges, edge.input < nodes.length ∧ edge.dependent < nodes.length := by
    exact fun _ member => absurd member List.not_mem_nil
  /-- No edge is repeated. -/
  edges_nodup : edges.Nodup := by exact List.nodup_nil

namespace Graph

/-- The number of nodes. -/
def size (graph : Graph) : Nat := graph.nodes.length

/-- Whether there are no nodes. -/
def isEmpty (graph : Graph) : Bool := graph.nodes.isEmpty

/-- The positions of all nodes in ascending order. -/
def nodeIds (graph : Graph) : List NodeId := List.range graph.size

/-- The node at a position. -/
def node? (graph : Graph) (position : NodeId) : Option Node := graph.nodes[position]?

/-- Whether there is a node at a position. -/
def contains (graph : Graph) (position : NodeId) : Bool := decide (position < graph.size)

/-- Add a node, at the next position. -/
def addNode (graph : Graph) (node : Node) : Graph where
  configuration := graph.configuration
  nodes := graph.nodes ++ [node]
  edges := graph.edges
  edges_inRange edge member := by
    have old := graph.edges_inRange edge member
    rw [List.length_append]
    exact ⟨Nat.lt_add_right _ old.1, Nat.lt_add_right _ old.2⟩
  edges_nodup := graph.edges_nodup

/-- Add an edge between two nodes of the graph; an edge that is already there
keeps its place. -/
def addEdge? (graph : Graph) (edge : Edge) : Option Graph :=
  if inRange : edge.input < graph.nodes.length ∧ edge.dependent < graph.nodes.length then
    if known : edge ∈ graph.edges then some graph
    else some
      { configuration := graph.configuration
        nodes := graph.nodes
        edges := edge :: graph.edges
        edges_inRange := by
          intro other member
          rcases List.mem_cons.1 member with equal | old
          · exact equal ▸ inRange
          · exact graph.edges_inRange other old
        edges_nodup := List.nodup_cons.2 ⟨known, graph.edges_nodup⟩ }
  else none

/-- A graph with the given nodes and edges, unless an edge has an end that is
no node. -/
def ofLists? (configuration : String) (nodes : List Node) (edges : List Edge) : Option Graph :=
  edges.foldlM addEdge?
    { configuration
      nodes
      edges_inRange := fun _ member => absurd member List.not_mem_nil }

/-- The nodes whose values a node consumes, the latest edge first. -/
def inputs (graph : Graph) (node : NodeId) : List NodeId :=
  (graph.edges.filter fun edge => edge.dependent = node).map Edge.input

/-- The nodes that consume the value of a node, the latest edge first. -/
def dependents (graph : Graph) (node : NodeId) : List NodeId :=
  (graph.edges.filter fun edge => edge.input = node).map Edge.dependent

/-- The text by which a graph shows itself: its configuration and its size. -/
def summary (graph : Graph) : String :=
  "DependencyGraph \x7b calc_config: " ++ Text.quote graph.configuration ++ ", size: " ++
    toString graph.size ++ " \x7d"

/-- The nodes that nothing depends on, in ascending order. -/
def roots (graph : Graph) : List NodeId :=
  graph.nodeIds.filter fun node => (graph.dependents node).isEmpty

theorem mem_inputs {graph : Graph} {input node : NodeId} :
    input ∈ graph.inputs node ↔ ⟨input, node⟩ ∈ graph.edges := by
  simp only [inputs, List.mem_map, List.mem_filter, decide_eq_true_eq]
  constructor
  · rintro ⟨edge, ⟨member, rfl⟩, rfl⟩
    exact member
  · exact fun member => ⟨_, ⟨member, rfl⟩, rfl⟩

theorem mem_dependents {graph : Graph} {node dependent : NodeId} :
    dependent ∈ graph.dependents node ↔ ⟨node, dependent⟩ ∈ graph.edges := by
  simp only [dependents, List.mem_map, List.mem_filter, decide_eq_true_eq]
  constructor
  · rintro ⟨edge, ⟨member, rfl⟩, rfl⟩
    exact member
  · exact fun member => ⟨_, ⟨member, rfl⟩, rfl⟩

/-- A node is an input of another exactly if the other depends on it. -/
theorem mem_inputs_iff_mem_dependents {graph : Graph} {input node : NodeId} :
    input ∈ graph.inputs node ↔ node ∈ graph.dependents input :=
  mem_inputs.trans mem_dependents.symm

theorem mem_nodeIds {graph : Graph} {node : NodeId} : node ∈ graph.nodeIds ↔ node < graph.size :=
  List.mem_range

end Graph

end ValueEngine
