import ValueEngine.Arena.Colouring
import ValueEngine.Arena.Merging
import ValueEngine.Graph.Order

/-!
# Splitting a graph in place

The fragments of a graph are put into slots in execution order, so that inputs have lower numbers
than their dependents, then merged and coloured in place (`Graph.build`). A graph with a cycle is
refused with the cycle. No result at all means that a lookup or a count has failed on the way, or
that a loop does not end.
-/

set_option autoImplicit false

namespace ValueEngine

namespace Graph

/-- The cost of the node at a position that has to be there. -/
def costAt (graph : Graph) (cost : Node → Cost) (position : NodeId) : Option Cost :=
  (graph.node? position).map cost

/-- All nodes of an execution order in one fragment. -/
def seed (graph : Graph) (cost : Node → Cost) (order : List NodeId) : Option Arena := do
  let costs ← order.mapM (graph.costAt cost)
  let (arena, fragment) := Arena.empty.insert order (Cost.sum costs)
  arena.link fragment FragmentId.root

/-- Let a fragment consume the fragment of a node. -/
def connect (known : SortedMap NodeId FragmentId) (dependent : FragmentId) (arena : Arena)
    (node : NodeId) : Option Arena := do
  let fragment ← known.get? node
  arena.link fragment dependent

/-- Put the next node of an execution order into a fragment of its own, and let this consume the
fragments of its inputs. -/
def fragmentizeNode (graph : Graph) (cost : Node → Cost)
    (state : Arena × SortedMap NodeId FragmentId) (node : NodeId) :
    Option (Arena × SortedMap NodeId FragmentId) := do
  let cost ← graph.costAt cost node
  let (arena, fragment) := state.1.insert [node] cost
  let known := state.2.insert node fragment
  let linked ← (graph.inputs node).foldlM (connect known fragment) arena
  return (linked, known)

/-- One fragment for each node, linked as the nodes are. -/
def fragmentize (graph : Graph) (cost : Node → Cost) (order : List NodeId) : Option Arena := do
  let (arena, known) ← order.foldlM (graph.fragmentizeNode cost) (Arena.empty, ∅)
  graph.roots.foldlM (connect known FragmentId.root) arena

/-- The merged fragments of a graph with a given execution order. -/
def arena (graph : Graph) (cost : Node → Cost) (sizing : Sizing) (order : List NodeId) :
    Option Arena :=
  if order.isEmpty then some Arena.empty
  else if graph.size ≤ sizing.minItems then graph.seed cost order
  else do
    let fragments ← graph.fragmentize cost order
    fragments.merge sizing 0

/-- The fragments of a graph with their colours, unless it has a cycle. -/
def build (graph : Graph) (cost : Node → Cost) (sizing : Sizing) :
    Option (Except Cycle (Arena × Colouring)) :=
  match graph.executionOrder with
  | .error cycle => some (.error cycle)
  | .ok order => do
    let arena ← graph.arena cost sizing order
    let colouring ← arena.assign sizing.maxConcurrency
    return .ok (arena, colouring)

end Graph

end ValueEngine
