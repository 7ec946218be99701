import ValueEngine.Graph.Basic

/-!
# Execution orders

An execution order lists every node of a graph after all of its inputs. It is
found by a traversal along the dependents that lists a node when everything
reachable from it has been listed; the list is built from its end
(`Graph.traverse`).

A graph has no such order when it has a cycle. A node that depends on itself is
reported as soon as the traversal comes to it. Any longer cycle shows when the
finished list is checked: the first node that has an input neither before it nor
itself stands on or after a cycle, and the last such input in neighbour order is
reported (`Graph.firstUnmet`).
-/

set_option autoImplicit false

namespace ValueEngine

/-- A graph with a cycle has no execution order; the cycle was found at this
node. -/
structure Cycle where
  /-- The node the cycle was found at. -/
  node : NodeId
deriving DecidableEq

/-- The cycle as it is reported. -/
def Cycle.message (cycle : Cycle) : String :=
  "Cycle detected in dependency graph at node NodeIndex(" ++ toString cycle.node ++ ")"

namespace Graph

/-- Traverse a graph from the nodes on a stack, its top first. A node that is
still `fresh` sends its fresh dependents onto the stack, the last one to the
top. A node met again is put in front of the `order` of finished nodes, unless
it already stands there. -/
def traverse (graph : Graph) (fresh stack order : List NodeId) : Except Cycle (List NodeId) :=
  match stack with
  | [] => .ok order
  | top :: below =>
    if _ : top ∈ fresh then
      if top ∈ graph.dependents top then .error ⟨top⟩
      else
        let remaining := fresh.erase top
        let next := (graph.dependents top).filter (· ∈ remaining)
        graph.traverse remaining (next.reverse ++ top :: below) order
    else
      graph.traverse fresh below (if top ∈ order then order else top :: order)
termination_by (fresh.length, stack.length)
decreasing_by
  · apply Prod.Lex.left
    have := List.length_pos_of_mem ‹top ∈ fresh›
    rw [List.length_erase_of_mem ‹top ∈ fresh›]
    omega
  · apply Prod.Lex.right
    simp

/-- In a list of nodes, the first node with an input that is neither itself nor
one of the nodes before it gives the last such input in neighbour order. -/
def firstUnmet (graph : Graph) (before : List NodeId) : List NodeId → Option NodeId
  | [] => none
  | node :: rest =>
    match ((graph.inputs node).filter (· ∉ node :: before)).getLast? with
    | some input => some input
    | none => graph.firstUnmet (node :: before) rest

/-- All nodes, each after its inputs, unless there is a cycle. -/
def executionOrder (graph : Graph) : Except Cycle (List NodeId) := do
  let order ← graph.traverse graph.nodeIds graph.nodeIds []
  match graph.firstUnmet [] order with
  | some node => .error ⟨node⟩
  | none => .ok order

end Graph

end ValueEngine
