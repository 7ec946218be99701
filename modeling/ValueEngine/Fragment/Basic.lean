import ValueEngine.Graph.Cost

/-!
# Fragments and their layout

A fragment is a group of graph nodes that go out as one job, in the order in
which they are executed. It names the fragments whose values it consumes, its
inputs, and the fragments that consume its values, its dependents. A layout is a
list of fragments together with the terminal fragments, the ones that the graph
as a whole waits for.

The whole graph counts as a fragment of its own, the root, with identifier zero:
it has no nodes, and its inputs are the terminal fragments. Every link is kept at
both of its ends, and whatever changes a link changes it at both.

Two fragments become one in two ways. `Layout.joinAfter` lets a fragment run the
nodes of another one after its own; this suits fragments with the same inputs.
`Layout.joinBefore` lets a fragment run the nodes of one of its inputs before its
own and consume what that input consumed; this suits an input without any other
dependent.
-/

set_option autoImplicit false

namespace ValueEngine

/-- The number that a fragment is known by; the root has number zero. -/
abbrev FragmentId := Nat

/-- The fragment that stands for the whole graph. -/
def FragmentId.root : FragmentId := 0

/-- A fragment is written as its number. -/
def FragmentId.text (fragment : FragmentId) : String := "#" ++ toString fragment

/-- A group of graph nodes that go out as one job. -/
structure Fragment where
  /-- The number of the fragment. -/
  id : FragmentId
  /-- The nodes in the order of their execution. -/
  nodes : List NodeId
  /-- The estimated cost of all nodes together. -/
  cost : Cost
  /-- The fragments whose values are consumed. -/
  inputs : SortedSet FragmentId := ∅
  /-- The fragments that consume the values, the root included. -/
  dependents : SortedSet FragmentId := ∅
deriving DecidableEq, Inhabited

namespace Fragment

/-- The number of nodes. -/
def items (fragment : Fragment) : Nat := fragment.nodes.length

/-- How many ticks a fragment runs in the simulation: its cost, and one tick
when it costs nothing. -/
def ticks (fragment : Fragment) : Nat := max fragment.cost.units 1

end Fragment

/-- The fragments of a graph, and the ones that the whole graph waits for. -/
structure Layout where
  /-- The fragments other than the root. -/
  fragments : List Fragment := []
  /-- The inputs of the root. -/
  terminals : SortedSet FragmentId := ∅
deriving DecidableEq, Inhabited

namespace Layout

/-- The number of fragments, not counting the root. -/
def size (layout : Layout) : Nat := layout.fragments.length

/-- The numbers of the fragments, not counting the root. -/
def ids (layout : Layout) : List FragmentId := layout.fragments.map Fragment.id

/-- The fragment that stands for the whole graph. -/
def root (layout : Layout) : Fragment where
  id := FragmentId.root
  nodes := []
  cost := Cost.ofNat 0
  inputs := layout.terminals

/-- The root followed by all other fragments. -/
def all (layout : Layout) : List Fragment := layout.root :: layout.fragments

/-- The fragment with a number, the root included. -/
def fragment? (layout : Layout) (id : FragmentId) : Option Fragment :=
  layout.all.find? fun fragment => fragment.id = id

/-- The fragments that consume the values of a fragment, the root included. -/
def dependents (layout : Layout) (id : FragmentId) : List FragmentId :=
  ((layout.fragment? id).map fun fragment => fragment.dependents.toList).getD []

/-- The fragments that consume no values. -/
def leaves (layout : Layout) : List Fragment :=
  layout.fragments.filter fun fragment => fragment.inputs.isEmpty

/-! ## Making one fragment of two -/

/-- Change every fragment but one, which is taken out. -/
def mapWithout (layout : Layout) (id : FragmentId) (change : Fragment → Fragment) : List Fragment :=
  (layout.fragments.filter fun fragment => fragment.id ≠ id).map change

end Layout

namespace Fragment

/-- What becomes of the links of a fragment when `guest` leaves and its dependents
turn to `host`, which has the same inputs. -/
def turnTo (fragment : Fragment) (host : FragmentId) (guest : Fragment) : Fragment :=
  { fragment with
    inputs :=
      if fragment.id ∈ guest.dependents then (fragment.inputs.erase guest.id).insert host
      else fragment.inputs
    dependents :=
      if fragment.id ∈ guest.inputs then fragment.dependents.erase guest.id
      else fragment.dependents }

/-- What becomes of a fragment when `host` runs the nodes of `guest` after its
own. -/
def onJoinAfter (host guest fragment : Fragment) : Fragment :=
  let turned := fragment.turnTo host.id guest
  if fragment.id = host.id then
    { turned with
      nodes := fragment.nodes ++ guest.nodes
      cost := fragment.cost + guest.cost
      dependents := turned.dependents.union guest.dependents }
  else turned

/-- What becomes of the links of a fragment when `guest` leaves and `host` consumes
what it consumed. -/
def feedTo (fragment : Fragment) (host : FragmentId) (guest : Fragment) : Fragment :=
  { fragment with
    dependents :=
      if fragment.id ∈ guest.inputs then (fragment.dependents.erase guest.id).insert host
      else fragment.dependents }

/-- What becomes of a fragment when `host` runs the nodes of `guest` before its
own. -/
def onJoinBefore (host guest fragment : Fragment) : Fragment :=
  let fed := fragment.feedTo host.id guest
  if fragment.id = host.id then
    { fed with
      nodes := guest.nodes ++ fragment.nodes
      cost := fragment.cost + guest.cost
      inputs := (fragment.inputs.erase guest.id).union guest.inputs }
  else fed

end Fragment

namespace Layout

/-- Let `host` run the nodes of `guest` after its own. Whatever consumed the
values of `guest` consumes those of `host` from now on. -/
def joinAfter (layout : Layout) (host guest : Fragment) : Layout where
  fragments := layout.mapWithout guest.id (Fragment.onJoinAfter host guest)
  terminals := (layout.root.turnTo host.id guest).inputs

/-- Let `host` run the nodes of `guest`, one of its inputs, before its own and
consume what `guest` consumed. -/
def joinBefore (layout : Layout) (host guest : Fragment) : Layout where
  fragments := layout.mapWithout guest.id (Fragment.onJoinBefore host guest)
  terminals := layout.terminals

/-- Whether the root waits for a fragment that another fragment consumes as
well. -/
def isAwaitedTwice (layout : Layout) (fragment : Fragment) : Bool :=
  decide (fragment.id ∈ layout.terminals) && decide (1 < fragment.dependents.size)

/-- What becomes of a fragment when the root waits for no fragment that is awaited
twice any more. -/
def release (layout : Layout) (fragment : Fragment) : Fragment :=
  if layout.isAwaitedTwice fragment then
    { fragment with dependents := fragment.dependents.erase FragmentId.root }
  else fragment

/-- The root does not wait for a fragment that another fragment consumes as
well: it waits for that other one. -/
def prune (layout : Layout) : Layout where
  fragments := layout.fragments.map layout.release
  terminals := layout.terminals.filter fun id =>
    !(layout.fragment? id).any layout.isAwaitedTwice

/-! ## The first layout of a graph -/

/-- The number of the fragment of a node when each node of an execution order
has one of its own, counted from one. -/
def idInOrder (order : List NodeId) (node : NodeId) : FragmentId := order.idxOf node + 1

/-- The fragment of a node when each node of an execution order has one of its
own. The root depends on the nodes that nothing else depends on. -/
def ofNode (graph : Graph) (cost : NodeId → Cost) (order : List NodeId) (node : NodeId) :
    Fragment where
  id := idInOrder order node
  nodes := [node]
  cost := cost node
  inputs := SortedSet.ofList ((graph.inputs node).map (idInOrder order))
  dependents := SortedSet.ofList <|
    if (graph.dependents node).isEmpty then [FragmentId.root]
    else (graph.dependents node).map (idInOrder order)

/-- One fragment for each node of an execution order, linked as the nodes are.
Fragments have higher numbers than their inputs. -/
def ofOrder (graph : Graph) (cost : NodeId → Cost) (order : List NodeId) : Layout where
  fragments := order.map (ofNode graph cost order)
  terminals := SortedSet.ofList (graph.roots.map (idInOrder order))

/-- All nodes of an execution order in one fragment. -/
def single (cost : NodeId → Cost) (order : List NodeId) : Layout where
  fragments :=
    [{ id := 1
       nodes := order
       cost := Cost.sum (order.map cost)
       dependents := SortedSet.ofList [FragmentId.root] }]
  terminals := SortedSet.ofList [1]

end Layout

end ValueEngine
