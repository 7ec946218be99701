import ValueEngine.Graph.Order
import ValueEngine.Fragment.Merging
import ValueEngine.Fragment.Colouring

/-!
# Plans

A plan splits a graph into the fragments that go out as jobs and colours them
(`Plan.ofGraph`). A graph that has no more nodes than a job should have at least
goes out as one fragment; any other starts from one fragment for each node, and
these are merged. A graph with a cycle has no plan.
-/

set_option autoImplicit false

namespace ValueEngine

/-- A graph split into coloured fragments. -/
structure Plan where
  /-- The fragments. -/
  layout : Layout
  /-- Their colours and tails. -/
  colouring : Colouring
deriving DecidableEq, Inhabited

/-- The cost of the node at a position of a graph. -/
def Graph.nodeCost (graph : Graph) (cost : Node → Cost) (position : NodeId) : Cost :=
  ((graph.node? position).map cost).getD (Cost.ofNat 0)

/-- The merged fragments of a graph with a given execution order. -/
def Graph.layout (graph : Graph) (cost : Node → Cost) (sizing : Sizing)
    (order : List NodeId) : Layout :=
  if order.isEmpty then {}
  else if graph.size ≤ sizing.minItems then Layout.single (graph.nodeCost cost) order
  else (Layout.ofOrder graph (graph.nodeCost cost) order).mergeAll sizing

namespace Plan

/-- The plan for a graph, unless it has a cycle. -/
def ofGraph (graph : Graph) (cost : Node → Cost) (sizing : Sizing) : Except Cycle Plan :=
  graph.executionOrder.map fun order =>
    let layout := graph.layout cost sizing order
    { layout, colouring := layout.colouring sizing.maxConcurrency }

/-- The number of fragments, not counting the root. -/
def size (plan : Plan) : Nat := plan.layout.size

/-- Whether there are no fragments. -/
def isEmpty (plan : Plan) : Bool := plan.layout.fragments.isEmpty

/-- The number of colours in use. -/
def colourCount (plan : Plan) : Nat :=
  (SortedSet.ofList (plan.layout.ids.map plan.colouring.colour)).size

/-- The mean number of nodes of a fragment. -/
def meanSize (plan : Plan) : Float :=
  if plan.isEmpty then 0
  else
    let items := (plan.layout.fragments.map Fragment.items).foldl (· + ·) 0
    items.toUInt64.toFloat / plan.size.toUInt64.toFloat

/-- The mean cost of a fragment; the costs are added as floating point numbers
in the order of the fragments. -/
def meanCost (plan : Plan) : Float :=
  if plan.isEmpty then 0
  else
    let costs := plan.layout.fragments.map fun fragment => fragment.cost.units.toUInt64.toFloat
    costs.foldl (· + ·) 0 / plan.size.toUInt64.toFloat

/-- The text of a fragment: number, size, cost and colour, and its tails when it
has some. -/
def fragmentText (plan : Plan) (fragment : Fragment) : String :=
  let tails := plan.colouring.tailsOf fragment.id
  let tailsText :=
    if tails.isEmpty then "" else " tails [" ++ ", ".intercalate (tails.map FragmentId.text) ++ "]"
  FragmentId.text fragment.id ++ " (" ++ toString fragment.items ++ " items, cost " ++
    toString fragment.cost.units ++ ", colour " ++
    toString (plan.colouring.colour fragment.id) ++ ")" ++ tailsText

end Plan

end ValueEngine
