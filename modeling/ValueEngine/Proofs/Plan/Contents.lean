import Mathlib.Algebra.GroupWithZero.Nat
import ValueEngine.Proofs.Arena.Building

/-!
# What the fragments of a plan contain

Merging concatenates lists of nodes and adds costs. Each single step leaves every fragment with
some nodes and with the sum of their costs (`Layout.Merge.priced`), and it keeps the layout sound:
every node is in one fragment, once, and none stands before an input of its own. So all of this
holds of the fragments of a plan, in whatever order they were merged (`Plan.exists_holdsAll`,
`Plan.exists_inputsFirst`).

Costs add up to at most a limit. The limit may be reached early or late, or more than once, but the
sum is always the lower of the limit and the exact sum (`Cost.units_sum`), so neither the order nor
the grouping of what is added matters.
-/

set_option autoImplicit false

namespace ValueEngine

open Relation

/-! ## Sums of costs -/

namespace Cost

/-- **A sum of costs is the exact sum, or the limit when this is lower.** -/
theorem units_sum (costs : List Cost) :
    (sum costs).units = min (costs.map units).sum greatestWord := by
  have from_start : ∀ start : Cost, (costs.foldl add start).units =
      min (start.units + (costs.map units).sum) greatestWord := by
    induction costs with
    | nil =>
      intro start
      exact (Nat.min_eq_left start.units_le).symm
    | cons first rest ih =>
      intro start
      have units_add : (add start first).units = min (start.units + first.units) greatestWord := rfl
      rw [List.foldl_cons, ih, units_add, List.map_cons, List.sum_cons]
      omega
  refine (from_start (ofNat 0)).trans ?_
  have nothing : (ofNat 0).units = 0 := Nat.zero_min _
  rw [nothing, Nat.zero_add]

theorem sum_append (first second : List Cost) : sum (first ++ second) = sum first + sum second := by
  apply ext_units
  rw [units_add, units_sum, units_sum, units_sum, List.map_append, List.sum_append]
  omega

theorem add_comm (first second : Cost) : first + second = second + first := by
  apply ext_units
  rw [units_add, units_add, Nat.add_comm]

theorem sum_singleton (cost : Cost) : sum [cost] = cost := by
  apply ext_units
  rw [units_sum, List.map_singleton, List.sum_singleton]
  exact Nat.min_eq_left cost.units_le

end Cost

/-! ## Costs of fragments -/

namespace Fragment

variable {fragment host guest : Fragment} {cost : NodeId → Cost}

/-- A fragment has nodes, and costs what they cost. -/
structure Priced (fragment : Fragment) (cost : NodeId → Cost) : Prop where
  nodes_ne_nil : fragment.nodes ≠ []
  cost_eq : fragment.cost = Cost.sum (fragment.nodes.map cost)

theorem Priced.onJoinAfter (priced : fragment.Priced cost) (guestPriced : guest.Priced cost) :
    (Fragment.onJoinAfter host guest fragment).Priced cost := by
  unfold Fragment.onJoinAfter
  split
  case isTrue =>
    refine ⟨List.append_ne_nil_of_left_ne_nil priced.nodes_ne_nil _, ?_⟩
    rw [List.map_append, Cost.sum_append, priced.cost_eq, guestPriced.cost_eq]
  case isFalse => exact ⟨priced.nodes_ne_nil, priced.cost_eq⟩

theorem Priced.onJoinBefore (priced : fragment.Priced cost) (guestPriced : guest.Priced cost) :
    (Fragment.onJoinBefore host guest fragment).Priced cost := by
  unfold Fragment.onJoinBefore
  split
  case isTrue =>
    refine ⟨List.append_ne_nil_of_left_ne_nil guestPriced.nodes_ne_nil _, ?_⟩
    rw [List.map_append, Cost.sum_append, priced.cost_eq, guestPriced.cost_eq, Cost.add_comm]
  case isFalse => exact ⟨priced.nodes_ne_nil, priced.cost_eq⟩

end Fragment

namespace Layout

variable {layout later : Layout} {sizing : Sizing} {graph : Graph} {cost : NodeId → Cost}

/-- All fragments have nodes and cost what they cost. -/
def Priced (layout : Layout) (cost : NodeId → Cost) : Prop :=
  ∀ fragment ∈ layout.fragments, fragment.Priced cost

/-- **A step of merging moves nodes together with what they cost.** -/
theorem Merge.priced (merge : Merge sizing layout later) (priced : layout.Priced cost) :
    later.Priced cost := by
  intro fragment member
  cases merge with
  | @alike host guest _ guestMember =>
    obtain ⟨old, kept, rfl⟩ := List.mem_map.mp member
    exact (priced old (List.mem_of_mem_filter kept)).onJoinAfter (priced guest guestMember)
  | @chain host guest _ guestMember =>
    obtain ⟨old, kept, rfl⟩ := List.mem_map.mp member
    exact (priced old (List.mem_of_mem_filter kept)).onJoinBefore (priced guest guestMember)
  | prune =>
    obtain ⟨old, kept, rfl⟩ := mem_prune.mp member
    unfold release
    split
    · exact ⟨(priced old kept).nodes_ne_nil, (priced old kept).cost_eq⟩
    · exact priced old kept

theorem Priced.merges (priced : layout.Priced cost)
    (merges : ReflTransGen (Merge sizing) layout later) : later.Priced cost := by
  induction merges with
  | refl => exact priced
  | tail _ merge ih => exact merge.priced ih

theorem priced_ofOrder (graph : Graph) (cost : NodeId → Cost) (order : List NodeId) :
    (ofOrder graph cost order).Priced cost := by
  intro fragment member
  obtain ⟨node, _, rfl⟩ := mem_ofOrder.mp member
  exact ⟨List.cons_ne_nil node [], (Cost.sum_singleton (cost node)).symm⟩

theorem priced_single (cost : NodeId → Cost) {order : List NodeId} (some : order ≠ []) :
    (single cost order).Priced cost := by
  intro fragment member
  rw [List.mem_singleton.mp member]
  exact ⟨some, rfl⟩

/-! ## Contents of settled layouts -/

/-- The fragments of a layout have all nodes of a graph. -/
structure HoldsAll (layout : Layout) (graph : Graph) (cost : NodeId → Cost) : Prop where
  /-- Every node is in one fragment, once, and in no other one. -/
  exists_holder : ∀ node ∈ graph.nodeIds, ∃ fragment ∈ layout.fragments,
    fragment.nodes.count node = 1 ∧
      ∀ other ∈ layout.fragments, node ∈ other.nodes → other = fragment
  /-- Fragments have nodes of the graph only. -/
  nodes_mem : ∀ fragment ∈ layout.fragments, ∀ node ∈ fragment.nodes, node ∈ graph.nodeIds
  /-- All fragments but the root have some. -/
  nodes_ne_nil : ∀ fragment ∈ layout.fragments, fragment.nodes ≠ []
  /-- The root has none. -/
  root_nodes : layout.root.nodes = []
  /-- A fragment costs what its nodes cost together, at most the limit. -/
  units_eq : ∀ fragment ∈ layout.all,
    fragment.cost.units = min (fragment.nodes.map fun node => (cost node).units).sum greatestWord

/-- **A sound layout whose fragments cost what their nodes do holds all nodes**, each once. -/
theorem Sound.holdsAll (sound : layout.Sound graph) (priced : layout.Priced cost) :
    layout.HoldsAll graph cost where
  exists_holder := by
    intro node inside
    obtain ⟨fragment, member, holds⟩ := sound.exists_fragment inside
    have once := List.count_eq_one_of_mem (sound.fragment_nodup member) holds
    refine ⟨fragment, member, once, fun other otherMember also => ?_⟩
    exact sound.eq_of_mem_nodes otherMember member also holds
  nodes_mem _ member _ := sound.mem_nodeIds member
  nodes_ne_nil fragment member := (priced fragment member).nodes_ne_nil
  root_nodes := rfl
  units_eq := by
    intro fragment member
    rcases List.mem_cons.mp member with rfl | member
    · rfl
    · rw [(priced fragment member).cost_eq, Cost.units_sum, List.map_map]
      rfl

/-- In every fragment the nodes come after their inputs in the same fragment. -/
def InputsFirst (layout : Layout) (graph : Graph) : Prop :=
  ∀ fragment ∈ layout.fragments, ∀ before node after, fragment.nodes = before ++ node :: after →
    ∀ input ∈ graph.inputs node, input ∈ fragment.nodes → input ∈ before

/-- **The fragments of a sound layout have inputs first.** -/
theorem Sound.inputsFirst (sound : layout.Sound graph) (acyclic : graph.Acyclic) :
    layout.InputsFirst graph := by
  intro fragment member before node after split input consumes inside
  exact sound.mem_before acyclic member split consumes inside

end Layout

/-! ## Plans -/

/-- The merged fragments of a graph cost what their nodes do. -/
theorem Graph.IsOrder.priced_layout {graph : Graph} {order : List NodeId}
    (isOrder : graph.IsOrder order) (acyclic : graph.Acyclic) (cost : Node → Cost)
    (sizing : Sizing) : (graph.layout cost sizing order).Priced (graph.nodeCost cost) := by
  unfold Graph.layout
  split
  case isTrue => exact fun fragment member => absurd member List.not_mem_nil
  case isFalse some =>
    split
    case isTrue =>
      exact Layout.priced_single _ fun empty => some (List.isEmpty_iff.mpr empty)
    case isFalse =>
      have settled : (Layout.ofOrder graph (graph.nodeCost cost) order).Settled graph :=
        Layout.settled_ofOrder isOrder acyclic
      have start := Layout.priced_ofOrder graph (graph.nodeCost cost) order
      exact start.merges (settled.mergeAll sizing).1.merges

/-- The fragments of the plan of an acyclic graph cost what their nodes do. -/
theorem Graph.Acyclic.exists_priced {graph : Graph} (acyclic : graph.Acyclic) (cost : Node → Cost)
    (sizing : Sizing) :
    ∃ plan, Plan.ofGraph graph cost sizing = .ok plan ∧ plan.layout.Settled graph ∧
      plan.layout.Priced (graph.nodeCost cost) := by
  obtain ⟨order, found, isOrder⟩ := acyclic.exists_executionOrder
  obtain ⟨plan, planned, settled⟩ := acyclic.exists_plan cost sizing
  refine ⟨plan, planned, settled, ?_⟩
  rw [Plan.ofGraph, found] at planned
  cases planned
  exact isOrder.priced_layout acyclic cost sizing

namespace Plan

variable {graph : Graph}

/-- **Every node of an acyclic graph is in one fragment of its plan, once**, and every fragment
costs what its nodes cost together. The slots that the fragments are merged in have the same
fragments, and the count that is kept of them is their number. -/
theorem exists_holdsAll (acyclic : graph.Acyclic) (cost : Node → Cost) (sizing : Sizing) :
    ∃ plan, ofGraph graph cost sizing = .ok plan ∧
      plan.layout.HoldsAll graph (graph.nodeCost cost) ∧
        ∃ arena, graph.build cost sizing = some (.ok (arena, plan.colouring)) ∧
          arena.fragments = plan.layout.fragments ∧
            arena.fragment? FragmentId.root = some plan.layout.root ∧
              arena.live = plan.layout.fragments.length := by
  obtain ⟨plan, planned, settled, priced⟩ := acyclic.exists_priced cost sizing
  obtain ⟨arena, built, holds⟩ := Graph.build_of_ok planned
  refine ⟨plan, planned, settled.holdsAll priced, arena, built, holds.fragments_eq, ?_,
    holds.live_eq⟩
  rw [holds.fragment?_eq]
  exact settled.fragment?_eq Layout.root_mem_all

theorem exists_holdsAll_diamond :
    Graph.diamond.Acyclic ∧
      ∃ plan, ofGraph Graph.diamond (fun _ => Cost.ofNat greatestWord) {} = .ok plan ∧
        plan.layout.HoldsAll Graph.diamond
            (Graph.diamond.nodeCost fun _ => Cost.ofNat greatestWord) ∧
          ∃ arena, Graph.diamond.build (fun _ => Cost.ofNat greatestWord) {} =
              some (.ok (arena, plan.colouring)) ∧
            arena.fragments = plan.layout.fragments ∧
              arena.fragment? FragmentId.root = some plan.layout.root ∧
                arena.live = plan.layout.fragments.length :=
  ⟨Graph.diamond_acyclic, exists_holdsAll Graph.diamond_acyclic _ {}⟩

/-- **In every fragment of the plan of an acyclic graph nodes come after their inputs.** This does
not depend on what is merged when: it is so after any steps of merging from one fragment for each
node. -/
theorem exists_inputsFirst (acyclic : graph.Acyclic) (cost : Node → Cost) (sizing : Sizing) :
    (∃ plan, ofGraph graph cost sizing = .ok plan ∧ plan.layout.InputsFirst graph ∧
      ∃ arena, graph.build cost sizing = some (.ok (arena, plan.colouring)) ∧
        arena.fragments = plan.layout.fragments) ∧
      ∀ order, graph.IsOrder order → ∀ layout,
        ReflTransGen (Layout.Merge sizing) (Layout.ofOrder graph (graph.nodeCost cost) order)
          layout → layout.InputsFirst graph := by
  constructor
  · obtain ⟨plan, planned, settled⟩ := acyclic.exists_plan cost sizing
    obtain ⟨arena, built, holds⟩ := Graph.build_of_ok planned
    exact ⟨plan, planned, settled.inputsFirst acyclic, arena, built, holds.fragments_eq⟩
  · intro order isOrder layout merges
    exact ((Layout.sound_ofOrder isOrder acyclic).merges merges).inputsFirst acyclic

theorem exists_inputsFirst_diamond :
    Graph.diamond.Acyclic ∧
      (∃ plan, ofGraph Graph.diamond (fun _ => Cost.ofNat 1) {} = .ok plan ∧
        plan.layout.InputsFirst Graph.diamond ∧
          ∃ arena, Graph.diamond.build (fun _ => Cost.ofNat 1) {} =
              some (.ok (arena, plan.colouring)) ∧
            arena.fragments = plan.layout.fragments) ∧
        ∀ order, Graph.diamond.IsOrder order → ∀ layout,
          ReflTransGen (Layout.Merge {})
              (Layout.ofOrder Graph.diamond (Graph.diamond.nodeCost fun _ => Cost.ofNat 1) order)
              layout → layout.InputsFirst Graph.diamond :=
  ⟨Graph.diamond_acyclic, exists_inputsFirst Graph.diamond_acyclic _ {}⟩

end Plan

end ValueEngine
