import ValueEngine.Proofs.Plan.Cycles

/-!
# What merging leaves apart

Undersized fragments with the same inputs are to be merged as long as two of them fit together
(`Fragment.Mergeable`). A scan compares each of them with one other only: of those that came before,
the cheapest. When this one has too many nodes to fit, the scan goes on, although a dearer one with
fewer nodes may fit. So merging can end with a pair that could still be merged
(`Plan.leftovers_fan`).

This is the only way in which it happens: a pair that is left has a third fragment in between, which
costs no more than the earlier of the two but has more nodes, too many for the later
(`Plan.exists_blocking`). There is no such fragment when the whole graph is within the bound on
nodes, or when all nodes cost the same.
-/

set_option autoImplicit false

namespace ValueEngine

namespace Fragment

/-- Two undersized fragments that consume the same values fit together. -/
def Mergeable (sizing : Sizing) (first second : Fragment) : Prop :=
  first.inputs = second.inputs ∧ first.isCandidate sizing = true ∧
    second.isCandidate sizing = true ∧ first.mayJoin sizing second = true

instance (sizing : Sizing) (first second : Fragment) : Decidable (Mergeable sizing first second) :=
  inferInstanceAs (Decidable (_ ∧ _ ∧ _ ∧ _))

theorem Mergeable.symm {sizing : Sizing} {first second : Fragment}
    (mergeable : Mergeable sizing first second) : Mergeable sizing second first := by
  obtain ⟨same, firstCandidate, secondCandidate, fits⟩ := mergeable
  exact ⟨same.symm, secondCandidate, firstCandidate, (mayJoin_comm sizing second first).trans fits⟩

/-- A third undersized fragment with the same inputs keeps two others apart: it is preferred to the
first one by its cost, and has too many nodes for the second. -/
structure Blocks (sizing : Sizing) (third first second : Fragment) : Prop where
  candidate : third.isCandidate sizing = true
  inputs_eq : third.inputs = second.inputs
  units_le : third.cost.units ≤ first.cost.units
  items_lt : first.items < third.items
  maxItems_lt : sizing.maxItems < third.items + second.items

end Fragment

namespace Layout

variable {layout : Layout} {graph : Graph} {sizing : Sizing}

/-- No two fragments can be merged any more. -/
def AlikeMerged (layout : Layout) (sizing : Sizing) : Prop :=
  ∀ first ∈ layout.fragments, ∀ second ∈ layout.fragments, first.id ≠ second.id →
    ¬ Fragment.Mergeable sizing first second

/-- Every pair that can still be merged is kept apart by a fragment before the later of the two. -/
def Blocked (layout : Layout) (sizing : Sizing) : Prop :=
  ∀ first ∈ layout.fragments, ∀ second ∈ layout.fragments, first.id < second.id →
    Fragment.Mergeable sizing first second →
      ∃ third ∈ layout.fragments, third.id < second.id ∧ third.Blocks sizing first second

/-- **When a scan finds no pair, every pair that could be merged is kept apart by a third
fragment.** -/
theorem blocked_of_pairs_eq_nil (unpaired : layout.pairs sizing = [])
    (ascending : layout.fragments.Pairwise fun first second => first.id < second.id) :
    layout.Blocked sizing := by
  intro first firstMember second secondMember below mergeable
  obtain ⟨same, firstCandidate, secondCandidate, fits⟩ := mergeable
  obtain ⟨before, after, split⟩ := List.append_of_mem secondMember
  rw [split, List.pairwise_append] at ascending
  have early : first ∈ before := by
    rw [split] at firstMember
    rcases List.mem_append.mp firstMember with early | late
    · exact early
    · rcases List.mem_cons.mp late with rfl | late
      · exact absurd below (Nat.lt_irrefl _)
      · have above := (List.pairwise_cons.mp ascending.2.1).1 first late
        exact absurd below (Nat.lt_asymm above)
  obtain ⟨third, member, candidate, alike, cheaper, more, tooMany⟩ :=
    exists_heavier unpaired split early firstCandidate secondCandidate same fits
  refine ⟨third, ?_, ascending.2.2 third member second List.mem_cons_self,
    candidate, alike, cheaper, more, tooMany⟩
  rw [split]
  exact List.mem_append_left _ member

/-- What is left apart in such a layout has a third fragment that blocks it. -/
theorem Blocked.alikeMerged (blocked : layout.Blocked sizing)
    (free : ∀ first ∈ layout.fragments, ∀ second ∈ layout.fragments, ∀ third ∈ layout.fragments,
      third.id < second.id → ¬ third.Blocks sizing first second) : layout.AlikeMerged sizing := by
  intro first firstMember second secondMember differ mergeable
  rcases Nat.lt_or_gt_of_ne differ with below | above
  · obtain ⟨third, member, before, blocks⟩ :=
      blocked first firstMember second secondMember below mergeable
    exact free first firstMember second secondMember third member before blocks
  · obtain ⟨third, member, before, blocks⟩ :=
      blocked second secondMember first firstMember above mergeable.symm
    exact free second secondMember first firstMember third member before blocks

/-- Two fragments together have at most all nodes. -/
theorem Sound.items_add_le (sound : layout.Sound graph) {first second : Fragment}
    (firstMember : first ∈ layout.fragments) (secondMember : second ∈ layout.fragments)
    (differ : first ≠ second) : first.items + second.items ≤ graph.size := by
  have together : (first.nodes ++ second.nodes).Nodup := by
    refine List.nodup_append.mpr
      ⟨sound.fragment_nodup firstMember, sound.fragment_nodup secondMember, ?_⟩
    rintro node inFirst _ inSecond rfl
    exact differ (sound.eq_of_mem_nodes firstMember secondMember inFirst inSecond)
  have inside : first.nodes ++ second.nodes ⊆ graph.nodeIds := by
    intro node member
    rcases List.mem_append.mp member with inFirst | inSecond
    · exact sound.mem_nodeIds firstMember inFirst
    · exact sound.mem_nodeIds secondMember inSecond
  calc first.items + second.items
    _ = (first.nodes ++ second.nodes).length := List.length_append.symm
    _ ≤ graph.nodeIds.length := (together.subperm inside).length_le
    _ = graph.size := List.length_range

/-- Nothing is blocked when the whole graph is within the bound on nodes. -/
theorem Blocked.alikeMerged_of_size_le (blocked : layout.Blocked sizing)
    (sound : layout.Sound graph) (within : graph.size ≤ sizing.maxItems) :
    layout.AlikeMerged sizing := by
  refine blocked.alikeMerged fun first _ second secondMember third member before blocks => ?_
  have differ : third ≠ second := fun same => Nat.lt_irrefl _ (same ▸ before)
  have bounded := sound.items_add_le member secondMember differ
  exact Nat.not_lt_of_le (Nat.le_trans bounded within) blocks.maxItems_lt

/-- Nothing is blocked when all nodes cost the same, since more nodes cost more then. -/
theorem Blocked.alikeMerged_of_uniform {cost : NodeId → Cost} (blocked : layout.Blocked sizing)
    (holdsAll : layout.HoldsAll graph cost) (sound : layout.Sound graph) {units : Nat}
    (positive : 0 < units) (within : graph.size * units ≤ greatestWord)
    (uniform : ∀ node ∈ graph.nodeIds, (cost node).units = units) : layout.AlikeMerged sizing := by
  have units_eq : ∀ fragment ∈ layout.fragments, fragment.cost.units = fragment.items * units := by
    intro fragment member
    have costs : fragment.nodes.map (fun node => (cost node).units) =
        List.replicate fragment.items units := by
      refine List.eq_replicate_iff.mpr ⟨List.length_map _, fun number listed => ?_⟩
      obtain ⟨node, inside, rfl⟩ := List.mem_map.mp listed
      exact uniform node (holdsAll.nodes_mem fragment member node inside)
    have bounded : fragment.items ≤ graph.size := by
      calc fragment.items
        _ ≤ graph.nodeIds.length :=
          ((sound.fragment_nodup member).subperm (holdsAll.nodes_mem fragment member)).length_le
        _ = graph.size := List.length_range
    rw [holdsAll.units_eq fragment (mem_all_of_mem member), costs, List.sum_replicate_nat]
    exact Nat.min_eq_left (Nat.le_trans (Nat.mul_le_mul_right units bounded) within)
  refine blocked.alikeMerged fun first firstMember second _ third member _ blocks => ?_
  have cheaper := blocks.units_le
  rw [units_eq first firstMember, units_eq third member] at cheaper
  exact Nat.not_lt_of_le (Nat.le_of_mul_le_mul_right cheaper positive) blocks.items_lt

end Layout

/-- A scan of the merged fragments of a graph finds no pair. -/
theorem Graph.IsOrder.pairs_layout {graph : Graph} {order : List NodeId}
    (isOrder : graph.IsOrder order) (acyclic : graph.Acyclic) (cost : Node → Cost)
    (sizing : Sizing) : (graph.layout cost sizing order).pairs sizing = [] := by
  unfold Graph.layout
  split
  case isTrue => rfl
  case isFalse =>
    split
    case isTrue => rfl
    case isFalse =>
      have settled : (Layout.ofOrder graph (graph.nodeCost cost) order).Settled graph :=
        Layout.settled_ofOrder isOrder acyclic
      exact (settled.mergeAll sizing).2.pairs_eq

namespace Plan

variable {graph : Graph}

/-- Three nodes consume the value of a source: a heavy one, a heavy one with another heavy input,
and a light one with another light input and a light dependent. -/
def fan : Graph where
  configuration := "fan"
  nodes := ["source", "heavy", "heavy", "heavy", "light", "light", "light"].map fun function =>
    { (default : Node) with function := { (default : FunctionCall) with id := function } }
  edges := [⟨4, 6⟩, ⟨5, 4⟩, ⟨0, 4⟩, ⟨3, 2⟩, ⟨0, 2⟩, ⟨0, 1⟩]
  edges_inRange := by decide
  edges_nodup := by decide

theorem fan_acyclic : fan.Acyclic :=
  Graph.acyclic_of_rank (fun node => [0, 3, 3, 0, 3, 0, 4].getD node 0) (by decide)

/-- Light nodes cost nothing. -/
def fanCosts : CostTable := CostTable.set {} "light" (Cost.ofNat 0)

/-- No fragment is dear enough, and at most three nodes go together. -/
def fanSizing : Sizing := { maxItems := 3, minCost := 5 }

/-- **Two fragments of a plan that could still be merged are kept apart by a third one.** There are
none when the whole graph is within the bound on nodes, or when all nodes cost the same. -/
theorem exists_blocking (acyclic : graph.Acyclic) (cost : Node → Cost) (sizing : Sizing) :
    ∃ plan, ofGraph graph cost sizing = .ok plan ∧
      (∃ arena, graph.build cost sizing = some (.ok (arena, plan.colouring)) ∧
        arena.fragments = plan.layout.fragments) ∧
      plan.layout.Blocked sizing ∧
      (graph.size ≤ sizing.maxItems → plan.layout.AlikeMerged sizing) ∧
      ∀ units, 0 < units → graph.size * units ≤ greatestWord →
        (∀ node ∈ graph.nodes, (cost node).units = units) → plan.layout.AlikeMerged sizing := by
  obtain ⟨plan, planned, settled, priced⟩ := acyclic.exists_priced cost sizing
  obtain ⟨arena, built, holds⟩ := Graph.build_of_ok planned
  have unpaired : plan.layout.pairs sizing = [] := by
    obtain ⟨order, found, isOrder⟩ := acyclic.exists_executionOrder
    rw [ofGraph, found] at planned
    cases planned
    exact isOrder.pairs_layout acyclic cost sizing
  have ascending := (List.pairwise_cons.mp (List.pairwise_map.mp holds.ascending)).2
  have blocked := Layout.blocked_of_pairs_eq_nil unpaired ascending
  refine ⟨plan, planned, ⟨arena, built, holds.fragments_eq⟩, blocked,
    blocked.alikeMerged_of_size_le settled.toSound, fun units positive within uniform => ?_⟩
  refine blocked.alikeMerged_of_uniform (settled.holdsAll priced) settled.toSound positive within ?_
  intro position inside
  obtain ⟨node, member, found⟩ := Graph.exists_node? inside
  rw [Graph.nodeCost, found]
  exact uniform node member

/-- In the plan of the fan what is left is kept apart. Nothing is left when all seven nodes may go
together, nor when all of them cost one unit. -/
theorem exists_blocking_fan :
    fan.Acyclic ∧
      (∃ plan, ofGraph fan fanCosts.cost fanSizing = .ok plan ∧
        (∃ arena, fan.build fanCosts.cost fanSizing = some (.ok (arena, plan.colouring)) ∧
          arena.fragments = plan.layout.fragments) ∧
        plan.layout.Blocked fanSizing) ∧
      (∃ plan, ofGraph fan fanCosts.cost { fanSizing with maxItems := 7 } = .ok plan ∧
        plan.layout.AlikeMerged { fanSizing with maxItems := 7 }) ∧
      ∃ plan, ofGraph fan (fun _ => Cost.ofNat 1) fanSizing = .ok plan ∧
        plan.layout.AlikeMerged fanSizing := by
  obtain ⟨plan, planned, built, blocked, -⟩ := exists_blocking fan_acyclic fanCosts.cost fanSizing
  obtain ⟨wide, widePlanned, -, -, small, -⟩ :=
    exists_blocking fan_acyclic fanCosts.cost { fanSizing with maxItems := 7 }
  obtain ⟨even, evenPlanned, -, -, -, alike⟩ :=
    exists_blocking fan_acyclic (fun _ => Cost.ofNat 1) fanSizing
  refine ⟨fan_acyclic, ⟨plan, planned, built, blocked⟩, ⟨wide, widePlanned, small (by decide)⟩,
    even, evenPlanned, alike 1 Nat.one_pos ?_ fun _ _ => rfl⟩
  decide

/-- **Merging can leave a pair that could be merged**: the three light nodes are together already,
and the scan compares the lone heavy node with them only, for they cost nothing. -/
theorem leftovers_fan :
    fan.Acyclic ∧ fanSizing.minItems < fan.size ∧
      ∃ plan, ofGraph fan fanCosts.cost fanSizing = .ok plan ∧
        ∃ first ∈ plan.layout.fragments, ∃ second ∈ plan.layout.fragments,
          first.id ≠ second.id ∧ Fragment.Mergeable fanSizing first second := by
  have order : fan.executionOrder = .ok [5, 3, 0, 4, 6, 2, 1] := by cbv
  refine ⟨fan_acyclic, by decide, ?_⟩
  let layout := fan.layout fanCosts.cost fanSizing [5, 3, 0, 4, 6, 2, 1]
  refine ⟨⟨layout, layout.colouring fanSizing.maxConcurrency⟩, ?_, ?_⟩
  · rw [ofGraph, order]
    rfl
  · decide +kernel

end Plan

end ValueEngine
