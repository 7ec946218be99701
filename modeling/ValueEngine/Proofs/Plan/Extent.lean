import ValueEngine.Proofs.Plan.Contents

/-!
# How far merging goes

Merging stays within the maxima of the sizing. Two fragments become one only when both maxima admit
it, and a step of merging changes the nodes and the cost of no other fragment (`Merge.bounded`). So
whatever is merged in whatever order, a fragment with several nodes is within the maxima
(`Plan.exists_bounded`). A single node can be above them, since it is no result of a merge.

Merging also goes on as long as its passes find something to join. In what it ends with, neither
pass finds anything, so each of them tells that it has joined nothing and leaves all fragments as
they are. Any number of passes in any order does the same (`Plan.exists_exhausted`).
-/

set_option autoImplicit false

namespace ValueEngine

open Relation

/-! ## The maxima -/

namespace Fragment

variable {fragment host guest : Fragment} {sizing : Sizing}

/-- A fragment with several nodes is within the maxima. -/
def Bounded (fragment : Fragment) (sizing : Sizing) : Prop :=
  1 < fragment.items → fragment.items ≤ sizing.maxItems ∧ fragment.cost.units ≤ sizing.maxCost

/-- Only nodes and cost matter. -/
theorem Bounded.congr {other : Fragment} (bounded : fragment.Bounded sizing)
    (nodes_eq : other.nodes = fragment.nodes) (cost_eq : other.cost = fragment.cost) :
    other.Bounded sizing := by
  rw [Bounded, items, nodes_eq, cost_eq]
  exact bounded

/-- The host is within the maxima since both fragments were found to fit together. -/
theorem Bounded.onJoinAfter (bounded : fragment.Bounded sizing)
    (same : fragment.id = host.id → fragment = host) (fits : host.mayJoin sizing guest = true) :
    (Fragment.onJoinAfter host guest fragment).Bounded sizing := by
  unfold Fragment.onJoinAfter
  split
  case isTrue isHost =>
    obtain rfl := same isHost
    intro _
    rw [items, List.length_append]
    exact mayJoin_iff.mp fits
  case isFalse => exact bounded.congr rfl rfl

theorem Bounded.onJoinBefore (bounded : fragment.Bounded sizing)
    (same : fragment.id = host.id → fragment = host) (fits : guest.mayJoin sizing host = true) :
    (Fragment.onJoinBefore host guest fragment).Bounded sizing := by
  unfold Fragment.onJoinBefore
  split
  case isTrue isHost =>
    obtain rfl := same isHost
    intro _
    rw [items, List.length_append, Cost.add_comm]
    exact mayJoin_iff.mp fits
  case isFalse => exact bounded.congr rfl rfl

end Fragment

namespace Layout

variable {layout later : Layout} {graph : Graph} {sizing : Sizing}

/-- All fragments with several nodes are within the maxima. -/
def Bounded (layout : Layout) (sizing : Sizing) : Prop :=
  ∀ fragment ∈ layout.fragments, fragment.Bounded sizing

/-- Fragments of one node each are bounded, whatever they cost. -/
theorem bounded_ofOrder (graph : Graph) (cost : NodeId → Cost) (order : List NodeId) :
    (ofOrder graph cost order).Bounded sizing := by
  intro fragment member several
  obtain ⟨node, _, rfl⟩ := mem_ofOrder.mp member
  exact absurd several (Nat.lt_irrefl 1)

/-- **A step of merging stays within the maxima.** -/
theorem Merge.bounded (merge : Merge sizing layout later) (sound : layout.Sound graph)
    (bounded : layout.Bounded sizing) : later.Bounded sizing := by
  have only : ∀ old ∈ layout.fragments, ∀ host ∈ layout.fragments, old.id = host.id → old = host :=
    fun _ member _ also => sound.eq_of_id (mem_all_of_mem member) (mem_all_of_mem also)
  intro fragment member
  cases merge with
  | @alike host _ hostMember _ _ _ fits =>
    obtain ⟨old, kept, rfl⟩ := List.mem_map.mp member
    have oldMember := List.mem_of_mem_filter kept
    exact (bounded old oldMember).onJoinAfter (only old oldMember host hostMember) fits
  | @chain host _ hostMember _ _ _ fits =>
    obtain ⟨old, kept, rfl⟩ := List.mem_map.mp member
    have oldMember := List.mem_of_mem_filter kept
    exact (bounded old oldMember).onJoinBefore (only old oldMember host hostMember) fits
  | prune =>
    obtain ⟨old, oldMember, rfl⟩ := mem_prune.mp member
    unfold release
    split
    · exact (bounded old oldMember).congr rfl rfl
    · exact bounded old oldMember

/-- **Whatever is merged in whatever order stays within the maxima.** -/
theorem Bounded.merges (bounded : layout.Bounded sizing) (sound : layout.Sound graph)
    (merges : ReflTransGen (Merge sizing) layout later) : later.Bounded sizing := by
  induction merges with
  | refl => exact bounded
  | tail before merge ih => exact merge.bounded (sound.merges before) ih

/-! ## When nothing is left to join -/

/-- No fragment fits together with its only dependent, unless this is the root. -/
def Unchained (layout : Layout) (sizing : Sizing) : Prop :=
  ∀ guest ∈ layout.fragments, ∀ host ∈ layout.fragments,
    (∀ id, id ∈ guest.dependents ↔ id = host.id) →
      ¬ (guest.items + host.items ≤ sizing.maxItems ∧
        (guest.cost + host.cost).units ≤ sizing.maxCost)

/-- **When the second pass finds nothing, no fragment fits together with its only dependent**: the
two would have become one, which leaves fewer fragments. -/
theorem Exhausted.unchained (exhausted : layout.Exhausted sizing) (settled : layout.Settled graph) :
    layout.Unchained sizing := by
  intro guest guestMember host hostMember only within
  have dependents_eq : layout.dependents guest.id = [host.id] := by
    have alone : guest.dependents = SortedSet.ofList [host.id] :=
      SortedSet.ext_mem fun id => by simp [only]
    rw [settled.dependents_eq (mem_all_of_mem guestMember), alone]
    rfl
  have joined : joinToDependent sizing layout guest.id = layout.joinBefore host guest := by
    simp [joinToDependent, dependents_eq, settled.id_ne_root hostMember,
      settled.fragment?_eq (mem_all_of_mem guestMember),
      settled.fragment?_eq (mem_all_of_mem hostMember), Fragment.mayJoin_iff.mpr within]
  have stays := exhausted.joinToDependent_eq guest.id (mem_ids_iff.mpr ⟨guest, guestMember, rfl⟩)
  have fewer : (layout.joinBefore host guest).size < layout.size :=
    size_mapWithout_lt guestMember _
  rw [← joined, stays] at fewer
  exact Nat.lt_irrefl _ fewer

end Layout

/-! ## Passes in place -/

namespace Arena

/-- The two passes of merging. -/
inductive Pass where
  /-- Join undersized fragments with the same inputs. -/
  | alike
  /-- Join fragments to their only dependents. -/
  | chains
deriving DecidableEq

/-- Run a pass, and tell whether it has joined anything. -/
def runPass (sizing : Sizing) (arena : Arena) : Pass → Option (Arena × Bool)
  | .alike => arena.mergeAlike sizing false
  | .chains => arena.mergeChains sizing

/-- Run passes one after the other, and tell of each whether it has joined anything. -/
def runPasses (sizing : Sizing) (arena : Arena) : List Pass → Option (Arena × List Bool)
  | [] => some (arena, [])
  | pass :: rest => do
    let (next, changed) ← arena.runPass sizing pass
    let (last, told) ← next.runPasses sizing rest
    return (last, changed :: told)

variable {arena : Arena} {layout : Layout} {graph : Graph} {sizing : Sizing}

section Exhausted

variable (holds : arena.Holds layout) (settled : layout.Settled graph)
  (exhausted : layout.Exhausted sizing)
include holds settled exhausted

/-- The second pass leaves each fragment alone and counts nothing. -/
theorem Holds.joinToDependent_eq {guest : Fragment} (guestMember : guest ∈ layout.fragments)
    (merged : Nat) :
    Arena.joinToDependent sizing (arena, merged) guest.id = some (arena, merged) := by
  have guestFound := holds.find (Layout.mem_all_of_mem guestMember)
  match shape : guest.dependents.toList with
  | [] => simp [Arena.joinToDependent, guestFound, shape]
  | first :: second :: rest => simp [Arena.joinToDependent, guestFound, shape]
  | [dependent] =>
    by_cases isRoot : dependent = FragmentId.root
    · simp [Arena.joinToDependent, guestFound, shape, isRoot]
    have only : ∀ id, id ∈ guest.dependents ↔ id = dependent := by
      intro id
      rw [← SortedSet.mem_toList, shape, List.mem_singleton]
    obtain ⟨host, hostInside, rfl⟩ := List.mem_map.mp
      (settled.dependents_mem guest (Layout.mem_all_of_mem guestMember) dependent
        ((only dependent).mpr rfl))
    have hostFound := holds.find hostInside
    have unfit : ¬ guest.mayJoin sizing host = true := fun fits =>
      exhausted.unchained settled guest guestMember host
        (Layout.mem_fragments_of_ne_root hostInside isRoot) only (Fragment.mayJoin_iff.mp fits)
    simp [Arena.joinToDependent, guestFound, shape, isRoot, hostFound, unfit]

/-- **A pass that finds nothing to join tells so and leaves everything as it is.** -/
theorem Holds.runPass_eq (pass : Pass) : arena.runPass sizing pass = some (arena, false) := by
  cases pass with
  | alike =>
    rw [runPass, Arena.mergeAlike, holds.pairs sizing, exhausted.pairs_eq]
    rfl
  | chains =>
    have looked : ∀ fragments ⊆ layout.fragments,
        (fragments.map Fragment.id).foldlM (Arena.joinToDependent sizing) (arena, 0) =
          some (arena, 0) := by
      intro fragments inside
      induction fragments with
      | nil => rfl
      | cons guest rest ih =>
        rw [List.map_cons, List.foldlM_cons,
          holds.joinToDependent_eq settled exhausted (inside List.mem_cons_self)]
        exact ih (List.subset_of_cons_subset inside)
    rw [runPass, Arena.mergeChains, holds.fragments_eq, looked _ (List.Subset.refl _)]
    rfl

/-- **So do any number of passes in any order.** -/
theorem Holds.runPasses_eq (passes : List Pass) :
    arena.runPasses sizing passes = some (arena, List.replicate passes.length false) := by
  induction passes with
  | nil => rfl
  | cons pass rest ih =>
    rw [runPasses, holds.runPass_eq settled exhausted pass]
    simp only [Option.bind_eq_bind, Option.bind_some, ih]
    rfl

end Exhausted

end Arena

/-! ## Plans -/

namespace Graph

variable {graph : Graph}

/-- The plan of an acyclic graph with more nodes than a job should have at least is what merging
makes of one fragment for each node. -/
theorem Acyclic.exists_merged (acyclic : graph.Acyclic) (cost : Node → Cost) {sizing : Sizing}
    (several : sizing.minItems < graph.size) :
    ∃ order plan, graph.IsOrder order ∧ Plan.ofGraph graph cost sizing = .ok plan ∧
      plan.layout = (Layout.ofOrder graph (graph.nodeCost cost) order).mergeAll sizing := by
  obtain ⟨order, found, isOrder⟩ := acyclic.exists_executionOrder
  obtain ⟨plan, planned, _⟩ := acyclic.exists_plan cost sizing
  have nonempty : ¬ order.isEmpty = true := by
    intro empty
    have length_eq : order.length = graph.size :=
      isOrder.perm.length_eq.trans List.length_range
    rw [List.isEmpty_iff.mp empty, List.length_nil] at length_eq
    exact Nat.not_lt_zero _ (length_eq ▸ several)
  refine ⟨order, plan, isOrder, planned, ?_⟩
  rw [Plan.ofGraph, found] at planned
  cases planned
  exact (if_neg nonempty).trans (if_neg (Nat.not_le_of_lt several))

end Graph

namespace Plan

variable {graph : Graph}

/-- At most three nodes go together. -/
def upToThree : Sizing := { minItems := 2, maxItems := 3 }

/-- **A fragment of several nodes is within the maxima**, in the plan of an acyclic graph that is
not one fragment from the start, and after any steps of merging from one fragment for each node. -/
theorem exists_bounded (acyclic : graph.Acyclic) (cost : Node → Cost) (sizing : Sizing)
    (several : sizing.minItems < graph.size) :
    (∃ plan, ofGraph graph cost sizing = .ok plan ∧ plan.layout.Bounded sizing ∧
      ∃ arena, graph.build cost sizing = some (.ok (arena, plan.colouring)) ∧
        arena.fragments = plan.layout.fragments) ∧
      ∀ order, graph.IsOrder order → ∀ layout,
        ReflTransGen (Layout.Merge sizing) (Layout.ofOrder graph (graph.nodeCost cost) order)
          layout → layout.Bounded sizing := by
  have always : ∀ order, graph.IsOrder order → ∀ layout,
      ReflTransGen (Layout.Merge sizing) (Layout.ofOrder graph (graph.nodeCost cost) order)
        layout → layout.Bounded sizing := by
    intro order isOrder layout merges
    refine Layout.Bounded.merges ?_ (Layout.sound_ofOrder isOrder acyclic) merges
    exact Layout.bounded_ofOrder graph _ order
  refine ⟨?_, always⟩
  obtain ⟨order, plan, isOrder, planned, layout_eq⟩ := acyclic.exists_merged cost several
  obtain ⟨arena, built, holds⟩ := Graph.build_of_ok planned
  refine ⟨plan, planned, always order isOrder plan.layout ?_, arena, built, holds.fragments_eq⟩
  rw [layout_eq]
  exact ((Layout.settled_ofOrder isOrder acyclic).mergeAll sizing).1.merges

theorem exists_bounded_diamond :
    Graph.diamond.Acyclic ∧ upToThree.minItems < Graph.diamond.size ∧
      (∃ plan, ofGraph Graph.diamond (fun _ => Cost.ofNat 1) upToThree = .ok plan ∧
        plan.layout.Bounded upToThree ∧
        ∃ arena, Graph.diamond.build (fun _ => Cost.ofNat 1) upToThree =
            some (.ok (arena, plan.colouring)) ∧
          arena.fragments = plan.layout.fragments) ∧
      ∀ order, Graph.diamond.IsOrder order → ∀ layout,
        ReflTransGen (Layout.Merge upToThree)
            (Layout.ofOrder Graph.diamond (Graph.diamond.nodeCost fun _ => Cost.ofNat 1) order)
            layout → layout.Bounded upToThree :=
  ⟨Graph.diamond_acyclic, by decide,
    exists_bounded Graph.diamond_acyclic _ upToThree (by decide)⟩

/-- **Merging what is merged already changes nothing.** On the slots that the graph has been merged
in, any number of passes in any order join nothing, tell so, and leave the slots as they are. Nor
does any fragment fit together with its only dependent. -/
theorem exists_exhausted (acyclic : graph.Acyclic) (cost : Node → Cost) (sizing : Sizing)
    (several : sizing.minItems < graph.size) :
    ∃ plan arena, ofGraph graph cost sizing = .ok plan ∧
      graph.build cost sizing = some (.ok (arena, plan.colouring)) ∧
      arena.fragments = plan.layout.fragments ∧
      (∀ passes, arena.runPasses sizing passes =
        some (arena, List.replicate passes.length false)) ∧
      plan.layout.Unchained sizing := by
  obtain ⟨order, plan, isOrder, planned, layout_eq⟩ := acyclic.exists_merged cost several
  obtain ⟨arena, built, holds⟩ := Graph.build_of_ok planned
  obtain ⟨merged, exhausted⟩ : Layout.Merged graph sizing _ plan.layout ∧
      plan.layout.Exhausted sizing := by
    rw [layout_eq]
    exact (Layout.settled_ofOrder isOrder acyclic).mergeAll sizing
  exact ⟨plan, arena, planned, built, holds.fragments_eq,
    holds.runPasses_eq merged.settled exhausted, exhausted.unchained merged.settled⟩

theorem exists_exhausted_diamond :
    Graph.diamond.Acyclic ∧ upToThree.minItems < Graph.diamond.size ∧
      ∃ plan arena, ofGraph Graph.diamond (fun _ => Cost.ofNat 1) upToThree = .ok plan ∧
        Graph.diamond.build (fun _ => Cost.ofNat 1) upToThree =
          some (.ok (arena, plan.colouring)) ∧
        arena.fragments = plan.layout.fragments ∧
        (∀ passes, arena.runPasses upToThree passes =
          some (arena, List.replicate passes.length false)) ∧
        plan.layout.Unchained upToThree :=
  ⟨Graph.diamond_acyclic, by decide,
    exists_exhausted Graph.diamond_acyclic _ upToThree (by decide)⟩

end Plan

end ValueEngine
