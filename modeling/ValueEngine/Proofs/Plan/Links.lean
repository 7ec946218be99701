import Mathlib.Data.Finset.Dedup
import Mathlib.Data.Finset.Order
import ValueEngine.Plan.Basic
import ValueEngine.Proofs.Fragment.Initial
import ValueEngine.Proofs.Fragment.Merging
import ValueEngine.Proofs.Graph.Traversal

/-!
# The links of a plan

The plan of an acyclic graph has a settled layout, whatever its nodes cost and
whatever sizing it was made for. What follows for its links is said here in terms
of the graph alone (`Layout.Faithful`): they mirror the edges between nodes of
different fragments, form no cycle, and lead from every fragment to the root.
-/

set_option autoImplicit false

namespace ValueEngine

open Relation

/-- The merged layout of an acyclic graph is settled. -/
theorem Graph.IsOrder.settled_layout {graph : Graph} {order : List NodeId}
    (isOrder : graph.IsOrder order) (acyclic : graph.Acyclic) (cost : Node → Cost)
    (sizing : Sizing) : (graph.layout cost sizing order).Settled graph := by
  unfold Graph.layout
  split
  · rename_i empty
    exact Layout.settled_nil (List.isEmpty_iff.1 empty ▸ isOrder)
  · split
    · exact Layout.settled_single isOrder
    · exact ((Layout.settled_ofOrder isOrder acyclic).mergeAll sizing).1.settled

/-- The plan for a graph with a known execution order. -/
theorem Plan.ofGraph_of_order {graph : Graph} {order : List NodeId}
    (found : graph.executionOrder = .ok order) (cost : Node → Cost) (sizing : Sizing) :
    ofGraph graph cost sizing = .ok ⟨graph.layout cost sizing order,
      (graph.layout cost sizing order).colouring sizing.maxConcurrency⟩ := by
  rw [ofGraph, found]
  rfl

/-- The order in which the nodes of the diamond are executed. -/
theorem Graph.executionOrder_diamond : diamond.executionOrder = .ok [0, 2, 1, 3] := by cbv

/-- An acyclic graph has a plan, and its layout is settled. -/
theorem Graph.Acyclic.exists_plan {graph : Graph} (acyclic : graph.Acyclic) (cost : Node → Cost)
    (sizing : Sizing) :
    ∃ plan, Plan.ofGraph graph cost sizing = .ok plan ∧ plan.layout.Settled graph := by
  obtain ⟨order, found, isOrder⟩ := acyclic.exists_executionOrder
  exact ⟨_, Plan.ofGraph_of_order found cost sizing,
    isOrder.settled_layout acyclic cost sizing⟩

namespace Layout

/-- A fragment has another one, or the root, among its dependents. -/
def Feeds (layout : Layout) (first second : FragmentId) : Prop := second ∈ layout.dependents first

/-- The links of a layout are those that the edges of a graph ask for. -/
structure Faithful (layout : Layout) (graph : Graph) : Prop where
  /-- No two fragments have the same number, the root included. -/
  ids_nodup : (layout.all.map Fragment.id).Nodup
  /-- A fragment is an input of another one exactly if a node of the other has a
  node of it among its inputs. -/
  inputs_iff : ∀ first ∈ layout.fragments, ∀ second ∈ layout.fragments, first.id ≠ second.id →
    (first.id ∈ second.inputs ↔
      ∃ consumer ∈ second.nodes, ∃ producer ∈ first.nodes, producer ∈ graph.inputs consumer)
  /-- Inputs and dependents are converse to each other. -/
  converse : ∀ first ∈ layout.all, ∀ second ∈ layout.all,
    first.id ∈ second.inputs ↔ second.id ∈ first.dependents
  /-- Inputs name fragments of the layout. -/
  inputs_mem : ∀ fragment ∈ layout.all, ∀ id ∈ fragment.inputs,
    id ∈ layout.all.map Fragment.id
  /-- Dependents name fragments of the layout. -/
  dependents_mem : ∀ fragment ∈ layout.all, ∀ id ∈ fragment.dependents,
    id ∈ layout.all.map Fragment.id
  /-- The links form no cycle. -/
  acyclic : ∀ id, ¬ TransGen layout.Feeds id id
  /-- Every fragment reaches the root. -/
  reaches_root : ∀ fragment ∈ layout.fragments,
    ReflTransGen layout.Feeds fragment.id FragmentId.root
  /-- The root waits exactly for the fragments that feed no node of another one. -/
  root_inputs_iff : ∀ fragment ∈ layout.fragments,
    fragment.id ∈ layout.root.inputs ↔
      ∀ other ∈ layout.fragments, other.id ≠ fragment.id →
        ¬ ∃ consumer ∈ other.nodes, ∃ producer ∈ fragment.nodes,
          producer ∈ graph.inputs consumer
  /-- What the root waits for has no other dependent. -/
  root_only : ∀ fragment ∈ layout.fragments, fragment.id ∈ layout.root.inputs →
    ∀ id, id ∈ fragment.dependents ↔ id = FragmentId.root

variable {layout : Layout} {graph : Graph}

namespace Sound

variable (sound : layout.Sound graph)
include sound

theorem feeds_iff {fragment : Fragment} (member : fragment ∈ layout.all) {id : FragmentId} :
    layout.Feeds fragment.id id ↔ id ∈ fragment.dependents := by
  rw [Feeds, sound.dependents_eq member, SortedSet.mem_toList]

/-- A link leads from a fragment to the root or to a fragment that consumes it. -/
theorem cases_of_feeds {first second : FragmentId} (feeds : layout.Feeds first second) :
    ∃ producer ∈ layout.fragments, producer.id = first ∧
      (second = FragmentId.root ∨
        ∃ consumer ∈ layout.fragments, consumer.id = second ∧ first ∈ consumer.inputs) := by
  have found : layout.fragment? first ≠ none := by
    intro absent
    rw [Feeds, dependents, absent] at feeds
    cases feeds
  obtain ⟨producer, lookup⟩ := Option.ne_none_iff_exists'.1 found
  obtain ⟨member, rfl⟩ := mem_of_fragment? lookup
  rw [sound.feeds_iff member] at feeds
  rcases List.mem_cons.1 member with rfl | inside
  · exact absurd feeds (SortedSet.not_mem_empty second)
  refine ⟨producer, inside, rfl, ?_⟩
  obtain ⟨consumer, consumerMember, rfl⟩ :=
    List.mem_map.1 (sound.dependents_mem producer member second feeds)
  refine or_iff_not_imp_left.2 fun notRoot => ?_
  exact ⟨consumer, mem_fragments_of_ne_root consumerMember notRoot, rfl,
    (sound.linked producer member consumer consumerMember).2 feeds⟩

/-- The links of a sound layout form no cycle: they rise in some rank, and the
root feeds nothing. -/
theorem acyclic_feeds (id : FragmentId) : ¬ TransGen layout.Feeds id id := by
  obtain ⟨rank, rises⟩ := sound.ranked
  have along : ∀ {first last : FragmentId}, TransGen layout.Feeds first last →
      first ≠ FragmentId.root ∧ (last = FragmentId.root ∨ rank first < rank last) := by
    intro first last path
    have step : ∀ {before after : FragmentId}, layout.Feeds before after →
        before ≠ FragmentId.root ∧ (after = FragmentId.root ∨ rank before < rank after) := by
      intro before after feeds
      obtain ⟨producer, member, rfl, isRoot | ⟨consumer, consumerMember, rfl, consumed⟩⟩ :=
        sound.cases_of_feeds feeds
      · exact ⟨sound.id_ne_root member, Or.inl isRoot⟩
      · exact ⟨sound.id_ne_root member, Or.inr (rises consumer consumerMember _ consumed)⟩
    induction path with
    | single feeds => exact step feeds
    | tail _ feeds ih =>
      refine ⟨ih.1, (step feeds).2.imp_right fun above => ?_⟩
      exact Nat.lt_trans (ih.2.resolve_left (step feeds).1) above
  intro cycle
  exact (along cycle).2.elim (along cycle).1 (Nat.lt_irrefl _)

/-- Every fragment reaches the root: one that is not awaited feeds a fragment of
higher rank. -/
theorem reaches_root {fragment : Fragment} (member : fragment ∈ layout.fragments) :
    ReflTransGen layout.Feeds fragment.id FragmentId.root := by
  obtain ⟨rank, rises⟩ := sound.ranked
  obtain ⟨bound, below⟩ := Finset.exists_le (layout.ids.map rank).toFinset
  have rank_le : ∀ {other}, other ∈ layout.fragments → rank other.id ≤ bound := fun otherMember =>
    below _ (List.mem_toFinset.2 (List.mem_map_of_mem (List.mem_map_of_mem otherMember)))
  induction gap : bound - rank fragment.id using Nat.strong_induction_on
    generalizing fragment with
  | _ gap ih =>
    have linked := sound.linked fragment (mem_all_of_mem member)
    by_cases awaited : fragment.id ∈ layout.terminals
    · exact .single ((sound.feeds_iff (mem_all_of_mem member)).2
        ((linked layout.root root_mem_all).1 awaited))
    · obtain ⟨other, otherMember, consumed⟩ :
          ∃ other ∈ layout.fragments, fragment.id ∈ other.inputs := by
        by_contra last
        exact awaited (sound.awaited fragment member fun other otherMember consumed =>
          last ⟨other, otherMember, consumed⟩)
      have rise := rises other otherMember _ consumed
      have otherLe := rank_le otherMember
      refine .head ?_ (ih (bound - rank other.id) (by omega) otherMember rfl)
      exact (sound.feeds_iff (mem_all_of_mem member)).2
        ((linked other (mem_all_of_mem otherMember)).1 consumed)

/-- Something is awaited unless there are no fragments. -/
theorem exists_awaited {fragment : Fragment} (member : fragment ∈ layout.fragments) :
    ∃ id, id ∈ layout.terminals := by
  rcases ReflTransGen.cases_tail (sound.reaches_root member) with isRoot | ⟨id, _, feeds⟩
  · exact absurd isRoot.symm (sound.id_ne_root member)
  · obtain ⟨producer, producerMember, rfl, _⟩ := sound.cases_of_feeds feeds
    have linked := sound.linked producer (mem_all_of_mem producerMember) layout.root root_mem_all
    exact ⟨producer.id, linked.2 ((sound.feeds_iff (mem_all_of_mem producerMember)).1 feeds)⟩

end Sound

/-- The links of a settled layout are those that the edges of its graph ask for. -/
theorem Settled.faithful (settled : layout.Settled graph) : layout.Faithful graph where
  ids_nodup := settled.ids_nodup
  inputs_iff := by
    intro first firstMember second secondMember distinct
    rw [settled.consumes first firstMember second secondMember, Graph.feedsFragment_iff]
    exact and_iff_right distinct
  converse := settled.linked
  inputs_mem fragment member id consumed :=
    List.mem_cons_of_mem _ (settled.inputs_mem fragment member id consumed)
  dependents_mem := settled.dependents_mem
  acyclic := settled.acyclic_feeds
  reaches_root _ := settled.reaches_root
  root_inputs_iff := by
    intro fragment member
    constructor
    · intro awaited other otherMember distinct feeds
      refine settled.pruned fragment member awaited other otherMember ?_
      exact (settled.consumes fragment member other otherMember).2
        ⟨distinct.symm, Graph.feedsFragment_iff.2 feeds⟩
    · intro last
      refine settled.awaited fragment member fun other otherMember consumed => ?_
      obtain ⟨distinct, feeds⟩ := (settled.consumes fragment member other otherMember).1 consumed
      exact last other otherMember distinct.symm (Graph.feedsFragment_iff.1 feeds)
  root_only := by
    intro fragment member awaited id
    have linked := settled.linked fragment (mem_all_of_mem member)
    constructor
    · intro feeds
      by_contra notRoot
      obtain ⟨other, otherMember, rfl⟩ :=
        List.mem_map.1 (settled.dependents_mem fragment (mem_all_of_mem member) id feeds)
      exact settled.pruned fragment member awaited other
        (mem_fragments_of_ne_root otherMember notRoot) ((linked other otherMember).2 feeds)
    · rintro rfl
      exact (linked layout.root root_mem_all).1 awaited

end Layout

end ValueEngine
