import ValueEngine.Proofs.Fragment.Soundness

/-!
# The layouts that merging starts from

A graph starts with one fragment for each of its nodes, or with a single one for
all of them. Either layout is settled. In the first one the links are the edges of
the graph, and the position of a node in the execution order is a rank in which
they rise.
-/

set_option autoImplicit false

namespace ValueEngine.Layout

variable {graph : Graph} {cost : NodeId → Cost} {order : List NodeId}

/-! ## One fragment for each node -/

theorem idInOrder_inj {first second : NodeId} (member : first ∈ order) :
    idInOrder order first = idInOrder order second ↔ first = second := by
  rw [idInOrder, idInOrder, Nat.add_right_cancel_iff]
  exact List.idxOf_inj member

theorem mem_map_idInOrder {node : NodeId} (member : node ∈ order) {nodes : List NodeId} :
    idInOrder order node ∈ nodes.map (idInOrder order) ↔ node ∈ nodes := by
  rw [List.mem_map]
  constructor
  · rintro ⟨other, otherMember, same⟩
    exact (idInOrder_inj member).1 same.symm ▸ otherMember
  · exact fun inside => ⟨node, inside, rfl⟩

theorem idInOrder_ne_root (node : NodeId) : idInOrder order node ≠ FragmentId.root :=
  Nat.succ_ne_zero _

theorem root_not_mem_map_idInOrder (nodes : List NodeId) :
    FragmentId.root ∉ nodes.map (idInOrder order) := by
  intro member
  obtain ⟨node, _, same⟩ := List.mem_map.1 member
  exact idInOrder_ne_root node same

theorem mem_ofOrder {fragment : Fragment} :
    fragment ∈ (ofOrder graph cost order).fragments ↔
      ∃ node ∈ order, ofNode graph cost order node = fragment :=
  List.mem_map

theorem mem_ids_ofOrder {node : NodeId} (member : node ∈ order) :
    idInOrder order node ∈ (ofOrder graph cost order).ids :=
  mem_ids_iff.2 ⟨_, mem_ofOrder.2 ⟨node, member, rfl⟩, rfl⟩

theorem mem_inputs_ofNode {input node : NodeId} (member : input ∈ order) :
    idInOrder order input ∈ (ofNode graph cost order node).inputs ↔
      graph.Feeds input node := by
  simp only [ofNode, SortedSet.mem_ofList, List.mem_map, Graph.Feeds,
    ← Graph.mem_inputs_iff_mem_dependents]
  exact ⟨fun ⟨_, consumes, same⟩ => (idInOrder_inj member).1 same.symm ▸ consumes,
    fun consumes => ⟨input, consumes, rfl⟩⟩

theorem mem_dependents_ofNode {node dependent : NodeId} (member : dependent ∈ order) :
    idInOrder order dependent ∈ (ofNode graph cost order node).dependents ↔
      graph.Feeds node dependent := by
  simp only [ofNode, SortedSet.mem_ofList, Graph.Feeds]
  split
  · rename_i last
    rw [List.isEmpty_iff.1 last]
    simp [idInOrder_ne_root]
  · rw [List.mem_map]
    exact ⟨fun ⟨_, feeds, same⟩ => (idInOrder_inj member).1 same.symm ▸ feeds,
      fun feeds => ⟨dependent, feeds, rfl⟩⟩

theorem root_mem_dependents_ofNode {node : NodeId} :
    FragmentId.root ∈ (ofNode graph cost order node).dependents ↔ graph.dependents node = [] := by
  simp only [ofNode, SortedSet.mem_ofList]
  split
  · rename_i last
    simp [List.isEmpty_iff.1 last]
  · rename_i feeds
    rw [List.isEmpty_iff] at feeds
    simp [feeds, idInOrder_ne_root]

variable (isOrder : graph.IsOrder order)
include isOrder

theorem mem_terminals_ofOrder (cost : NodeId → Cost) {node : NodeId} (member : node ∈ order) :
    idInOrder order node ∈ (ofOrder graph cost order).terminals ↔ graph.dependents node = [] := by
  simp only [ofOrder, SortedSet.mem_ofList, List.mem_map, Graph.roots, List.mem_filter,
    List.isEmpty_iff]
  constructor
  · rintro ⟨other, ⟨_, last⟩, same⟩
    exact (idInOrder_inj member).1 same.symm ▸ last
  · intro last
    exact ⟨node, ⟨isOrder.mem_iff.1 member, last⟩, rfl⟩

/-- Inputs are fragments of nodes. -/
theorem exists_node_of_mem_inputs {fragment : Fragment}
    (member : fragment ∈ (ofOrder graph cost order).all) {id : FragmentId}
    (consumed : id ∈ fragment.inputs) : ∃ node ∈ order, idInOrder order node = id := by
  rcases List.mem_cons.1 member with rfl | member
  · obtain ⟨node, isRoot, rfl⟩ := List.mem_map.1 (SortedSet.mem_ofList.1 consumed)
    exact ⟨node, isOrder.mem_iff.2 (List.mem_of_mem_filter isRoot), rfl⟩
  · obtain ⟨node, _, rfl⟩ := mem_ofOrder.1 member
    obtain ⟨input, consumes, rfl⟩ := List.mem_map.1 (SortedSet.mem_ofList.1 consumed)
    have feeds := Graph.mem_inputs_iff_mem_dependents.1 consumes
    exact ⟨input, isOrder.mem_iff.2 (Graph.mem_nodeIds_of_mem_dependents feeds).1, rfl⟩

/-- No two nodes have the same fragment. -/
theorem ids_nodup_ofOrder : ((ofOrder graph cost order).all.map Fragment.id).Nodup := by
  rw [all, List.map_cons, List.nodup_cons]
  constructor
  · intro found
    obtain ⟨fragment, member, same⟩ := List.mem_map.1 found
    obtain ⟨node, _, rfl⟩ := mem_ofOrder.1 member
    exact idInOrder_ne_root node same
  · rw [ofOrder, List.map_map]
    refine isOrder.nodup.map_on fun first firstMember second _ same => ?_
    exact (idInOrder_inj firstMember).1 same

/-- Every link is kept at both of its ends. -/
theorem linked_ofOrder :
    ∀ first ∈ (ofOrder graph cost order).all, ∀ second ∈ (ofOrder graph cost order).all,
      first.id ∈ second.inputs ↔ second.id ∈ first.dependents := by
  intro first firstMember second secondMember
  rcases List.mem_cons.1 firstMember with rfl | firstMember
  · refine iff_of_false (fun consumed => ?_) (SortedSet.not_mem_empty _)
    obtain ⟨node, _, same⟩ := exists_node_of_mem_inputs isOrder secondMember consumed
    exact idInOrder_ne_root node same
  · obtain ⟨input, inputMember, rfl⟩ := mem_ofOrder.1 firstMember
    rcases List.mem_cons.1 secondMember with rfl | secondMember
    · exact (mem_terminals_ofOrder isOrder cost inputMember).trans root_mem_dependents_ofNode.symm
    · obtain ⟨node, nodeMember, rfl⟩ := mem_ofOrder.1 secondMember
      exact (mem_inputs_ofNode inputMember).trans (mem_dependents_ofNode nodeMember).symm

/-- Dependents are the fragments of nodes, or the root. -/
theorem dependents_mem_ofOrder :
    ∀ fragment ∈ (ofOrder graph cost order).all, ∀ id ∈ fragment.dependents,
      id ∈ (ofOrder graph cost order).all.map Fragment.id := by
  intro fragment member id feeds
  rcases List.mem_cons.1 member with rfl | member
  · exact absurd feeds (SortedSet.not_mem_empty id)
  · obtain ⟨node, _, rfl⟩ := mem_ofOrder.1 member
    simp only [ofNode, SortedSet.mem_ofList] at feeds
    split at feeds
    · exact List.mem_singleton.1 feeds ▸ List.mem_cons_self
    · obtain ⟨dependent, consumes, rfl⟩ := List.mem_map.1 feeds
      have dependentMember := isOrder.mem_iff.2 (Graph.mem_nodeIds_of_mem_dependents consumes).2
      exact List.mem_cons_of_mem _ (mem_ids_ofOrder dependentMember)

/-- **Giving each node a fragment of its own is sound.** -/
theorem sound_ofOrder (acyclic : graph.Acyclic) : (ofOrder graph cost order).Sound graph where
  ids_nodup := ids_nodup_ofOrder isOrder
  nodes_perm := by
    have nodes_eq : (ofOrder graph cost order).fragments.flatMap Fragment.nodes = order := by
      rw [ofOrder, List.flatMap_map]
      exact List.flatMap_singleton' order
    rw [nodes_eq]
    exact isOrder.perm
  ordered := by
    intro fragment member
    obtain ⟨node, _, rfl⟩ := mem_ofOrder.1 member
    exact List.pairwise_singleton _ node
  consumes := by
    intro first firstMember second secondMember
    obtain ⟨input, inputMember, rfl⟩ := mem_ofOrder.1 firstMember
    obtain ⟨node, _, rfl⟩ := mem_ofOrder.1 secondMember
    have feeds_iff : graph.FeedsFragment (ofNode graph cost order input)
        (ofNode graph cost order node) ↔ graph.Feeds input node := by
      simp [Graph.FeedsFragment, ofNode]
    rw [feeds_iff]
    refine (mem_inputs_ofNode inputMember).trans ⟨fun feeds => ⟨fun same => ?_, feeds⟩, And.right⟩
    exact acyclic.not_mem_dependents node ((idInOrder_inj inputMember).1 same ▸ feeds)
  linked := linked_ofOrder isOrder
  inputs_mem := by
    intro fragment member id consumed
    obtain ⟨node, nodeMember, rfl⟩ := exists_node_of_mem_inputs isOrder member consumed
    exact mem_ids_ofOrder nodeMember
  dependents_mem := dependents_mem_ofOrder isOrder
  ranked := by
    refine ⟨id, fun fragment member id consumed => ?_⟩
    obtain ⟨node, nodeMember, rfl⟩ := mem_ofOrder.1 member
    obtain ⟨input, consumes, rfl⟩ := List.mem_map.1 (SortedSet.mem_ofList.1 consumed)
    exact Nat.succ_lt_succ (isOrder.idxOf_lt nodeMember consumes)
  awaited := by
    intro fragment member last
    obtain ⟨node, nodeMember, rfl⟩ := mem_ofOrder.1 member
    refine (mem_terminals_ofOrder isOrder cost nodeMember).2 (List.eq_nil_iff_forall_not_mem.2 ?_)
    intro dependent feeds
    have dependentMember := isOrder.mem_iff.2 (Graph.mem_nodeIds_of_mem_dependents feeds).2
    exact last _ (mem_ofOrder.2 ⟨dependent, dependentMember, rfl⟩)
      ((mem_inputs_ofNode nodeMember).2 feeds)

theorem settled_ofOrder (acyclic : graph.Acyclic) : (ofOrder graph cost order).Settled graph where
  toSound := sound_ofOrder isOrder acyclic
  pruned := by
    intro fragment member awaited other otherMember consumed
    obtain ⟨node, nodeMember, rfl⟩ := mem_ofOrder.1 member
    obtain ⟨dependent, _, rfl⟩ := mem_ofOrder.1 otherMember
    have last := (mem_terminals_ofOrder isOrder cost nodeMember).1 awaited
    have feeds : dependent ∈ graph.dependents node := (mem_inputs_ofNode nodeMember).1 consumed
    rw [last] at feeds
    cases feeds

/-! ## One fragment for all nodes -/

/-- **Putting all nodes into one fragment is sound.** -/
theorem settled_single : (single cost order).Settled graph where
  ids_nodup := by simp [all, root, single, FragmentId.root]
  nodes_perm := by simpa [single] using isOrder.perm
  ordered := by
    intro fragment member
    rw [List.mem_singleton.1 member]
    exact isOrder.inOrder
  consumes := by
    intro first firstMember second secondMember
    rw [List.mem_singleton.1 firstMember, List.mem_singleton.1 secondMember]
    simp
  linked := by
    intro first firstMember second secondMember
    simp only [all, single, List.mem_cons, List.not_mem_nil, or_false] at firstMember secondMember
    rcases firstMember with rfl | rfl <;> rcases secondMember with rfl | rfl <;>
      simp [root, FragmentId.root]
  inputs_mem := by
    intro fragment member id consumed
    simp only [all, single, List.mem_cons, List.not_mem_nil, or_false] at member
    rcases member with rfl | rfl
    · simpa [root, ids, single] using consumed
    · exact absurd consumed (SortedSet.not_mem_empty id)
  dependents_mem := by
    intro fragment member id feeds
    simp only [all, single, List.mem_cons, List.not_mem_nil, or_false] at member
    rcases member with rfl | rfl
    · exact absurd feeds (SortedSet.not_mem_empty id)
    · rw [List.mem_singleton.1 (SortedSet.mem_ofList.1 feeds)]
      exact List.mem_cons_self
  ranked := by
    refine ⟨id, fun fragment member id consumed => ?_⟩
    rw [List.mem_singleton.1 member] at consumed
    exact absurd consumed (SortedSet.not_mem_empty id)
  awaited := by
    intro fragment member _
    rw [List.mem_singleton.1 member]
    exact SortedSet.mem_ofList.2 (List.mem_singleton.2 rfl)
  pruned := by
    intro fragment _ _ other otherMember consumed
    rw [List.mem_singleton.1 otherMember] at consumed
    exact SortedSet.not_mem_empty _ consumed

omit isOrder in
/-- A graph without nodes needs no fragments. -/
theorem settled_nil (isOrder : graph.IsOrder []) : ({} : Layout).Settled graph where
  ids_nodup := by simp [all]
  nodes_perm := isOrder.perm
  ordered _ member := absurd member List.not_mem_nil
  consumes _ member := absurd member List.not_mem_nil
  linked := by
    intro first firstMember second secondMember
    rw [List.mem_singleton.1 firstMember, List.mem_singleton.1 secondMember]
    exact iff_of_false (SortedSet.not_mem_empty _) (SortedSet.not_mem_empty _)
  inputs_mem := by
    intro fragment member id consumed
    rw [List.mem_singleton.1 member] at consumed
    exact absurd consumed (SortedSet.not_mem_empty id)
  dependents_mem := by
    intro fragment member id feeds
    rw [List.mem_singleton.1 member] at feeds
    exact absurd feeds (SortedSet.not_mem_empty id)
  ranked := ⟨id, fun _ member => absurd member List.not_mem_nil⟩
  awaited _ member := absurd member List.not_mem_nil
  pruned _ member := absurd member List.not_mem_nil

end ValueEngine.Layout
