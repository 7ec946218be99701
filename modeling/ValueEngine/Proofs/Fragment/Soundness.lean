import Mathlib.Data.List.Pairwise
import ValueEngine.Fragment.Basic
import ValueEngine.Proofs.Graph.Acyclic

/-!
# Layouts that are sound for a graph

A layout is sound for a graph when its fragments hold every node once, in an
order that respects the edges, and when its links are those that the edges ask
for: a fragment consumes another one exactly if a node of it consumes a node of
the other. Links are kept at both ends, name only fragments of the layout, and
rise in some rank, so that they form no cycle. The root waits at least for the
fragments that no other one consumes.

Joining two fragments contracts them: the joined fragment consumes and feeds what
either of the two did (`Contraction`). A contraction of a sound layout is sound
if the links still rise in some rank and the nodes of the joined fragment stand
in order (`Sound.contract`).
-/

set_option autoImplicit false

namespace ValueEngine

open Relation

/-- No node of a list feeds an earlier one. -/
def Graph.InOrder (graph : Graph) (nodes : List NodeId) : Prop :=
  nodes.Pairwise fun earlier later => ¬ graph.Feeds later earlier

/-- In an execution order no node feeds an earlier one. -/
theorem Graph.IsOrder.inOrder {graph : Graph} {order : List NodeId}
    (isOrder : graph.IsOrder order) : graph.InOrder order := by
  refine List.pairwise_iff_getElem.2 fun first last _ _ below feeds => ?_
  have above := isOrder.idxOf_lt (List.getElem_mem _) (mem_inputs_iff_mem_dependents.2 feeds)
  rw [isOrder.nodup.idxOf_getElem, isOrder.nodup.idxOf_getElem] at above
  exact Nat.lt_asymm below above

/-- Some node of the first fragment feeds a node of the second. -/
def Graph.FeedsFragment (graph : Graph) (first second : Fragment) : Prop :=
  ∃ producer ∈ first.nodes, ∃ consumer ∈ second.nodes, graph.Feeds producer consumer

/-- A fragment feeds another one when a node of the other has a node of it among its
inputs. -/
theorem Graph.feedsFragment_iff {graph : Graph} {first second : Fragment} :
    graph.FeedsFragment first second ↔
      ∃ consumer ∈ second.nodes, ∃ producer ∈ first.nodes, producer ∈ graph.inputs consumer := by
  simp only [FeedsFragment, Feeds, mem_inputs_iff_mem_dependents]
  grind

namespace Layout

/-- The fragments of a layout hold the nodes of a graph and are linked as its
edges ask. -/
structure Sound (layout : Layout) (graph : Graph) : Prop where
  /-- No two fragments have the same number; none has that of the root. -/
  ids_nodup : (layout.all.map Fragment.id).Nodup
  /-- Every node is in one fragment, once. -/
  nodes_perm : (layout.fragments.flatMap Fragment.nodes).Perm graph.nodeIds
  /-- Nodes stand after their inputs in the same fragment. -/
  ordered : ∀ fragment ∈ layout.fragments, graph.InOrder fragment.nodes
  /-- A fragment consumes another one exactly if a node of it does. -/
  consumes : ∀ first ∈ layout.fragments, ∀ second ∈ layout.fragments,
    first.id ∈ second.inputs ↔ first.id ≠ second.id ∧ graph.FeedsFragment first second
  /-- Links are kept at both of their ends. -/
  linked : ∀ first ∈ layout.all, ∀ second ∈ layout.all,
    first.id ∈ second.inputs ↔ second.id ∈ first.dependents
  /-- Inputs are fragments of the layout. -/
  inputs_mem : ∀ fragment ∈ layout.all, ∀ id ∈ fragment.inputs, id ∈ layout.ids
  /-- Dependents are fragments of the layout or the root. -/
  dependents_mem : ∀ fragment ∈ layout.all, ∀ id ∈ fragment.dependents,
    id ∈ layout.all.map Fragment.id
  /-- The links rise in some rank. -/
  ranked : ∃ rank : FragmentId → Nat, ∀ fragment ∈ layout.fragments,
    ∀ id ∈ fragment.inputs, rank id < rank fragment.id
  /-- The root waits for every fragment that no other one consumes. -/
  awaited : ∀ fragment ∈ layout.fragments,
    (∀ other ∈ layout.fragments, fragment.id ∉ other.inputs) → fragment.id ∈ layout.terminals

/-- A sound layout in which the root waits only for the fragments that no other one
consumes. -/
structure Settled (layout : Layout) (graph : Graph) : Prop extends layout.Sound graph where
  /-- The root waits for no fragment that another one consumes. -/
  pruned : ∀ fragment ∈ layout.fragments, fragment.id ∈ layout.terminals →
    ∀ other ∈ layout.fragments, fragment.id ∉ other.inputs

variable {layout : Layout} {graph : Graph}

theorem mem_all_of_mem {fragment : Fragment} (member : fragment ∈ layout.fragments) :
    fragment ∈ layout.all :=
  List.mem_cons_of_mem _ member

theorem root_mem_all : layout.root ∈ layout.all := List.mem_cons_self

/-- Taking out a fragment other than the root leaves the root in front. -/
theorem all_filter_ne {id : FragmentId} (notRoot : id ≠ FragmentId.root) :
    layout.all.filter (fun fragment => decide (fragment.id ≠ id)) =
      layout.root :: layout.fragments.filter fun fragment => decide (fragment.id ≠ id) :=
  List.filter_cons_of_pos (decide_eq_true fun same => notRoot same.symm)

theorem mem_ids_iff {id : FragmentId} :
    id ∈ layout.ids ↔ ∃ fragment ∈ layout.fragments, fragment.id = id :=
  List.mem_map

/-- What is looked up is a fragment with this number. -/
theorem mem_of_fragment? {id : FragmentId} {fragment : Fragment}
    (found : layout.fragment? id = some fragment) : fragment ∈ layout.all ∧ fragment.id = id :=
  ⟨List.mem_of_find?_eq_some found, by simpa using List.find?_some found⟩

/-- A fragment that is not the root is among the other ones. -/
theorem mem_fragments_of_ne_root {fragment : Fragment} (member : fragment ∈ layout.all)
    (notRoot : fragment.id ≠ FragmentId.root) : fragment ∈ layout.fragments := by
  rcases List.mem_cons.1 member with rfl | member
  · exact absurd rfl notRoot
  · exact member

namespace Sound

variable (sound : layout.Sound graph)
include sound

theorem eq_of_id {first second : Fragment} (firstMember : first ∈ layout.all)
    (secondMember : second ∈ layout.all) (same : first.id = second.id) : first = second :=
  List.inj_on_of_nodup_map sound.ids_nodup firstMember secondMember same

/-- Looking up the number of a fragment finds it. -/
theorem fragment?_eq {fragment : Fragment} (member : fragment ∈ layout.all) :
    layout.fragment? fragment.id = some fragment := by
  obtain ⟨found, lookup⟩ : ∃ found, layout.fragment? fragment.id = some found :=
    Option.isSome_iff_exists.1 (List.find?_isSome.2 ⟨fragment, member, by simp⟩)
  obtain ⟨foundMember, same⟩ := mem_of_fragment? lookup
  rw [lookup, sound.eq_of_id foundMember member same]

theorem dependents_eq {fragment : Fragment} (member : fragment ∈ layout.all) :
    layout.dependents fragment.id = fragment.dependents.toList := by
  rw [dependents, sound.fragment?_eq member, Option.map_some, Option.getD_some]

theorem id_ne_root {fragment : Fragment} (member : fragment ∈ layout.fragments) :
    fragment.id ≠ FragmentId.root := by
  intro same
  have nodup := sound.ids_nodup
  rw [all, List.map_cons, List.nodup_cons] at nodup
  exact nodup.1 (List.mem_map.2 ⟨fragment, member, same⟩)

/-- Nothing consumes the root. -/
theorem root_not_mem_inputs {fragment : Fragment} (member : fragment ∈ layout.all) :
    FragmentId.root ∉ fragment.inputs := by
  intro consumed
  obtain ⟨other, otherMember, same⟩ := mem_ids_iff.1 (sound.inputs_mem fragment member _ consumed)
  exact sound.id_ne_root otherMember same

/-- No fragment consumes itself. -/
theorem not_mem_inputs {fragment : Fragment} (member : fragment ∈ layout.all) :
    fragment.id ∉ fragment.inputs := by
  intro consumed
  rcases List.mem_cons.1 member with rfl | inside
  · exact sound.root_not_mem_inputs root_mem_all consumed
  · exact ((sound.consumes fragment inside fragment inside).1 consumed).1 rfl

theorem not_mem_dependents {fragment : Fragment} (member : fragment ∈ layout.all) :
    fragment.id ∉ fragment.dependents := fun feeds =>
  sound.not_mem_inputs member ((sound.linked fragment member fragment member).2 feeds)

/-- No two fragments consume each other. -/
theorem asymm {first second : Fragment} (firstMember : first ∈ layout.fragments)
    (secondMember : second ∈ layout.fragments) (consumed : first.id ∈ second.inputs) :
    second.id ∉ first.inputs := by
  obtain ⟨rank, rises⟩ := sound.ranked
  exact fun back =>
    Nat.lt_asymm (rises second secondMember _ consumed) (rises first firstMember _ back)

/-- Every node of the graph is in a fragment. -/
theorem exists_fragment {node : NodeId} (member : node ∈ graph.nodeIds) :
    ∃ fragment ∈ layout.fragments, node ∈ fragment.nodes :=
  List.mem_flatMap.1 (sound.nodes_perm.mem_iff.2 member)

theorem nodes_nodup : (layout.fragments.flatMap Fragment.nodes).Nodup :=
  sound.nodes_perm.nodup_iff.2 List.nodup_range

theorem fragment_nodup {fragment : Fragment} (member : fragment ∈ layout.fragments) :
    fragment.nodes.Nodup :=
  (List.nodup_flatMap.1 sound.nodes_nodup).1 fragment member

/-- A node is in one fragment only. -/
theorem eq_of_mem_nodes {first second : Fragment} (firstMember : first ∈ layout.fragments)
    (secondMember : second ∈ layout.fragments) {node : NodeId} (inFirst : node ∈ first.nodes)
    (inSecond : node ∈ second.nodes) : first = second := by
  by_contra differs
  have disjoint := (List.nodup_flatMap.1 sound.nodes_nodup).2
  have symm : Std.Symm (Function.onFun List.Disjoint Fragment.nodes) :=
    ⟨fun _ _ apart => List.disjoint_symm apart⟩
  exact disjoint.forall firstMember secondMember differs inFirst inSecond

theorem mem_nodeIds {fragment : Fragment} (member : fragment ∈ layout.fragments) {node : NodeId}
    (inside : node ∈ fragment.nodes) : node ∈ graph.nodeIds :=
  sound.nodes_perm.mem_iff.1 (List.mem_flatMap.2 ⟨fragment, member, inside⟩)

/-- In a fragment an input stands before the node that consumes it. -/
theorem mem_before {fragment : Fragment} (acyclic : graph.Acyclic)
    (member : fragment ∈ layout.fragments) {before after : List NodeId} {node input : NodeId}
    (split : fragment.nodes = before ++ node :: after) (consumes : input ∈ graph.inputs node)
    (inside : input ∈ fragment.nodes) : input ∈ before := by
  have feeds := Graph.mem_inputs_iff_mem_dependents.1 consumes
  have ordered := sound.ordered fragment member
  rw [Graph.InOrder, split, List.pairwise_append, List.pairwise_cons] at ordered
  rw [split] at inside
  rcases List.mem_append.1 inside with early | late
  · exact early
  · rcases List.mem_cons.1 late with rfl | behind
    · exact absurd feeds (acyclic.not_mem_dependents _)
    · exact absurd feeds (ordered.2.1.1 input behind)

end Sound

/-! ## Contractions -/

/-- A layout in which `host` and `guest` have become one fragment, which has the
number of `host`: `image` tells what has become of each of the other fragments. -/
structure Contraction (layout joined : Layout) (host guest : Fragment)
    (image : Fragment → Fragment) : Prop where
  all_eq : joined.all = (layout.all.filter fun fragment => fragment.id ≠ guest.id).map image
  id_eq : ∀ fragment, (image fragment).id = fragment.id
  nodes_eq : ∀ fragment, fragment.id ≠ host.id → (image fragment).nodes = fragment.nodes
  nodes_perm : (image host).nodes.Perm (host.nodes ++ guest.nodes)
  mem_inputs : ∀ fragment ∈ layout.all, fragment.id ≠ guest.id → ∀ id,
    id ∈ (image fragment).inputs ↔ id ≠ guest.id ∧ id ≠ fragment.id ∧
      (id ∈ fragment.inputs ∨ id = host.id ∧ guest.id ∈ fragment.inputs ∨
        fragment.id = host.id ∧ id ∈ guest.inputs)
  mem_dependents : ∀ fragment ∈ layout.all, fragment.id ≠ guest.id → ∀ id,
    id ∈ (image fragment).dependents ↔ id ≠ guest.id ∧ id ≠ fragment.id ∧
      (id ∈ fragment.dependents ∨ id = host.id ∧ guest.id ∈ fragment.dependents ∨
        fragment.id = host.id ∧ id ∈ guest.dependents)

namespace Contraction

variable {joined : Layout} {host guest : Fragment} {image : Fragment → Fragment}

section Members

variable (contraction : Contraction layout joined host guest image)
include contraction

theorem mem_all {fragment : Fragment} :
    fragment ∈ joined.all ↔
      ∃ old ∈ layout.all, old.id ≠ guest.id ∧ image old = fragment := by
  rw [contraction.all_eq, List.mem_map]
  simp only [List.mem_filter, decide_eq_true_eq, and_assoc]

/-- The root stays, and so do all fragments but `guest`. -/
theorem cons_eq (guestNotRoot : guest.id ≠ FragmentId.root) :
    joined.root = image layout.root ∧
      joined.fragments = (layout.fragments.filter fun old => old.id ≠ guest.id).map image := by
  have lists := contraction.all_eq
  rw [all_filter_ne guestNotRoot, List.map_cons] at lists
  exact List.cons.inj lists

theorem mem_fragments (guestNotRoot : guest.id ≠ FragmentId.root) {fragment : Fragment} :
    fragment ∈ joined.fragments ↔
      ∃ old ∈ layout.fragments, old.id ≠ guest.id ∧ image old = fragment := by
  rw [(contraction.cons_eq guestNotRoot).2, List.mem_map]
  simp only [List.mem_filter, decide_eq_true_eq, and_assoc]

theorem ids_nodup (nodup : (layout.all.map Fragment.id).Nodup) :
    (joined.all.map Fragment.id).Nodup := by
  have same : Fragment.id ∘ image = Fragment.id := funext contraction.id_eq
  rw [contraction.all_eq, List.map_map, same]
  exact nodup.sublist (List.filter_sublist.map _)

theorem mem_all_ids {id : FragmentId} :
    id ∈ joined.all.map Fragment.id ↔ id ∈ layout.all.map Fragment.id ∧ id ≠ guest.id := by
  simp only [List.mem_map, contraction.mem_all]
  constructor
  · rintro ⟨_, ⟨old, member, stays, rfl⟩, rfl⟩
    rw [contraction.id_eq]
    exact ⟨⟨old, member, rfl⟩, stays⟩
  · rintro ⟨⟨old, member, rfl⟩, stays⟩
    exact ⟨image old, ⟨old, member, stays, rfl⟩, contraction.id_eq old⟩

theorem mem_ids (guestNotRoot : guest.id ≠ FragmentId.root) {id : FragmentId} :
    id ∈ joined.ids ↔ id ∈ layout.ids ∧ id ≠ guest.id := by
  simp only [mem_ids_iff, contraction.mem_fragments guestNotRoot]
  constructor
  · rintro ⟨_, ⟨old, member, stays, rfl⟩, rfl⟩
    rw [contraction.id_eq]
    exact ⟨⟨old, member, rfl⟩, stays⟩
  · rintro ⟨⟨old, member, rfl⟩, stays⟩
    exact ⟨image old, ⟨old, member, stays, rfl⟩, contraction.id_eq old⟩

/-- Which nodes a fragment has after the contraction. -/
theorem mem_nodes {fragment : Fragment} (same : fragment.id = host.id → fragment = host)
    (node : NodeId) :
    node ∈ (image fragment).nodes ↔
      node ∈ fragment.nodes ∨ fragment.id = host.id ∧ node ∈ guest.nodes := by
  by_cases isHost : fragment.id = host.id
  · rw [same isHost, contraction.nodes_perm.mem_iff, List.mem_append]
    simp
  · rw [contraction.nodes_eq fragment isHost]
    simp [isHost]

end Members

end Contraction

namespace Sound

variable {joined : Layout} {host guest : Fragment} {image : Fragment → Fragment}

section Contracting

variable (sound : layout.Sound graph) (contraction : Contraction layout joined host guest image)
  (hostMember : host ∈ layout.fragments) (guestMember : guest ∈ layout.fragments)
  (distinct : host.id ≠ guest.id)
include sound contraction hostMember guestMember distinct

/-- A contraction keeps every node in one fragment. -/
theorem contract_nodes_perm : (joined.fragments.flatMap Fragment.nodes).Perm graph.nodeIds := by
  obtain ⟨rest, split⟩ : ∃ rest, layout.fragments.Perm (host :: guest :: rest) := by
    have others : guest ∈ layout.fragments.erase host :=
      (List.mem_erase_of_ne fun same => distinct (congrArg Fragment.id same.symm)).2 guestMember
    exact ⟨_, (List.perm_cons_erase hostMember).trans ((List.perm_cons_erase others).cons host)⟩
  have nodup : ((host :: guest :: rest).map Fragment.id).Nodup :=
    (split.map Fragment.id).nodup_iff.1 (List.nodup_cons.1 sound.ids_nodup).2
  simp only [List.map_cons, List.nodup_cons, List.mem_cons, List.mem_map, not_or] at nodup
  have kept : (host :: guest :: rest).filter (fun old => decide (old.id ≠ guest.id)) =
      host :: rest := by
    rw [List.filter_cons_of_pos (by simpa using distinct), List.filter_cons_of_neg (by simp),
      List.filter_eq_self.2]
    exact fun other member => by simpa using fun same => nodup.2.1 ⟨other, member, same⟩
  have unchanged : (rest.map image).flatMap Fragment.nodes = rest.flatMap Fragment.nodes := by
    rw [List.flatMap_map]
    refine List.flatMap_congr fun other member => contraction.nodes_eq other fun same => ?_
    exact nodup.1.2 ⟨other, member, same⟩
  rw [(contraction.cons_eq (sound.id_ne_root guestMember)).2]
  calc
    List.Perm _ (((host :: guest :: rest).filter fun old => decide (old.id ≠ guest.id)).map
        image |>.flatMap Fragment.nodes) := ((split.filter _).map image).flatMap_right _
    List.Perm _ ((host.nodes ++ guest.nodes) ++ rest.flatMap Fragment.nodes) := by
      rw [kept, List.map_cons, List.flatMap_cons, unchanged]
      exact contraction.nodes_perm.append_right _
    List.Perm _ graph.nodeIds := by
      rw [List.append_assoc]
      exact (split.flatMap_right Fragment.nodes).symm.trans sound.nodes_perm

omit guestMember distinct in
/-- After a contraction a fragment feeds another one exactly if it did before, or
`host` does and `guest` did. -/
theorem contract_feedsFragment {first second : Fragment} (firstMember : first ∈ layout.fragments)
    (secondMember : second ∈ layout.fragments) :
    graph.FeedsFragment (image first) (image second) ↔
      graph.FeedsFragment first second ∨
        first.id = host.id ∧ graph.FeedsFragment guest second ∨
        second.id = host.id ∧ graph.FeedsFragment first guest ∨
        (first.id = host.id ∧ second.id = host.id) ∧ graph.FeedsFragment guest guest := by
  have sameHost : ∀ fragment ∈ layout.fragments, fragment.id = host.id → fragment = host :=
    fun fragment member => sound.eq_of_id (mem_all_of_mem member) (mem_all_of_mem hostMember)
  simp only [Graph.FeedsFragment, contraction.mem_nodes (sameHost first firstMember),
    contraction.mem_nodes (sameHost second secondMember)]
  grind

omit distinct in
/-- After a contraction a fragment consumes another one exactly if a node of it
does. -/
theorem contract_consumes (first : Fragment) (firstMember : first ∈ joined.fragments)
    (second : Fragment) (secondMember : second ∈ joined.fragments) :
    first.id ∈ second.inputs ↔ first.id ≠ second.id ∧ graph.FeedsFragment first second := by
  have guestNotRoot := sound.id_ne_root guestMember
  obtain ⟨old, oldMember, oldStays, rfl⟩ := (contraction.mem_fragments guestNotRoot).1 firstMember
  obtain ⟨other, otherMember, otherStays, rfl⟩ :=
    (contraction.mem_fragments guestNotRoot).1 secondMember
  have direct := sound.consumes old oldMember other otherMember
  have fromGuest := sound.consumes guest guestMember other otherMember
  have intoGuest := sound.consumes old oldMember guest guestMember
  rw [contraction.id_eq, contraction.id_eq,
    contraction.mem_inputs other (mem_all_of_mem otherMember) otherStays,
    sound.contract_feedsFragment contraction hostMember oldMember otherMember]
  grind

omit hostMember distinct in
/-- After a contraction links are kept at both ends. -/
theorem contract_linked (first : Fragment) (firstMember : first ∈ joined.all) (second : Fragment)
    (secondMember : second ∈ joined.all) :
    first.id ∈ second.inputs ↔ second.id ∈ first.dependents := by
  obtain ⟨old, oldMember, oldStays, rfl⟩ := contraction.mem_all.1 firstMember
  obtain ⟨other, otherMember, otherStays, rfl⟩ := contraction.mem_all.1 secondMember
  have direct := sound.linked old oldMember other otherMember
  have fromGuest := sound.linked guest (mem_all_of_mem guestMember) other otherMember
  have intoGuest := sound.linked old oldMember guest (mem_all_of_mem guestMember)
  rw [contraction.id_eq, contraction.id_eq, contraction.mem_inputs other otherMember otherStays,
    contraction.mem_dependents old oldMember oldStays]
  grind

/-- After a contraction the root waits for what no other fragment consumes. -/
theorem contract_awaited (notConsumed : host.id ∉ guest.inputs) (fragment : Fragment)
    (member : fragment ∈ joined.fragments)
    (last : ∀ other ∈ joined.fragments, fragment.id ∉ other.inputs) :
    fragment.id ∈ joined.terminals := by
  have guestNotRoot := sound.id_ne_root guestMember
  obtain ⟨old, oldMember, stays, rfl⟩ := (contraction.mem_fragments guestNotRoot).1 member
  rw [contraction.id_eq] at last ⊢
  have lastBefore : ∀ other ∈ layout.fragments, other.id ≠ guest.id → old.id ∉ other.inputs ∧
      (other.id = host.id → old.id ≠ host.id → old.id ∉ guest.inputs) := by
    intro other otherMember otherStays
    have absent := last (image other)
      ((contraction.mem_fragments guestNotRoot).2 ⟨other, otherMember, otherStays, rfl⟩)
    rw [contraction.mem_inputs other (mem_all_of_mem otherMember) otherStays] at absent
    have irreflexive := sound.not_mem_inputs (mem_all_of_mem otherMember)
    grind
  have awaitedBefore : old.id ∈ layout.terminals := by
    refine sound.awaited old oldMember fun other otherMember consumed => ?_
    by_cases isGuest : other.id = guest.id
    · rw [sound.eq_of_id (mem_all_of_mem otherMember) (mem_all_of_mem guestMember) isGuest]
        at consumed
      by_cases isHost : old.id = host.id
      · exact notConsumed (isHost ▸ consumed)
      · exact (lastBefore host hostMember distinct).2 rfl isHost consumed
    · exact (lastBefore other otherMember isGuest).1 consumed
  have rootKept : joined.terminals = (image layout.root).inputs :=
    congrArg Fragment.inputs (contraction.cons_eq guestNotRoot).1
  rw [rootKept, contraction.mem_inputs layout.root root_mem_all guestNotRoot.symm]
  exact ⟨stays, sound.id_ne_root oldMember, Or.inl awaitedBefore⟩

/-- **A contraction of a sound layout is sound** when its links rise in some rank
and the nodes of the joined fragment stand in order. -/
theorem contract (notConsumed : host.id ∉ guest.inputs)
    (ranked : ∃ rank : FragmentId → Nat, ∀ fragment ∈ layout.fragments, fragment.id ≠ guest.id →
      ∀ id ∈ (image fragment).inputs, rank id < rank fragment.id)
    (ordered : graph.InOrder (image host).nodes) : joined.Sound graph where
  ids_nodup := contraction.ids_nodup sound.ids_nodup
  nodes_perm := sound.contract_nodes_perm contraction hostMember guestMember distinct
  ordered := by
    intro fragment member
    obtain ⟨old, oldMember, _, rfl⟩ :=
      (contraction.mem_fragments (sound.id_ne_root guestMember)).1 member
    by_cases isHost : old.id = host.id
    · rwa [sound.eq_of_id (mem_all_of_mem oldMember) (mem_all_of_mem hostMember) isHost]
    · rw [contraction.nodes_eq old isHost]
      exact sound.ordered old oldMember
  consumes := sound.contract_consumes contraction hostMember guestMember
  linked := sound.contract_linked contraction guestMember
  inputs_mem := by
    intro fragment member id consumed
    obtain ⟨old, oldMember, stays, rfl⟩ := contraction.mem_all.1 member
    rw [contraction.mem_inputs old oldMember stays] at consumed
    refine (contraction.mem_ids (sound.id_ne_root guestMember)).2 ⟨?_, consumed.1⟩
    rcases consumed.2.2 with consumed | ⟨rfl, _⟩ | ⟨_, consumed⟩
    · exact sound.inputs_mem old oldMember id consumed
    · exact List.mem_map_of_mem hostMember
    · exact sound.inputs_mem guest (mem_all_of_mem guestMember) id consumed
  dependents_mem := by
    intro fragment member id feeds
    obtain ⟨old, oldMember, stays, rfl⟩ := contraction.mem_all.1 member
    rw [contraction.mem_dependents old oldMember stays] at feeds
    refine contraction.mem_all_ids.2 ⟨?_, feeds.1⟩
    rcases feeds.2.2 with feeds | ⟨rfl, _⟩ | ⟨_, feeds⟩
    · exact sound.dependents_mem old oldMember id feeds
    · exact List.mem_map_of_mem (mem_all_of_mem hostMember)
    · exact sound.dependents_mem guest (mem_all_of_mem guestMember) id feeds
  ranked := by
    obtain ⟨rank, rises⟩ := ranked
    refine ⟨rank, fun fragment member id consumed => ?_⟩
    obtain ⟨old, oldMember, stays, rfl⟩ :=
      (contraction.mem_fragments (sound.id_ne_root guestMember)).1 member
    rw [contraction.id_eq]
    exact rises old oldMember stays id consumed
  awaited := sound.contract_awaited contraction hostMember guestMember distinct notConsumed

end Contracting

end Sound

end Layout

end ValueEngine
