import ValueEngine.Arena.Build
import ValueEngine.Proofs.Arena.Colouring
import ValueEngine.Proofs.Arena.Merging
import ValueEngine.Proofs.Plan.Links

/-!
# Plans are built in place

The nodes of an execution order are put into slots one after the other. When a node gets its slot
all of its inputs have theirs, so the fragments to be linked are there. After some nodes a fragment
feeds those of its dependents that have slots by then (`Graph.Started`), and in the end the arena
holds the layout with one fragment for each node.

Everything that follows does in place what it does to layouts. So building a plan in place always
has a result: for every graph, whatever its nodes cost and whatever the sizing, no lookup and no
count fails and every loop ends, and the result is the plan of the graph (`Graph.build_of_ok`,
`Graph.build_of_error`).
-/

set_option autoImplicit false

namespace ValueEngine

/-- What becomes of a fragment when some others are made inputs of a fragment. -/
def Fragment.connectSome (dependent : FragmentId) (producers : List FragmentId)
    (fragment : Fragment) : Fragment :=
  { fragment with
    inputs := if fragment.id = dependent then producers.foldl SortedSet.insert fragment.inputs
      else fragment.inputs
    dependents := if fragment.id ∈ producers then fragment.dependents.insert dependent
      else fragment.dependents }

/-- One more fragment is made an input. -/
theorem Fragment.connectSome_concat (dependent producer : FragmentId) (producers : List FragmentId)
    (fragment : Fragment) :
    (let fed := if fragment.id = producer
        then (connectSome dependent producers fragment).addDependent dependent
        else connectSome dependent producers fragment
      if fragment.id = dependent then fed.addInput producer else fed) =
      connectSome dependent (producers ++ [producer]) fragment := by
  have again : (fragment.dependents.insert dependent).insert dependent =
      fragment.dependents.insert dependent := SortedSet.ext_mem fun id => by simp
  by_cases isProducer : fragment.id = producer
  · by_cases isDependent : fragment.id = dependent
    · by_cases known : fragment.id ∈ producers <;>
        simp [connectSome, addDependent, addInput, eq_true isProducer, eq_true isDependent, known,
          again]
    · by_cases known : fragment.id ∈ producers <;>
        simp [connectSome, addDependent, eq_true isProducer, isDependent, known, again]
  · by_cases isDependent : fragment.id = dependent
    · simp [connectSome, addInput, isProducer, eq_true isDependent]
    · simp [connectSome, isProducer, isDependent]

namespace Arena

variable {arena : Arena}

/-- A new fragment has the next number. -/
theorem fragment?_insert (arena : Arena) (nodes : List NodeId) (cost : Cost) (id : FragmentId) :
    (arena.insert nodes cost).1.fragment? id =
      if id = arena.slots.length then some { id := arena.slots.length, nodes, cost }
      else arena.fragment? id := by
  unfold fragment? insert
  split
  case isTrue same =>
    rw [same, List.getElem?_concat_length]
    rfl
  case isFalse differs =>
    rcases Nat.lt_or_gt_of_ne differs with below | above
    · rw [List.getElem?_append_left below]
    · rw [List.getElem?_eq_none (by simp; omega), List.getElem?_eq_none (Nat.le_of_lt above)]

theorem Numbered.insert (numbered : arena.Numbered) (nodes : List NodeId) (cost : Cost) :
    (arena.insert nodes cost).1.Numbered := by
  intro id fragment found
  rw [fragment?_insert] at found
  split at found
  case isTrue same =>
    cases found
    exact same.symm
  case isFalse => exact numbered id fragment found

theorem numbered_empty : Arena.empty.Numbered := by
  intro id fragment found
  match id with
  | 0 =>
    cases found
    rfl
  | _ + 1 => cases found

/-- The fragments of some nodes are made inputs of a fragment. -/
theorem exists_connected (numbered : arena.Numbered) {known : SortedMap NodeId FragmentId}
    {number : NodeId → FragmentId} {dependent : FragmentId} {consumer : Fragment}
    (found : arena.fragment? dependent = some consumer) {nodes : List NodeId}
    (producers : ∀ node ∈ nodes, known.get? node = some (number node) ∧
      ∃ producer, arena.fragment? (number node) = some producer) :
    ∃ later, nodes.foldlM (Graph.connect known dependent) arena = some later ∧
      arena.Edited (Fragment.connectSome dependent (nodes.map number)) later := by
  refine exists_foldlM (fun done state =>
    arena.Edited (Fragment.connectSome dependent (done.map number)) state)
    ((Edited.refl arena).congr fun id fragment _ => by simp [Fragment.connectSome])
    fun done next rest state split edited => ?_
  obtain ⟨numberEq, producer, producerFound⟩ := producers next (by simp [split])
  obtain ⟨later, linked, editedLater⟩ := edited.link numbered producerFound found
  refine ⟨later, by rw [Graph.connect, numberEq]; exact linked,
    editedLater.congr fun id fragment _ => ?_⟩
  rw [List.map_append, List.map_singleton]
  exact Fragment.connectSome_concat dependent (number next) (done.map number) fragment

end Arena

namespace Graph

variable {graph : Graph} {order : List NodeId} {cost : Node → Cost}

theorem exists_node? {position : NodeId} (inside : position ∈ graph.nodeIds) :
    ∃ node ∈ graph.nodes, graph.node? position = some node := by
  have bound : position < graph.nodes.length := mem_nodeIds.mp inside
  exact ⟨_, List.getElem_mem bound, List.getElem?_eq_getElem bound⟩

theorem costAt_eq (cost : Node → Cost) {position : NodeId} (inside : position ∈ graph.nodeIds) :
    graph.costAt cost position = some (graph.nodeCost cost position) := by
  obtain ⟨node, _, found⟩ := exists_node? inside
  rw [costAt, nodeCost, found]
  rfl

/-! ## One fragment for each node -/

/-- The fragment of a node when some nodes have theirs. -/
def nodeSoFar (graph : Graph) (cost : Node → Cost) (order done : List NodeId) (node : NodeId) :
    Fragment :=
  { Layout.ofNode graph (graph.nodeCost cost) order node with
    dependents := SortedSet.ofList
      (((graph.dependents node).filter (· ∈ done)).map (Layout.idInOrder order)) }

/-- Some nodes of an execution order have their fragments. -/
structure Started (graph : Graph) (cost : Node → Cost) (order done : List NodeId)
    (state : Arena × SortedMap NodeId FragmentId) : Prop where
  numbered : state.1.Numbered
  live_eq : state.1.live = done.length
  length_eq : state.1.slots.length = done.length + 1
  known_eq : ∀ node ∈ done, state.2.get? node = some (Layout.idInOrder order node)
  root_eq : state.1.fragment? FragmentId.root = some ({} : Layout).root
  fragment_eq : ∀ node ∈ done, state.1.fragment? (Layout.idInOrder order node) =
    some (graph.nodeSoFar cost order done node)

theorem Started.start (graph : Graph) (cost : Node → Cost) (order : List NodeId) :
    graph.Started cost order [] (Arena.empty, ∅) :=
  ⟨Arena.numbered_empty, rfl, rfl, fun _ member => absurd member List.not_mem_nil, rfl,
    fun _ member => absurd member List.not_mem_nil⟩

/-- A fragment feeds the next node if this is a dependent. -/
theorem connectSome_nodeSoFar {done : List NodeId} {next node : NodeId} (inside : node ∈ order)
    (differs : Layout.idInOrder order node ≠ Layout.idInOrder order next) :
    (graph.nodeSoFar cost order done node).connectSome (Layout.idInOrder order next)
        ((graph.inputs next).map (Layout.idInOrder order)) =
      graph.nodeSoFar cost order (done ++ [next]) node := by
  have consumes_iff : Layout.idInOrder order node ∈
      (graph.inputs next).map (Layout.idInOrder order) ↔ next ∈ graph.dependents node :=
    (Layout.mem_map_idInOrder inside).trans mem_inputs_iff_mem_dependents
  have dependents_eq : ((graph.nodeSoFar cost order done node).connectSome
      (Layout.idInOrder order next) ((graph.inputs next).map (Layout.idInOrder order))).dependents =
        (graph.nodeSoFar cost order (done ++ [next]) node).dependents := by
    refine SortedSet.ext_mem fun id => ?_
    have own : (graph.nodeSoFar cost order done node).id = Layout.idInOrder order node := rfl
    simp only [Fragment.connectSome, own, consumes_iff]
    split
    case isTrue feeds =>
      simp only [nodeSoFar, SortedSet.mem_insert, SortedSet.mem_ofList, List.mem_map,
        List.mem_filter, List.mem_append, List.mem_singleton, decide_eq_true_eq]
      grind
    case isFalse apart =>
      simp only [nodeSoFar, SortedSet.mem_ofList, List.mem_map, List.mem_filter, List.mem_append,
        List.mem_singleton, decide_eq_true_eq]
      grind
  have inputs_eq : ((graph.nodeSoFar cost order done node).connectSome
      (Layout.idInOrder order next) ((graph.inputs next).map (Layout.idInOrder order))).inputs =
        (graph.nodeSoFar cost order (done ++ [next]) node).inputs :=
    if_neg differs
  calc (graph.nodeSoFar cost order done node).connectSome (Layout.idInOrder order next)
        ((graph.inputs next).map (Layout.idInOrder order))
    _ = { graph.nodeSoFar cost order (done ++ [next]) node with
          inputs := ((graph.nodeSoFar cost order done node).connectSome
            (Layout.idInOrder order next)
            ((graph.inputs next).map (Layout.idInOrder order))).inputs
          dependents := ((graph.nodeSoFar cost order done node).connectSome
            (Layout.idInOrder order next)
            ((graph.inputs next).map (Layout.idInOrder order))).dependents } := rfl
    _ = graph.nodeSoFar cost order (done ++ [next]) node := by rw [inputs_eq, dependents_eq]

/-- The fragment of a node without any links. -/
def unlinked (graph : Graph) (cost : Node → Cost) (order : List NodeId) (node : NodeId) :
    Fragment where
  id := Layout.idInOrder order node
  nodes := [node]
  cost := graph.nodeCost cost node

section Next

variable {done rest : List NodeId} {next : NodeId} {state : Arena × SortedMap NodeId FragmentId}

theorem mem_of_split (split : order = done ++ next :: rest) {node : NodeId} (member : node ∈ done) :
    node ∈ order := by
  rw [split]
  exact List.mem_append_left _ member

theorem IsOrder.idInOrder_ne (isOrder : graph.IsOrder order) (split : order = done ++ next :: rest)
    {node : NodeId} (member : node ∈ done) :
    Layout.idInOrder order node ≠ Layout.idInOrder order next := by
  intro same
  have equal : node = next := (Layout.idInOrder_inj (mem_of_split split member)).mp same
  exact not_mem_before isOrder.nodup split (equal ▸ member)

/-- No node before the next one depends on it, nor does it depend on itself. -/
theorem IsOrder.dependents_done (isOrder : graph.IsOrder order)
    (split : order = done ++ next :: rest) :
    (graph.dependents next).filter (· ∈ done ++ [next]) = [] := by
  have fresh := not_mem_before isOrder.nodup split
  refine List.filter_eq_nil_iff.mpr fun dependent feeds => ?_
  rw [decide_eq_true_eq, List.mem_append, List.mem_singleton, not_or]
  have consumes := mem_inputs_iff_mem_dependents.mpr feeds
  constructor
  · intro member
    have above := isOrder.idxOf_lt (mem_of_split split member) consumes
    rw [split, List.idxOf_append_of_mem member, List.idxOf_append_of_notMem fresh] at above
    have below := List.idxOf_lt_length_of_mem member
    omega
  · rintro rfl
    exact fresh (isOrder.inputs_before done dependent rest split dependent consumes)

/-- The fragment of the next node gets its inputs and feeds nothing yet. -/
theorem IsOrder.connectSome_unlinked (isOrder : graph.IsOrder order) (cost : Node → Cost)
    (split : order = done ++ next :: rest) :
    (graph.unlinked cost order next).connectSome (Layout.idInOrder order next)
        ((graph.inputs next).map (Layout.idInOrder order)) =
      graph.nodeSoFar cost order (done ++ [next]) next := by
  have inside : next ∈ order := by simp [split]
  have irreflexive : next ∉ graph.inputs next := by
    intro consumes
    have earlier := isOrder.inputs_before done next rest split next consumes
    exact not_mem_before isOrder.nodup split earlier
  have apart : Layout.idInOrder order next ∉
      (graph.inputs next).map (Layout.idInOrder order) := by
    rwa [Layout.mem_map_idInOrder inside]
  have dependents_eq : (graph.nodeSoFar cost order (done ++ [next]) next).dependents = ∅ := by
    rw [nodeSoFar, isOrder.dependents_done split]
    rfl
  calc (graph.unlinked cost order next).connectSome (Layout.idInOrder order next)
        ((graph.inputs next).map (Layout.idInOrder order))
    _ = { graph.nodeSoFar cost order (done ++ [next]) next with dependents := ∅ } := by
      simp [Fragment.connectSome, unlinked, nodeSoFar, apart, Layout.ofNode, SortedSet.ofList]
    _ = graph.nodeSoFar cost order (done ++ [next]) next := by rw [← dependents_eq]

variable (started : graph.Started cost order done state)
include started

/-- The next node gets the number of the next slot. -/
theorem Started.idInOrder_next (isOrder : graph.IsOrder order)
    (split : order = done ++ next :: rest) :
    Layout.idInOrder order next = state.1.slots.length := by
  rw [Layout.idInOrder, split, List.idxOf_append_of_notMem (not_mem_before isOrder.nodup split),
    List.idxOf_cons_self, started.length_eq, Nat.add_zero]

/-- The next node is put into its slot, and all other slots stay as they are. -/
theorem Started.fragment?_insert (isOrder : graph.IsOrder order)
    (split : order = done ++ next :: rest) (id : FragmentId) :
    (state.1.insert [next] (graph.nodeCost cost next)).1.fragment? id =
      if id = Layout.idInOrder order next then some (graph.unlinked cost order next)
      else state.1.fragment? id := by
  rw [Arena.fragment?_insert, unlinked, started.idInOrder_next isOrder split]

/-- The next node is put into its slot and linked to its inputs, which have theirs. -/
theorem Started.exists_linked (isOrder : graph.IsOrder order)
    (split : order = done ++ next :: rest) :
    ∃ later, graph.fragmentizeNode cost state next =
        some (later, state.2.insert next (Layout.idInOrder order next)) ∧
      (state.1.insert [next] (graph.nodeCost cost next)).1.Edited
        (Fragment.connectSome (Layout.idInOrder order next)
          ((graph.inputs next).map (Layout.idInOrder order))) later := by
  have number := started.idInOrder_next isOrder split
  let inserted := (state.1.insert [next] (graph.nodeCost cost next)).1
  let known := state.2.insert next (Layout.idInOrder order next)
  have consumer : inserted.fragment? (Layout.idInOrder order next) =
      some (graph.unlinked cost order next) :=
    (started.fragment?_insert isOrder split _).trans (if_pos rfl)
  have producers : ∀ input ∈ graph.inputs next,
      known.get? input = some (Layout.idInOrder order input) ∧
        ∃ producer, inserted.fragment? (Layout.idInOrder order input) = some producer := by
    intro input consumes
    have member : input ∈ done := isOrder.inputs_before done next rest split input consumes
    have differs := isOrder.idInOrder_ne split member
    constructor
    · have other : next ≠ input := fun same => differs (congrArg _ same.symm)
      rw [SortedMap.get?_insert, if_neg other]
      exact started.known_eq input member
    · exact ⟨_, (started.fragment?_insert isOrder split _).trans
        ((if_neg differs).trans (started.fragment_eq input member))⟩
  have numbered : inserted.Numbered := started.numbered.insert _ _
  obtain ⟨later, connected, edited⟩ := Arena.exists_connected numbered consumer producers
  refine ⟨later, ?_, edited⟩
  have inserted_eq : state.1.insert [next] (graph.nodeCost cost next) =
      (inserted, Layout.idInOrder order next) := by
    rw [number]
    rfl
  have inside : next ∈ graph.nodeIds := isOrder.mem_iff.mp (by simp [split])
  simp only [fragmentizeNode, costAt_eq cost inside, inserted_eq, Option.bind_eq_bind,
    Option.bind_some, connected, Option.pure_def, known]

/-- The next node of the order gets its fragment. -/
theorem Started.step (isOrder : graph.IsOrder order) (split : order = done ++ next :: rest) :
    ∃ later, graph.fragmentizeNode cost state next = some later ∧
      graph.Started cost order (done ++ [next]) later := by
  obtain ⟨later, ran, edited⟩ := started.exists_linked isOrder split
  have notRoot : FragmentId.root ≠ Layout.idInOrder order next :=
    (Layout.idInOrder_ne_root next).symm
  refine ⟨_, ran, edited.numbered (started.numbered.insert _ _) fun _ => rfl, ?_, ?_, ?_, ?_, ?_⟩
  · rw [edited.live_eq, List.length_append, ← started.live_eq]
    rfl
  · rw [edited.length_eq, List.length_append, List.length_singleton, ← started.length_eq]
    exact List.length_append
  · intro node member
    rw [SortedMap.get?_insert]
    split
    case isTrue same => rw [same]
    case isFalse other =>
      refine started.known_eq node ((List.mem_append.mp member).resolve_right fun last => ?_)
      exact other (List.mem_singleton.mp last).symm
  · have notNumber : FragmentId.root ∉ (graph.inputs next).map (Layout.idInOrder order) :=
      Layout.root_not_mem_map_idInOrder (graph.inputs next)
    rw [edited.fragment?_eq, started.fragment?_insert isOrder split, if_neg notRoot,
      started.root_eq]
    simp [Fragment.connectSome, Layout.root, notNumber, notRoot]
  · intro node member
    rw [edited.fragment?_eq, started.fragment?_insert isOrder split]
    rcases List.mem_append.mp member with before | last
    · have differs := isOrder.idInOrder_ne split before
      rw [if_neg differs, started.fragment_eq node before, Option.map_some,
        connectSome_nodeSoFar (mem_of_split split before) differs]
    · rw [List.mem_singleton.mp last, if_pos rfl, Option.map_some,
        isOrder.connectSome_unlinked cost split]

end Next

variable (isOrder : graph.IsOrder order)
include isOrder

/-- When all nodes have their fragments, the root is made a dependent of those that feed nothing. -/
theorem connectSome_roots (cost : Node → Cost) {node : NodeId} (inside : node ∈ order) :
    (graph.nodeSoFar cost order order node).connectSome FragmentId.root
        (graph.roots.map (Layout.idInOrder order)) =
      Layout.ofNode graph (graph.nodeCost cost) order node := by
  have isRoot_iff : Layout.idInOrder order node ∈ graph.roots.map (Layout.idInOrder order) ↔
      graph.dependents node = [] := by
    rw [Layout.mem_map_idInOrder inside, roots, List.mem_filter, List.isEmpty_iff,
      and_iff_right (isOrder.mem_iff.mp inside)]
  have all : (graph.dependents node).filter (· ∈ order) = graph.dependents node := by
    refine List.filter_eq_self.mpr fun dependent feeds => decide_eq_true ?_
    exact isOrder.mem_iff.mpr (mem_nodeIds_of_mem_dependents feeds).2
  have notRoot : Layout.idInOrder order node ≠ FragmentId.root := Layout.idInOrder_ne_root node
  by_cases last : graph.dependents node = []
  · simp [Fragment.connectSome, nodeSoFar, Layout.ofNode, isRoot_iff, last, notRoot,
      SortedSet.ofList]
  · rw [nodeSoFar, all]
    simp [Fragment.connectSome, Layout.ofNode, isRoot_iff, last, notRoot]

omit isOrder in
/-- Slots are numbered along the execution order. -/
theorem idInOrder_getElem (nodup : order.Nodup) {position : Nat}
    (inside : position < order.length) :
    Layout.idInOrder order order[position] = position + 1 := by
  rw [Layout.idInOrder, nodup.idxOf_getElem]

theorem ascending_ofOrder (cost : NodeId → Cost) :
    ((Layout.ofOrder graph cost order).all.map Fragment.id).Pairwise (· < ·) := by
  rw [Layout.all, List.map_cons, List.pairwise_cons, Layout.ofOrder, List.map_map]
  constructor
  · intro id member
    obtain ⟨node, _, rfl⟩ := List.mem_map.mp member
    exact Nat.succ_pos _
  · refine List.pairwise_map.mpr (List.pairwise_iff_getElem.mpr ?_)
    intro first second firstInside secondInside below
    have firstNumber := idInOrder_getElem isOrder.nodup firstInside
    have secondNumber := idInOrder_getElem isOrder.nodup secondInside
    calc (Layout.ofNode graph cost order order[first]).id
      _ = first + 1 := firstNumber
      _ < second + 1 := Nat.succ_lt_succ below
      _ = (Layout.ofNode graph cost order order[second]).id := secondNumber.symm

/-- When all nodes have their fragments, each slot becomes what the layout has, once the root waits
for those that feed nothing. -/
theorem Started.connected (acyclic : graph.Acyclic) {state : Arena × SortedMap NodeId FragmentId}
    (started : graph.Started cost order order state) (id : FragmentId) :
    (state.1.fragment? id).map (Fragment.connectSome FragmentId.root
        (graph.roots.map (Layout.idInOrder order))) =
      (Layout.ofOrder graph (graph.nodeCost cost) order).fragment? id := by
  have sound : (Layout.ofOrder graph (graph.nodeCost cost) order).Sound graph :=
    Layout.sound_ofOrder isOrder acyclic
  match id with
  | 0 =>
    have found := sound.fragment?_eq Layout.root_mem_all
    have notProducer : FragmentId.root ∉ graph.roots.map (Layout.idInOrder order) :=
      Layout.root_not_mem_map_idInOrder graph.roots
    refine (congrArg _ started.root_eq).trans (Eq.trans ?_ found.symm)
    simp [Fragment.connectSome, Layout.root, notProducer, Layout.ofOrder, SortedSet.ofList]
  | position + 1 =>
    by_cases inside : position < order.length
    · have member : order[position] ∈ order := List.getElem_mem inside
      have number := idInOrder_getElem isOrder.nodup inside
      have found := sound.fragment?_eq
        (Layout.mem_all_of_mem (Layout.mem_ofOrder.mpr ⟨order[position], member, rfl⟩))
      rw [← number, started.fragment_eq _ member, Option.map_some,
        connectSome_roots isOrder cost member]
      exact found.symm
    · have absent : state.1.fragment? (position + 1) = none := by
        have outside : state.1.slots.length ≤ position + 1 :=
          started.length_eq.trans_le (Nat.succ_le_succ (Nat.le_of_not_lt inside))
        rw [Arena.fragment?, List.getElem?_eq_none outside]
        rfl
      rw [absent]
      refine (Option.eq_none_iff_forall_ne_some.mpr fun fragment found => ?_).symm
      obtain ⟨member, same⟩ := Layout.mem_of_fragment? found
      rcases List.mem_cons.mp member with rfl | member
      · cases same
      · obtain ⟨node, nodeMember, rfl⟩ := Layout.mem_ofOrder.mp member
        exact inside (Nat.succ.inj same ▸ List.idxOf_lt_length_of_mem nodeMember)

/-- **The fragments of all nodes are put into slots**, linked as the nodes are. -/
theorem exists_fragmentized (acyclic : graph.Acyclic) (cost : Node → Cost) :
    ∃ arena, graph.fragmentize cost order = some arena ∧
      arena.Holds (Layout.ofOrder graph (graph.nodeCost cost) order) := by
  obtain ⟨⟨arena, known⟩, run, started⟩ : ∃ state,
      order.foldlM (graph.fragmentizeNode cost) (Arena.empty, ∅) = some state ∧
        graph.Started cost order order state := by
    apply exists_foldlM (graph.Started cost order)
    · exact .start graph cost order
    · exact fun done next rest state split started => started.step isOrder split
  have producers : ∀ node ∈ graph.roots, known.get? node = some (Layout.idInOrder order node) ∧
      ∃ producer, arena.fragment? (Layout.idInOrder order node) = some producer := by
    intro node isRoot
    have inside : node ∈ order := isOrder.mem_iff.mpr (List.mem_of_mem_filter isRoot)
    exact ⟨started.known_eq node inside, _, started.fragment_eq node inside⟩
  obtain ⟨later, connected, edited⟩ :=
    Arena.exists_connected started.numbered started.root_eq producers
  refine ⟨later, by rw [fragmentize, run]; exact connected, fun id => ?_, ?_, ?_⟩
  · exact (edited.fragment?_eq id).trans (started.connected isOrder acyclic id)
  · rw [edited.live_eq, started.live_eq]
    exact (List.length_map _).symm
  · exact ascending_ofOrder isOrder (graph.nodeCost cost)

/-! ## One fragment for all nodes -/

/-- All nodes are put into one slot. -/
theorem exists_seeded (cost : Node → Cost) :
    ∃ arena, graph.seed cost order = some arena ∧
      arena.Holds (Layout.single (graph.nodeCost cost) order) := by
  have costs : order.mapM (graph.costAt cost) = some (order.map (graph.nodeCost cost)) :=
    mapM_eq_some_map fun node inside => costAt_eq cost (isOrder.mem_iff.mp inside)
  let inserted := (Arena.empty.insert order (Cost.sum (order.map (graph.nodeCost cost)))).1
  have numbered : inserted.Numbered := Arena.numbered_empty.insert _ _
  have rootFound : inserted.fragment? FragmentId.root = some ({} : Layout).root := rfl
  have found : inserted.fragment? 1 = some
      { id := 1, nodes := order, cost := Cost.sum (order.map (graph.nodeCost cost)) } := rfl
  obtain ⟨later, linked, edited⟩ :=
    (Arena.Edited.refl inserted).link numbered found rootFound
  refine ⟨later, ?_, fun id => ?_, edited.live_eq, ?_⟩
  · rw [seed, costs]
    exact linked
  · rw [edited.fragment?_eq]
    match id with
    | 0 => rfl
    | 1 => rfl
    | position + 2 => rfl
  · simp [Layout.all, Layout.root, Layout.single, FragmentId.root]

/-! ## Plans -/

/-- The layout of a graph is made in place. -/
theorem exists_arena (acyclic : graph.Acyclic) (cost : Node → Cost) (sizing : Sizing) :
    ∃ arena, graph.arena cost sizing order = some arena ∧
      arena.Holds (graph.layout cost sizing order) := by
  unfold arena layout
  split
  · refine ⟨Arena.empty, rfl, fun id => ?_, rfl, List.pairwise_singleton _ _⟩
    match id with
    | 0 => rfl
    | position + 1 => rfl
  · split
    · exact exists_seeded isOrder cost
    · obtain ⟨started, run, holds⟩ := exists_fragmentized isOrder acyclic cost
      obtain ⟨later, merged, holdsLater⟩ :=
        holds.merge sizing (Layout.settled_ofOrder isOrder acyclic)
      refine ⟨later, ?_, holdsLater⟩
      rw [run]
      exact merged

end Graph

namespace Graph

variable {graph : Graph} {cost : Node → Cost} {sizing : Sizing}

/-- **When a graph has a plan it is built in place.** -/
theorem build_of_ok {plan : Plan} (planned : Plan.ofGraph graph cost sizing = .ok plan) :
    ∃ arena, graph.build cost sizing = some (.ok (arena, plan.colouring)) ∧
      arena.Holds plan.layout := by
  unfold Plan.ofGraph at planned
  cases found : graph.executionOrder with
  | error cycle =>
    rw [found] at planned
    cases planned
  | ok order =>
    rw [found] at planned
    cases planned
    have isOrder := isOrder_of_executionOrder found
    obtain ⟨arena, run, holds⟩ := exists_arena isOrder isOrder.acyclic cost sizing
    have settled := isOrder.settled_layout isOrder.acyclic cost sizing
    have awaited := settled.inputs_mem _ Layout.root_mem_all
    refine ⟨arena, ?_, holds⟩
    rw [build, found]
    simp only [run, Option.bind_eq_bind, Option.bind_some,
      holds.assign settled.stratified awaited sizing.maxConcurrency, Option.pure_def]

/-- **When a graph has no plan building it in place tells the same cycle.** -/
theorem build_of_error {cycle : Cycle} (refused : Plan.ofGraph graph cost sizing = .error cycle) :
    graph.build cost sizing = some (.error cycle) := by
  unfold Plan.ofGraph at refused
  cases found : graph.executionOrder with
  | error other =>
    rw [found] at refused
    cases refused
    rw [build, found]
  | ok order =>
    rw [found] at refused
    cases refused

/-! ## What building comes to -/

/-- Building a graph in place comes to a plan: the slots hold its fragments, and the colours are
its own. -/
def Builds (graph : Graph) (cost : Node → Cost) (sizing : Sizing) (plan : Plan) : Prop :=
  ∃ arena, graph.build cost sizing = some (.ok (arena, plan.colouring)) ∧
    arena.fragments = plan.layout.fragments ∧
      arena.fragment? FragmentId.root = some plan.layout.root

/-- An acyclic graph has a plan, building it in place comes to it, and its layout is settled. -/
theorem Acyclic.exists_built (acyclic : graph.Acyclic) (cost : Node → Cost) (sizing : Sizing) :
    ∃ plan, Plan.ofGraph graph cost sizing = .ok plan ∧ graph.Builds cost sizing plan ∧
      plan.layout.Settled graph := by
  obtain ⟨plan, planned, settled⟩ := acyclic.exists_plan cost sizing
  obtain ⟨arena, built, holds⟩ := build_of_ok planned
  refine ⟨plan, planned, ⟨arena, built, holds.fragments_eq, ?_⟩, settled⟩
  rw [holds.fragment?_eq]
  exact settled.fragment?_eq Layout.root_mem_all

end Graph

namespace Plan

/-- **The links of a plan are those that the edges of its graph ask for.** -/
theorem exists_faithful {graph : Graph} (acyclic : graph.Acyclic) (cost : Node → Cost)
    (sizing : Sizing) :
    ∃ plan, ofGraph graph cost sizing = .ok plan ∧ graph.Builds cost sizing plan ∧
      plan.layout.Faithful graph := by
  obtain ⟨plan, planned, built, settled⟩ := acyclic.exists_built cost sizing
  exact ⟨plan, planned, built, settled.faithful⟩

/-- The diamond, one node a fragment: two fragments consume the first and feed the last, which
alone feeds the root. -/
theorem exists_faithful_diamond :
    Graph.diamond.Acyclic ∧
      ∃ plan, ofGraph Graph.diamond (fun _ => Cost.ofNat 1) { maxItems := 1 } = .ok plan ∧
        Graph.diamond.Builds (fun _ => Cost.ofNat 1) { maxItems := 1 } plan ∧
        (plan.layout.all.map fun fragment =>
            (fragment.id, fragment.nodes, fragment.inputs.toList, fragment.dependents.toList)) =
          [(0, [], [4], []), (1, [0], [], [2, 3]), (2, [2], [1], [4]), (3, [1], [1], [4]),
            (4, [3], [2, 3], [0])] ∧
        plan.layout.Faithful Graph.diamond := by
  obtain ⟨plan, planned, built, faithful⟩ := exists_faithful Graph.diamond_acyclic
    (fun _ => Cost.ofNat 1) { maxItems := 1 }
  refine ⟨Graph.diamond_acyclic, plan, planned, built, ?_, faithful⟩
  cases planned.symm.trans (ofGraph_of_order Graph.executionOrder_diamond _ _)
  decide +kernel

end Plan

end ValueEngine
