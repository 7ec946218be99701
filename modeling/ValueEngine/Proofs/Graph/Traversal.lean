import ValueEngine.Proofs.Graph.Acyclic

/-!
# The traversal finds an order or a cycle

The traversal works on any graph. A node that has been met and is not listed yet is being visited:
the traversal is at work on something that it reaches (`Visiting`). So when a node is listed, each
of its dependents is listed already or is being visited, and then reaches the node
(`Finished`). A traversal visits what stands on its stack one after the other, unless it comes to
a node that depends on itself (`traverse_append`).

In the finished list an input that stands behind its dependent thus lies on a cycle, and the check
that follows reports such an input. When there is none the list is an execution order. So an
execution order is found exactly for the graphs that have no cycle, and for any other graph a node
on a cycle is reported.
-/

set_option autoImplicit false

namespace ValueEngine.Graph

open Relation

variable {graph : Graph}

/-- Some path of one edge or more leads from a node back to it. -/
def OnCycle (graph : Graph) (node : NodeId) : Prop := TransGen graph.Feeds node node

theorem not_acyclic_iff : ¬ graph.Acyclic ↔ ∃ node, graph.OnCycle node := by
  simp only [Acyclic, OnCycle, not_forall, not_not]

/-- In an execution order the inputs stand before their dependents, so there is no cycle. -/
theorem IsOrder.acyclic {order : List NodeId} (isOrder : graph.IsOrder order) : graph.Acyclic := by
  apply acyclic_of_rank order.idxOf
  intro edge member
  have consumes : edge.input ∈ graph.inputs edge.dependent := mem_inputs.2 member
  have inside := (mem_nodeIds_of_mem_dependents (mem_inputs_iff_mem_dependents.1 consumes)).2
  exact isOrder.idxOf_lt (isOrder.mem_iff.2 inside) consumes

/-! ## Lists of finished nodes -/

/-- Every node of a list stands in it once and does not depend on itself, and its dependents stand
behind it or reach it. -/
def Finished (graph : Graph) : List NodeId → Prop
  | [] => True
  | node :: later =>
    node ∉ later ∧ node ∉ graph.dependents node ∧
      (∀ dependent ∈ graph.dependents node,
        dependent ∈ later ∨ ReflTransGen graph.Feeds dependent node) ∧
      Finished graph later

namespace Finished

theorem nodup {list : List NodeId} (finished : graph.Finished list) : list.Nodup := by
  induction list with
  | nil => exact List.nodup_nil
  | cons node later ih => exact List.nodup_cons.2 ⟨finished.1, ih finished.2.2.2⟩

theorem of_append {earlier later : List NodeId} (finished : graph.Finished (earlier ++ later)) :
    graph.Finished later := by
  induction earlier with
  | nil => exact finished
  | cons node rest ih => exact ih finished.2.2.2

/-- **An input that stands behind its dependent lies on a cycle.** -/
theorem onCycle {earlier later : List NodeId} {node input : NodeId}
    (finished : graph.Finished (earlier ++ node :: later)) (behind : input ∈ later)
    (consumes : input ∈ graph.inputs node) : graph.OnCycle input := by
  have feeds : node ∈ graph.dependents input := mem_inputs_iff_mem_dependents.1 consumes
  obtain ⟨between, after, rfl⟩ := List.append_of_mem behind
  have suffix : graph.Finished (node :: (between ++ input :: after)) := finished.of_append
  have rest : graph.Finished (input :: after) := suffix.2.2.2.of_append
  rcases rest.2.2.1 node feeds with listed | reaches
  · have absent : node ∉ between ++ input :: after := suffix.1
    exact absurd (List.mem_append_right _ (List.mem_cons_of_mem _ listed)) absent
  · exact .head' feeds reaches

end Finished

/-! ## Visits -/

theorem traverse_nil (fresh order : List NodeId) : graph.traverse fresh [] order = .ok order := by
  rw [traverse]

theorem traverse_of_loop {fresh below order : List NodeId} {top : NodeId} (member : top ∈ fresh)
    (loop : top ∈ graph.dependents top) :
    graph.traverse fresh (top :: below) order = .error ⟨top⟩ := by
  rw [traverse, dif_pos member, if_pos loop]

theorem traverse_of_mem {fresh below order : List NodeId} {top : NodeId} (member : top ∈ fresh)
    (irreflexive : top ∉ graph.dependents top) :
    graph.traverse fresh (top :: below) order =
      graph.traverse (fresh.erase top)
        (((graph.dependents top).filter (· ∈ fresh.erase top)).reverse ++ top :: below) order := by
  rw [traverse, dif_pos member, if_neg irreflexive]

theorem traverse_of_not_mem {fresh below order : List NodeId} {top : NodeId}
    (absent : top ∉ fresh) :
    graph.traverse fresh (top :: below) order =
      graph.traverse fresh below (if top ∈ order then order else top :: order) := by
  rw [traverse, dif_neg absent]

/-- What a traversal has done: the nodes that are not met yet, and the finished
ones. -/
structure Traversed (graph : Graph) (fresh order : List NodeId) : Prop where
  finished : graph.Finished order
  nodup : fresh.Nodup
  disjoint : ∀ node ∈ fresh, node ∉ order

/-- What the visit of some nodes adds: they are finished, and every node is as
finished or as fresh as it was, or has been finished on the way. -/
structure Advance (todo fresh order fresh' order' : List NodeId) : Prop where
  done : ∀ node ∈ todo, node ∈ order'
  keeps : ∀ node ∈ order, node ∈ order'
  subset : ∀ node ∈ fresh', node ∈ fresh
  settles : ∀ node ∈ fresh, node ∈ fresh' ∨ node ∈ order'
  origin : ∀ node ∈ order', node ∈ order ∨ node ∈ fresh

/-- Every node that is being visited, that is met and not finished, reaches a target. -/
def Visiting (graph : Graph) (fresh order : List NodeId) (target : NodeId) : Prop :=
  ∀ node ∈ graph.nodeIds, node ∉ fresh → node ∉ order → ReflTransGen graph.Feeds node target

/-- What was met and is still not finished was being visited before. -/
theorem Visiting.advance {todo fresh order fresh' order' : List NodeId} {target : NodeId}
    (visiting : graph.Visiting fresh order target)
    (advance : Advance todo fresh order fresh' order') :
    graph.Visiting fresh' order' target := by
  intro node inside met unfinished
  apply visiting node inside
  · intro isFresh
    exact (advance.settles node isFresh).elim met unfinished
  · intro listed
    exact unfinished (advance.keeps node listed)

/-- While a node is being visited, all that is being visited reaches what the node feeds. -/
theorem Visiting.erase {fresh order : List NodeId} {node dependent : NodeId}
    (visiting : graph.Visiting fresh order node) (feeds : dependent ∈ graph.dependents node) :
    graph.Visiting (fresh.erase node) order dependent := by
  intro other inside met unfinished
  by_cases same : other = node
  · subst same
    exact .single feeds
  · have metBefore : other ∉ fresh := fun isFresh => met ((List.mem_erase_of_ne same).2 isFresh)
    exact (visiting other inside metBefore unfinished).tail feeds

theorem Advance.refl (fresh order : List NodeId) : Advance [] fresh order fresh order where
  done _ member := absurd member List.not_mem_nil
  keeps _ member := member
  subset _ member := member
  settles _ member := Or.inl member
  origin _ member := Or.inl member

theorem Advance.trans {first second fresh order fresh₁ order₁ fresh₂ order₂ : List NodeId}
    (earlier : Advance first fresh order fresh₁ order₁)
    (later : Advance second fresh₁ order₁ fresh₂ order₂) :
    Advance (first ++ second) fresh order fresh₂ order₂ where
  done node member := by
    rcases List.mem_append.1 member with member | member
    · exact later.keeps node (earlier.done node member)
    · exact later.done node member
  keeps node member := later.keeps node (earlier.keeps node member)
  subset node member := earlier.subset node (later.subset node member)
  settles node member := by
    rcases earlier.settles node member with isFresh | isDone
    · exact later.settles node isFresh
    · exact Or.inr (later.keeps node isDone)
  origin node member := by
    rcases later.origin node member with isDone | isFresh
    · exact earlier.origin node isDone
    · exact Or.inr (earlier.subset node isFresh)

/-- Nothing has to be done about a node that is finished already. -/
theorem Advance.listed {node : NodeId} {fresh order : List NodeId} (listed : node ∈ order) :
    Advance [node] fresh order fresh order :=
  { Advance.refl fresh order with
    done := fun _ member => List.mem_singleton.1 member ▸ listed }

/-- Taking a node out of the fresh ones, to visit what it feeds first. -/
theorem Traversed.erase {fresh order : List NodeId} (traversed : graph.Traversed fresh order)
    (node : NodeId) : graph.Traversed (fresh.erase node) order where
  finished := traversed.finished
  nodup := traversed.nodup.erase node
  disjoint other member := traversed.disjoint other (List.mem_of_mem_erase member)

/-- A node that is not fresh is finished once everything it feeds is finished or reaches it. -/
theorem Traversed.finish {fresh order : List NodeId} (traversed : graph.Traversed fresh order)
    {node : NodeId} (absent : node ∉ fresh) (irreflexive : node ∉ graph.dependents node)
    (finished : ∀ dependent ∈ graph.dependents node,
      dependent ∈ order ∨ ReflTransGen graph.Feeds dependent node) :
    graph.Traversed fresh (if node ∈ order then order else node :: order) := by
  split
  · exact traversed
  · rename_i unlisted
    refine ⟨⟨unlisted, irreflexive, finished, traversed.finished⟩, traversed.nodup, ?_⟩
    intro other member
    rintro (_ | ⟨_, listed⟩)
    · exact absent member
    · exact traversed.disjoint other member listed

/-- Finishing a node whose visit began with other nodes. -/
theorem Advance.finish {todo fresh order fresh' order' : List NodeId} {node : NodeId}
    (advance : Advance todo (fresh.erase node) order fresh' order') (member : node ∈ fresh) :
    Advance [node] fresh order fresh' (if node ∈ order' then order' else node :: order') := by
  have mem_finished : ∀ other,
      other ∈ (if node ∈ order' then order' else node :: order') ↔
        other = node ∨ other ∈ order' := by
    intro other
    split
    · rename_i listed
      exact ⟨Or.inr, fun found => found.elim (fun same => same ▸ listed) id⟩
    · exact List.mem_cons
  exact
    { done := fun other found => (mem_finished other).2 (Or.inl (List.mem_singleton.1 found))
      keeps := fun other found => (mem_finished other).2 (Or.inr (advance.keeps other found))
      subset := fun other found => List.mem_of_mem_erase (advance.subset other found)
      settles := by
        intro other found
        by_cases same : other = node
        · exact Or.inr ((mem_finished other).2 (Or.inl same))
        · rcases advance.settles other ((List.mem_erase_of_ne same).2 found) with isFresh | isDone
          · exact Or.inl isFresh
          · exact Or.inr ((mem_finished other).2 (Or.inr isDone))
      origin := by
        intro other found
        rcases (mem_finished other).1 found with rfl | listed
        · exact Or.inr member
        · exact (advance.origin other listed).imp id List.mem_of_mem_erase }

/-- The outcome of visiting some nodes on top of a stack: a node that depends on itself has been
met, or the traversal goes on with the rest of the stack. -/
def Visited (graph : Graph) (todo below fresh order : List NodeId) : Prop :=
  (∃ node ∈ graph.dependents node, graph.traverse fresh (todo ++ below) order = .error ⟨node⟩) ∨
    ∃ fresh' order',
      graph.traverse fresh (todo ++ below) order = graph.traverse fresh' below order' ∧
        graph.Traversed fresh' order' ∧ Advance todo fresh order fresh' order'

/-- The first node on the stack is finished, and then the others are visited. -/
theorem Visited.cons {node : NodeId} {rest below fresh order fresh₁ order₁ : List NodeId}
    (visited : graph.Visited rest below fresh₁ order₁)
    (advance : Advance [node] fresh order fresh₁ order₁)
    (goesOn : graph.traverse fresh (node :: (rest ++ below)) order =
      graph.traverse fresh₁ (rest ++ below) order₁) :
    graph.Visited (node :: rest) below fresh order := by
  rcases visited with ⟨loop, isLoop, found⟩ | ⟨fresh₂, order₂, found, traversed, further⟩
  · exact Or.inl ⟨loop, isLoop, goesOn.trans found⟩
  · exact Or.inr ⟨fresh₂, order₂, goesOn.trans found, traversed, advance.trans further⟩

/-- The nodes on top of a stack: all that is being visited reaches each of them, and each is fresh
or finished. -/
structure Stacked (graph : Graph) (todo fresh order : List NodeId) : Prop where
  visiting : ∀ node ∈ todo, graph.Visiting fresh order node
  ready : ∀ node ∈ todo, node ∈ fresh ∨ node ∈ order

namespace Stacked

variable {node : NodeId} {rest fresh order : List NodeId}

theorem head (stacked : graph.Stacked (node :: rest) fresh order) :
    graph.Visiting fresh order node :=
  stacked.visiting node List.mem_cons_self

/-- The others stay on the stack while the first node is visited. -/
theorem tail (stacked : graph.Stacked (node :: rest) fresh order) {fresh₁ order₁ : List NodeId}
    (advance : Advance [node] fresh order fresh₁ order₁) :
    graph.Stacked rest fresh₁ order₁ where
  visiting other member := (stacked.visiting other (List.mem_cons_of_mem _ member)).advance advance
  ready other member := by
    rcases stacked.ready other (List.mem_cons_of_mem _ member) with isFresh | listed
    · exact advance.settles other isFresh
    · exact Or.inr (advance.keeps other listed)

end Stacked

/-- The fresh nodes that a node feeds, as they go onto the stack. -/
def freshDependents (graph : Graph) (fresh : List NodeId) (node : NodeId) : List NodeId :=
  ((graph.dependents node).filter (· ∈ fresh.erase node)).reverse

theorem mem_freshDependents {fresh : List NodeId} {node dependent : NodeId} :
    dependent ∈ graph.freshDependents fresh node ↔
      dependent ∈ graph.dependents node ∧ dependent ∈ fresh.erase node := by
  rw [freshDependents, List.mem_reverse, List.mem_filter, decide_eq_true_eq]

/-- What a node feeds goes onto the stack above it. -/
theorem Visiting.stacked {fresh order : List NodeId} {node : NodeId}
    (visiting : graph.Visiting fresh order node) :
    graph.Stacked (graph.freshDependents fresh node) (fresh.erase node) order where
  visiting _ member := visiting.erase (mem_freshDependents.1 member).1
  ready _ member := Or.inl (mem_freshDependents.1 member).2

/-- When the fresh nodes that a node feeds are finished, all others that it feeds are finished too
or are being visited. -/
theorem Visiting.listed_or_reaches {fresh order fresh₁ order₁ : List NodeId} {node : NodeId}
    (visiting : graph.Visiting fresh order node) (irreflexive : node ∉ graph.dependents node)
    (advance : Advance (graph.freshDependents fresh node) (fresh.erase node) order fresh₁ order₁) :
    ∀ dependent ∈ graph.dependents node,
      dependent ∈ order₁ ∨ ReflTransGen graph.Feeds dependent node := by
  intro dependent feeds
  have differs : dependent ≠ node := fun same => irreflexive (same ▸ feeds)
  by_cases isFresh : dependent ∈ fresh.erase node
  · exact Or.inl (advance.done dependent (mem_freshDependents.2 ⟨feeds, isFresh⟩))
  · by_cases listed : dependent ∈ order
    · exact Or.inl (advance.keeps dependent listed)
    · have met : dependent ∉ fresh := fun still => isFresh ((List.mem_erase_of_ne differs).2 still)
      exact Or.inr (visiting dependent (mem_nodeIds_of_mem_dependents feeds).2 met listed)

/-- **A traversal visits the nodes on top of its stack one after the other.** -/
theorem traverse_append (todo below fresh order : List NodeId)
    (traversed : graph.Traversed fresh order) (stacked : graph.Stacked todo fresh order) :
    graph.Visited todo below fresh order := by
  match todo with
  | [] => exact Or.inr ⟨fresh, order, rfl, traversed, Advance.refl fresh order⟩
  | node :: rest =>
    by_cases isFresh : node ∈ fresh
    · by_cases loop : node ∈ graph.dependents node
      · exact Or.inl ⟨node, loop, traverse_of_loop isFresh loop⟩
      have smaller : (fresh.erase node).length < fresh.length := by
        rw [List.length_erase_of_mem isFresh]
        have := List.length_pos_of_mem isFresh
        omega
      have unfolded : graph.traverse fresh (node :: (rest ++ below)) order =
          graph.traverse (fresh.erase node)
            (graph.freshDependents fresh node ++ node :: (rest ++ below)) order :=
        traverse_of_mem isFresh loop
      -- The fresh nodes that the node feeds are visited before it is met again.
      have first := traverse_append (graph.freshDependents fresh node) (node :: (rest ++ below))
        (fresh.erase node) order (traversed.erase node) stacked.head.stacked
      rcases first with ⟨other, isLoop, found⟩ | ⟨fresh₁, order₁, found, traversed₁, advance₁⟩
      · exact Or.inl ⟨other, isLoop, unfolded.trans found⟩
      have absent : node ∉ fresh₁ := fun member =>
        traversed.nodup.not_mem_erase (advance₁.subset node member)
      have shorter : fresh₁.length < fresh.length :=
        Nat.lt_of_le_of_lt (traversed₁.nodup.length_le_of_subset advance₁.subset) smaller
      have traversed₂ :=
        traversed₁.finish absent loop (stacked.head.listed_or_reaches loop advance₁)
      have advance₂ := advance₁.finish isFresh
      have others := traverse_append rest below fresh₁ _ traversed₂ (stacked.tail advance₂)
      exact others.cons advance₂ (unfolded.trans (found.trans (traverse_of_not_mem absent)))
    · have listed : node ∈ order :=
        (stacked.ready node List.mem_cons_self).resolve_left isFresh
      have advance : Advance [node] fresh order fresh order := Advance.listed listed
      have others := traverse_append rest below fresh order traversed (stacked.tail advance)
      refine others.cons advance ?_
      rw [traverse_of_not_mem isFresh, if_pos listed]
termination_by (fresh.length, todo.length)

/-- The traversal of all nodes meets a node that depends on itself, or lists all nodes. -/
theorem traverse_nodeIds (graph : Graph) :
    (∃ node ∈ graph.dependents node,
      graph.traverse graph.nodeIds graph.nodeIds [] = .error ⟨node⟩) ∨
    ∃ order, graph.traverse graph.nodeIds graph.nodeIds [] = .ok order ∧ graph.Finished order ∧
      ∀ node, node ∈ order ↔ node ∈ graph.nodeIds := by
  have untouched : graph.Traversed graph.nodeIds [] :=
    ⟨trivial, List.nodup_range, fun _ _ => List.not_mem_nil⟩
  have stacked : graph.Stacked graph.nodeIds graph.nodeIds [] :=
    ⟨fun _ _ node inside met => absurd inside met, fun _ member => Or.inl member⟩
  have visited := traverse_append graph.nodeIds [] graph.nodeIds [] untouched stacked
  unfold Visited at visited
  rw [List.append_nil] at visited
  rcases visited with loop | ⟨fresh, order, found, traversed, advance⟩
  · exact Or.inl loop
  · refine Or.inr ⟨order, found.trans (traverse_nil fresh order), traversed.finished, ?_⟩
    intro node
    constructor
    · intro listed
      exact (advance.origin node listed).resolve_left List.not_mem_nil
    · exact advance.done node

/-! ## The check -/

/-- What the check reports is an input of a node that does not stand before it. -/
theorem exists_of_firstUnmet {list before : List NodeId} {input : NodeId}
    (found : graph.firstUnmet before list = some input) :
    ∃ earlier node later, list = earlier ++ node :: later ∧ input ∈ graph.inputs node ∧
      input ≠ node ∧ input ∉ earlier ∧ input ∉ before := by
  induction list generalizing before with
  | nil => cases found
  | cons node rest ih =>
    unfold firstUnmet at found
    split at found
    case h_1 other last =>
      cases found
      obtain ⟨consumes, unmet⟩ := List.mem_filter.1 (List.mem_of_getLast? last)
      simp only [List.mem_cons, not_or, decide_eq_true_eq] at unmet
      exact ⟨[], node, rest, rfl, consumes, unmet.1, List.not_mem_nil, unmet.2⟩
    case h_2 =>
      obtain ⟨earlier, other, later, split, consumes, differs, absent, unmet⟩ := ih found
      simp only [List.mem_cons, not_or] at unmet
      refine ⟨node :: earlier, other, later, by rw [split]; rfl, consumes, differs, ?_, unmet.2⟩
      simp only [List.mem_cons, not_or]
      exact ⟨unmet.1, absent⟩

/-- Where the check reports nothing, every input stands before its dependent or is the dependent
itself. -/
theorem met_of_firstUnmet_eq_none {list before : List NodeId}
    (none : graph.firstUnmet before list = none) :
    ∀ earlier node later, list = earlier ++ node :: later →
      ∀ input ∈ graph.inputs node, input = node ∨ input ∈ earlier ∨ input ∈ before := by
  induction list generalizing before with
  | nil =>
    intro earlier node later split
    cases earlier <;> cases split
  | cons first rest ih =>
    unfold firstUnmet at none
    split at none
    case h_1 => cases none
    case h_2 last =>
      intro earlier node later split input consumes
      cases earlier with
      | nil =>
        cases split
        have met := List.filter_eq_nil_iff.1 (List.getLast?_eq_none_iff.1 last) input consumes
        simp only [List.mem_cons, decide_eq_true_eq, not_not] at met
        exact met.imp_right Or.inr
      | cons head earlier =>
        cases split
        rcases ih none earlier node later rfl input consumes with same | member | member
        · exact Or.inl same
        · exact Or.inr (Or.inl (List.mem_cons_of_mem _ member))
        · rcases List.mem_cons.1 member with rfl | member
          · exact Or.inr (Or.inl List.mem_cons_self)
          · exact Or.inr (Or.inr member)

/-- **A node that is reported lies on a cycle.** -/
theorem onCycle_of_executionOrder {node : NodeId}
    (found : graph.executionOrder = .error ⟨node⟩) : graph.OnCycle node := by
  unfold executionOrder at found
  rcases graph.traverse_nodeIds with ⟨loop, isLoop, traversed⟩ | ⟨order, traversed, finished, all⟩
  · rw [traversed] at found
    cases found
    exact .single isLoop
  · rw [traversed] at found
    simp only [bind, Except.bind] at found
    split at found
    case h_2 => cases found
    case h_1 unmet reported =>
      cases found
      obtain ⟨earlier, other, later, rfl, consumes, differs, absent, _⟩ :=
        exists_of_firstUnmet reported
      have feeds := mem_inputs_iff_mem_dependents.1 consumes
      have listed := (all node).2 (mem_nodeIds_of_mem_dependents feeds).1
      have behind : node ∈ later := by
        rcases List.mem_append.1 listed with early | late
        · exact absurd early absent
        · exact (List.mem_cons.1 late).resolve_left differs
      exact finished.onCycle behind consumes

/-- **A list that is found is an execution order.** -/
theorem isOrder_of_executionOrder {order : List NodeId}
    (found : graph.executionOrder = .ok order) : graph.IsOrder order := by
  unfold executionOrder at found
  rcases graph.traverse_nodeIds with ⟨loop, isLoop, traversed⟩ | ⟨list, traversed, finished, all⟩
  · rw [traversed] at found
    cases found
  · rw [traversed] at found
    simp only [bind, Except.bind] at found
    split at found
    case h_1 => cases found
    case h_2 accepted =>
      cases found
      refine ⟨(List.perm_ext_iff_of_nodup finished.nodup List.nodup_range).2 all, ?_⟩
      intro before node after split input consumes
      rcases met_of_firstUnmet_eq_none accepted before node after split input consumes with
        rfl | early | early
      · subst split
        have suffix : graph.Finished (input :: after) := finished.of_append
        exact absurd (mem_inputs_iff_mem_dependents.1 consumes) suffix.2.1
      · exact early
      · cases early

/-- **An acyclic graph has an execution order, and it is found.** -/
theorem Acyclic.exists_executionOrder (acyclic : graph.Acyclic) :
    ∃ order, graph.executionOrder = .ok order ∧ graph.IsOrder order := by
  cases found : graph.executionOrder with
  | error cycle => exact absurd (onCycle_of_executionOrder found) (acyclic cycle.node)
  | ok order => exact ⟨order, rfl, isOrder_of_executionOrder found⟩

/-- **An error is reported exactly for a graph with a cycle.** -/
theorem exists_cycle_iff : (∃ cycle, graph.executionOrder = .error cycle) ↔ ¬ graph.Acyclic := by
  constructor
  · rintro ⟨cycle, found⟩ acyclic
    exact acyclic cycle.node (onCycle_of_executionOrder found)
  · intro cyclic
    cases found : graph.executionOrder with
    | error cycle => exact ⟨cycle, rfl⟩
    | ok order => exact absurd (isOrder_of_executionOrder found).acyclic cyclic

end ValueEngine.Graph
