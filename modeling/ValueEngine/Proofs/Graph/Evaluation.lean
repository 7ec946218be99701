import ValueEngine.Execution.Invocation
import ValueEngine.Proofs.Graph.Acyclic

/-!
# Evaluating a graph directly

A graph is evaluated directly by applying each node of an execution order to the
values of its inputs (`Graph.evaluate`). What this gives does not depend on the
order: the result is the only map that has a value for each node, namely what the
node yields on the values of its inputs in the same map (`Graph.Solves`). A graph
without such a map has a node that fails (`Graph.evaluate_spec`).

A job invokes its nodes in the same manner, but knows only the values that it was
given. When these are the values of its outer inputs, it finds the values that
solve the graph for its nodes, or a node that fails (`invokeAll_spec`).
-/

set_option autoImplicit false

namespace ValueEngine

universe u

variable {α : Type u}

namespace Graph

/-- The inputs of a node in ascending order. -/
def sortedInputs (graph : Graph) (position : NodeId) : List NodeId :=
  (SortedSet.ofList (graph.inputs position)).toList

/-- Evaluate nodes one after the other, each applied to the values of its inputs in
ascending order. There is no result when a node has no value. -/
def evaluate (graph : Graph) (invoker : Invoker α) (known : SortedMap NodeId α) :
    List NodeId → Option (SortedMap NodeId α)
  | [] => some known
  | position :: rest =>
    match graph.node? position, (graph.sortedInputs position).mapM known.get? with
    | some node, some arguments =>
      match invoker node arguments with
      | .value value => graph.evaluate invoker (known.insert position value) rest
      | _ => none
    | _, _ => none

/-- A node yields a value on the known values of its inputs. -/
def Yields (graph : Graph) (invoker : Invoker α) (known : SortedMap NodeId α)
    (position : NodeId) (value : α) : Prop :=
  ∃ node arguments, graph.node? position = some node ∧
    (graph.sortedInputs position).map known.get? = arguments.map some ∧
      invoker node arguments = .value value

/-- Every value is what its node yields on the other ones. -/
def Solves (graph : Graph) (invoker : Invoker α) (values : SortedMap NodeId α) : Prop :=
  ∀ position value, values.get? position = some value →
    graph.Yields invoker values position value

/-- Every node can be given a value that it yields on those of its inputs. -/
def Solvable (graph : Graph) (invoker : Invoker α) : Prop :=
  ∃ values, graph.Solves invoker values ∧
    ∀ position ∈ graph.nodeIds, ∃ value, values.get? position = some value

variable {graph : Graph} {invoker : Invoker α} {known other values : SortedMap NodeId α}
  {position : NodeId} {value : α}

theorem mem_sortedInputs {input : NodeId} :
    input ∈ graph.sortedInputs position ↔ input ∈ graph.inputs position :=
  SortedSet.mem_toList.trans SortedSet.mem_ofList

theorem exists_node (member : position ∈ graph.nodeIds) :
    ∃ node, graph.node? position = some node :=
  ⟨_, List.getElem?_eq_getElem (mem_nodeIds.1 member)⟩

/-- Values that are all known make a list of arguments. -/
theorem exists_arguments (supplied : ∀ input ∈ graph.inputs position,
    ∃ value, known.get? input = some value) :
    ∃ arguments : List α, (graph.sortedInputs position).map known.get? = arguments.map some := by
  have listed : ∀ input ∈ graph.sortedInputs position, ∃ value, known.get? input = some value :=
    fun input member => supplied input (mem_sortedInputs.1 member)
  generalize graph.sortedInputs position = inputs at listed
  induction inputs with
  | nil => exact ⟨[], rfl⟩
  | cons input rest ih =>
    obtain ⟨value, found⟩ := listed input List.mem_cons_self
    obtain ⟨arguments, same⟩ := ih fun input member => listed input (List.mem_cons_of_mem _ member)
    exact ⟨value :: arguments, by rw [List.map_cons, List.map_cons, found, same]⟩

theorem exists_of_supplied {inputs : List NodeId} {arguments : List α}
    (supplied : inputs.map known.get? = arguments.map some) {input : NodeId}
    (member : input ∈ inputs) : ∃ argument, known.get? input = some argument := by
  have listed : known.get? input ∈ arguments.map some := supplied ▸ List.mem_map_of_mem member
  obtain ⟨argument, _, same⟩ := List.mem_map.1 listed
  exact ⟨argument, same.symm⟩

/-! ## What a node yields -/

namespace Yields

theorem mem_nodeIds (yields : graph.Yields invoker known position value) :
    position ∈ graph.nodeIds := by
  obtain ⟨node, _, found, _⟩ := yields
  exact Graph.mem_nodeIds.2 (List.getElem?_eq_some_iff.1 found).1

/-- A node that yields a value has inputs with known values. -/
theorem exists_of_mem_inputs (yields : graph.Yields invoker known position value)
    {input : NodeId} (consumes : input ∈ graph.inputs position) :
    ∃ argument, known.get? input = some argument := by
  obtain ⟨_, _, _, supplied, _⟩ := yields
  exact exists_of_supplied supplied (mem_sortedInputs.2 consumes)

/-- What a node yields depends on the values of its inputs only. -/
theorem congr (yields : graph.Yields invoker known position value)
    (same : ∀ input ∈ graph.inputs position, known.get? input = other.get? input) :
    graph.Yields invoker other position value := by
  obtain ⟨node, arguments, found, supplied, invoked⟩ := yields
  refine ⟨node, arguments, found, ?_, invoked⟩
  rw [← supplied]
  exact List.map_congr_left fun input member => (same input (mem_sortedInputs.1 member)).symm

theorem unique {second : α} (yields : graph.Yields invoker known position value)
    (again : graph.Yields invoker known position second) : value = second := by
  obtain ⟨node, arguments, found, supplied, invoked⟩ := yields
  obtain ⟨_, others, foundAgain, suppliedAgain, invokedAgain⟩ := again
  cases found.symm.trans foundAgain
  have arguments_eq : arguments = others :=
    List.map_injective_iff.2 (fun _ _ => Option.some.inj) (supplied.symm.trans suppliedAgain)
  rw [arguments_eq] at invoked
  exact Invocation.value.inj (invoked.symm.trans invokedAgain)

end Yields

/-! ## Solutions -/

namespace Solves

/-- A new value that its node yields can be added. -/
theorem insert (solves : graph.Solves invoker values)
    (yields : graph.Yields invoker values position value)
    (fresh : values.get? position = none) :
    graph.Solves invoker (values.insert position value) := by
  intro target result found
  have kept : ∀ {node : NodeId} {known : α}, graph.Yields invoker values node known →
      graph.Yields invoker (values.insert position value) node known := by
    intro node known yields
    refine yields.congr fun input consumes => ?_
    obtain ⟨argument, found⟩ := yields.exists_of_mem_inputs consumes
    rw [SortedMap.get?_insert, if_neg]
    rintro rfl
    rw [fresh] at found
    cases found
  rw [SortedMap.get?_insert] at found
  split at found
  · rename_i same
    cases found
    exact same ▸ kept yields
  · exact kept (solves target result found)

/-- **Solutions agree.** -/
theorem agree {order : List NodeId} (isOrder : graph.IsOrder order)
    (solves : graph.Solves invoker values) (solvesToo : graph.Solves invoker other)
    {first second : α} (found : values.get? position = some first)
    (foundToo : other.get? position = some second) : first = second := by
  induction place : order.idxOf position using Nat.strongRecOn
    generalizing position first second with
  | ind place ih =>
    have yields := solves position first found
    have yieldsToo := solvesToo position second foundToo
    have member := isOrder.mem_iff.2 yields.mem_nodeIds
    refine (yields.congr fun input consumes => ?_).unique yieldsToo
    obtain ⟨argument, known⟩ := yields.exists_of_mem_inputs consumes
    obtain ⟨argumentToo, knownToo⟩ := yieldsToo.exists_of_mem_inputs consumes
    have earlier := isOrder.idxOf_lt member consumes
    rw [known, knownToo, ih _ (place ▸ earlier) known knownToo rfl]

end Solves

/-! ## Direct evaluation -/

theorem mapM_eq_some {inputs : List NodeId} {arguments : List α}
    (supplied : inputs.map known.get? = arguments.map some) :
    inputs.mapM known.get? = some arguments := by
  induction inputs generalizing arguments with
  | nil =>
    cases arguments with
    | nil => rfl
    | cons _ _ => cases supplied
  | cons input rest ih =>
    cases arguments with
    | nil => cases supplied
    | cons value others =>
      rw [List.map_cons, List.map_cons] at supplied
      obtain ⟨found, further⟩ := List.cons.inj supplied
      rw [List.mapM_cons, found, ih further]
      rfl

/-- A node that has no value on the right values of its inputs leaves the graph
without a solution. -/
theorem not_solvable {order : List NodeId} (isOrder : graph.IsOrder order)
    (solves : graph.Solves invoker values) {node : Node} {arguments : List α}
    (member : position ∈ graph.nodeIds) (found : graph.node? position = some node)
    (supplied : (graph.sortedInputs position).map values.get? = arguments.map some)
    (failed : ∀ value, invoker node arguments ≠ .value value) : ¬ graph.Solvable invoker := by
  rintro ⟨whole, wholeSolves, total⟩
  obtain ⟨value, inWhole⟩ := total position member
  obtain ⟨_, others, foundToo, suppliedToo, invoked⟩ := wholeSolves position value inWhole
  cases found.symm.trans foundToo
  have arguments_eq : others = arguments := by
    refine List.map_injective_iff.2 (fun _ _ => Option.some.inj)
      (suppliedToo.symm.trans (Eq.trans ?_ supplied))
    refine List.map_congr_left fun input listed => ?_
    obtain ⟨argument, inWhole⟩ := exists_of_supplied suppliedToo listed
    obtain ⟨known, inValues⟩ := exists_of_supplied supplied listed
    rw [inWhole, inValues, wholeSolves.agree isOrder solves inWhole inValues]
  exact failed value (arguments_eq ▸ invoked)

/-- **Direct evaluation finds the solution for the nodes of an order, or there is
none.** -/
theorem evaluate_spec {order before rest : List NodeId} (isOrder : graph.IsOrder order)
    (split : order = before ++ rest) (solves : graph.Solves invoker known)
    (domain : ∀ node, (∃ value, known.get? node = some value) ↔ node ∈ before) :
    (∃ result, graph.evaluate invoker known rest = some result ∧ graph.Solves invoker result ∧
        ∀ node, (∃ value, result.get? node = some value) ↔ node ∈ graph.nodeIds) ∨
      graph.evaluate invoker known rest = none ∧ ¬ graph.Solvable invoker := by
  induction rest generalizing before known with
  | nil =>
    refine Or.inl ⟨known, rfl, solves, fun node => ?_⟩
    rw [domain, ← isOrder.mem_iff, split, List.append_nil]
  | cons position rest ih =>
    have member : position ∈ order := split ▸ List.mem_append_right _ List.mem_cons_self
    obtain ⟨node, found⟩ := exists_node (isOrder.mem_iff.1 member)
    obtain ⟨arguments, supplied⟩ : ∃ arguments : List α,
        (graph.sortedInputs position).map known.get? = arguments.map some :=
      exists_arguments fun input consumes =>
        (domain input).2 (isOrder.inputs_before before position rest split input consumes)
    rw [evaluate, found, mapM_eq_some supplied]
    dsimp only
    cases invoked : invoker node arguments with
    | value value =>
      have nodup := isOrder.nodup
      rw [split, List.nodup_append] at nodup
      have fresh : known.get? position = none := by
        by_contra present
        obtain ⟨old, present⟩ := Option.ne_none_iff_exists'.1 present
        exact nodup.2.2 position ((domain position).1 ⟨old, present⟩) position
          List.mem_cons_self rfl
      refine ih (split.trans (List.append_cons before position rest))
        (solves.insert ⟨node, arguments, found, supplied, invoked⟩ fresh) fun other => ?_
      rw [SortedMap.get?_insert, List.mem_append, List.mem_singleton, ← domain]
      split
      · rename_i same
        exact iff_of_true ⟨value, rfl⟩ (Or.inr same.symm)
      · rename_i differs
        exact (or_iff_left (Ne.symm differs)).symm
    | failure cause =>
      exact Or.inr ⟨rfl, not_solvable isOrder solves (isOrder.mem_iff.1 member) found supplied
        fun value same => by rw [invoked] at same; cases same⟩
    | crash message =>
      exact Or.inr ⟨rfl, not_solvable isOrder solves (isOrder.mem_iff.1 member) found supplied
        fun value same => by rw [invoked] at same; cases same⟩

/-- Direct evaluation in an execution order finds the solution, or there is none. -/
theorem evaluate_eq {order : List NodeId} (isOrder : graph.IsOrder order) :
    (∃ result, graph.evaluate invoker ∅ order = some result ∧ graph.Solves invoker result ∧
        ∀ node, (∃ value, result.get? node = some value) ↔ node ∈ graph.nodeIds) ∨
      graph.evaluate invoker ∅ order = none ∧ ¬ graph.Solvable invoker :=
  evaluate_spec isOrder (List.nil_append order).symm nofun
    fun _ => iff_of_false nofun List.not_mem_nil

/-- Two solutions with values for the same nodes are equal. -/
theorem Solves.eq {order : List NodeId} (isOrder : graph.IsOrder order)
    (solves : graph.Solves invoker values) (solvesToo : graph.Solves invoker other)
    (domain : ∀ node, (∃ value, values.get? node = some value) ↔
      ∃ value, other.get? node = some value) : values = other := by
  refine SortedMap.ext_get? fun node => ?_
  cases found : values.get? node with
  | some value =>
    obtain ⟨second, foundToo⟩ := (domain node).1 ⟨value, found⟩
    rw [foundToo, solves.agree isOrder solvesToo found foundToo]
  | none =>
    cases foundToo : other.get? node with
    | none => rfl
    | some second =>
      obtain ⟨value, present⟩ := (domain node).2 ⟨second, foundToo⟩
      rw [found] at present
      cases present

end Graph

/-! ## Running a job -/

section Job

variable {graph : Graph} {invoker : Invoker α} {known values : SortedMap NodeId α}

theorem inputValues_eq {position : NodeId} {node : Node} {arguments : List α}
    (supplied : (graph.sortedInputs position).map known.get? = arguments.map some) :
    inputValues graph known node position = .ok arguments := by
  unfold inputValues
  change (graph.sortedInputs position).map known.get? = _ at supplied
  change (graph.sortedInputs position).mapM _ = _
  generalize graph.sortedInputs position = inputs at supplied
  induction inputs generalizing arguments with
  | nil =>
    cases arguments with
    | nil => rfl
    | cons _ _ => cases supplied
  | cons input rest ih =>
    cases arguments with
    | nil => cases supplied
    | cons value others =>
      rw [List.map_cons, List.map_cons] at supplied
      obtain ⟨found, further⟩ := List.cons.inj supplied
      rw [List.mapM_cons, found, ih further]
      rfl

/-- Texts that start with different letters are different. -/
theorem text_ne {first second : String} (rest others : String)
    (differs : first.toList.head? ≠ second.toList.head?) (nonempty : first.toList ≠ [])
    (nonemptyToo : second.toList ≠ []) : first ++ rest ≠ second ++ others := by
  intro same
  have heads := congrArg (fun text => text.toList.head?) same
  simp only [String.toList_append] at heads
  rw [List.head?_append_of_ne_nil _ nonempty, List.head?_append_of_ne_nil _ nonemptyToo] at heads
  exact differs heads

/-- A failure to execute does not look like a missing value. -/
theorem wrap_ne_missingCause (cause : Cause) (text : String) (input node : Node) :
    cause.wrap ("Failed to execute " ++ text) ≠ missingCause input node := by
  intro same
  unfold missingCause Cause.wrap at same
  injection same with texts
  rw [String.append_assoc, String.append_assoc] at texts
  exact text_ne text _ (by decide) (by decide) (by decide) texts

/-- A crash does not look like a missing value. -/
theorem crashCause_ne_missingCause (message : Option String) (input node : Node) :
    crashCause message ≠ missingCause input node := by
  intro same
  unfold missingCause at same
  cases message with
  | none =>
    injection same with texts
    rw [String.append_assoc, String.append_assoc] at texts
    have heads := congrArg (fun text => text.toList.head?) texts
    simp at heads
  | some text =>
    injection same with texts
    rw [String.append_assoc, String.append_assoc] at texts
    exact text_ne text _ (by decide) (by decide) (by decide) texts

/-- What is known is enough to invoke some nodes in order, and it agrees with
`values`, the values of the whole graph so far. -/
structure Supplied (graph : Graph) (known values : SortedMap NodeId α) (nodes : List NodeId) :
    Prop where
  members : ∀ node ∈ nodes, node ∈ graph.nodeIds
  nodup : nodes.Nodup
  inputs : ∀ before node after, nodes = before ++ node :: after →
    ∀ input ∈ graph.inputs node, input ∈ before ∨ ∃ value, known.get? input = some value
  agrees : ∀ node value, known.get? node = some value → values.get? node = some value
  fresh : ∀ node ∈ nodes, values.get? node = none

/-- When the first node has been invoked, there is enough for the others. -/
theorem Supplied.tail {position : NodeId} {rest : List NodeId}
    (supplied : Supplied graph known values (position :: rest)) (value : α) :
    Supplied graph (known.insert position value) (values.insert position value) rest where
  members node member := supplied.members node (List.mem_cons_of_mem _ member)
  nodup := (List.nodup_cons.1 supplied.nodup).2
  inputs before node after split input consumes := by
    have earlier := supplied.inputs (position :: before) node after (congrArg _ split) input consumes
    rw [SortedMap.get?_insert]
    rcases earlier with early | present
    · rcases List.mem_cons.1 early with rfl | early
      · exact Or.inr ⟨value, if_pos rfl⟩
      · exact Or.inl early
    · refine Or.inr ?_
      split
      · exact ⟨value, rfl⟩
      · exact present
  agrees node result := by
    rw [SortedMap.get?_insert, SortedMap.get?_insert]
    split
    · exact fun present => present
    · exact supplied.agrees node result
  fresh node member := by
    rw [SortedMap.get?_insert, if_neg]
    · exact supplied.fresh node (List.mem_cons_of_mem _ member)
    · rintro rfl
      exact (List.nodup_cons.1 supplied.nodup).1 member

/-- **A job that has the values of its outer inputs finds values that solve the graph, or
a node that fails.** Its own values are put on top of those of the whole graph. -/
theorem invokeAll_spec {order nodes : List NodeId} (isOrder : graph.IsOrder order)
    (supplied : Supplied graph known values nodes) (solves : graph.Solves invoker values) :
    (∃ outputs, invokeAll graph invoker known nodes = .ok outputs ∧
        outputs.map Prod.fst = nodes ∧ graph.Solves invoker (values.insertAll outputs)) ∨
      ∃ cause, invokeAll graph invoker known nodes = .error cause ∧
        ¬ graph.Solvable invoker ∧ ∀ input node, cause ≠ missingCause input node := by
  induction nodes generalizing known values with
  | nil => exact Or.inl ⟨[], rfl, rfl, solves⟩
  | cons position rest ih =>
    have member := supplied.members position List.mem_cons_self
    obtain ⟨node, found⟩ := Graph.exists_node member
    obtain ⟨arguments, arguments_eq⟩ : ∃ arguments : List α,
        (graph.sortedInputs position).map known.get? = arguments.map some :=
      Graph.exists_arguments fun input consumes =>
        (supplied.inputs [] position rest rfl input consumes).resolve_left List.not_mem_nil
    have inValues : (graph.sortedInputs position).map values.get? = arguments.map some := by
      rw [← arguments_eq]
      refine List.map_congr_left fun input listed => ?_
      obtain ⟨argument, present⟩ := Graph.exists_of_supplied arguments_eq listed
      rw [present, supplied.agrees input argument present]
    rw [invokeAll, invokeNode, found, inputValues_eq arguments_eq]
    simp only [Option.getD_some, bind, Except.bind]
    cases invoked : invoker node arguments with
    | value value =>
      dsimp only
      have solved : graph.Solves invoker (values.insert position value) :=
        solves.insert ⟨node, arguments, found, inValues, invoked⟩
          (supplied.fresh position List.mem_cons_self)
      rcases ih (supplied.tail value) solved with
        ⟨outputs, same, positions, finished⟩ | ⟨cause, same, unsolvable, present⟩
      · exact Or.inl ⟨(position, value) :: outputs, by rw [same]; rfl,
          congrArg (position :: ·) positions, finished⟩
      · exact Or.inr ⟨cause, by rw [same], unsolvable, present⟩
    | failure cause =>
      refine Or.inr ⟨_, rfl, ?_, wrap_ne_missingCause cause _⟩
      exact Graph.not_solvable isOrder solves member found inValues
        fun value same => by rw [invoked] at same; cases same
    | crash message =>
      refine Or.inr ⟨_, rfl, ?_, crashCause_ne_missingCause message⟩
      exact Graph.not_solvable isOrder solves member found inValues
        fun value same => by rw [invoked] at same; cases same

end Job

end ValueEngine
