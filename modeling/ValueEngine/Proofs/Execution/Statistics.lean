import ValueEngine.Proofs.Execution.Containment
import ValueEngine.Proofs.Execution.Settlement
import ValueEngine.Proofs.Plan.Cycles

/-!
# What the statistics of an engine tell

An engine executes any number of orders, one within the calls of another as the dispatcher likes,
and all of them share one set of statistics (`Engine.History`). Every execution that it stores is
that of the order with the same number: it has been refused for a cycle, or its run is at a turn
of a history of its own (`Order.Executes`).

A run that is settled with values is settled as long as it lasts, so it is written down in the
statistics once, at the turn at which this happens. The time of a fragment runs from its launch,
before the dispatcher gets the job, and is taken when the fragment succeeds; so by the time there
are values it has been taken of all fragments (`Run.History.timed`). The statistics list the plans
of the orders without a cycle, and the graphs of the executions that have values, each once
(`Engine.History.accounted`).
-/

set_option autoImplicit false

namespace ValueEngine

universe u

variable {α : Type u}

/-! ## What a run has timed -/

namespace Run

variable {graph : Graph} {plan : Plan} {happened : List (Happening α)} {run after : Run α}

/-- What a run for a graph knows of times: they run for what is outstanding, and have been taken
of what has completed. -/
structure Timed (graph : Graph) (run : Run α) : Prop where
  graph_eq : run.graph = graph
  running : ∀ id ∈ run.outstanding, id ∈ run.running
  timed_iff : ∀ id, id ∈ run.gathered.timed ↔ id ∈ run.completed

theorem Timed.worked {job : Option (Job α)} (timed : Timed graph run)
    (worked : run.Worked after job) : Timed graph after where
  graph_eq := worked.graph_eq.trans timed.graph_eq
  running id outstanding := (worked.running id).2
    (((worked.outstanding id).1 outstanding).imp_left (timed.running id))
  timed_iff id := by
    rw [worked.gathered_eq, worked.completed_eq]
    exact timed.timed_iff id

/-- The time of a fragment that succeeds is running, so that it is taken. -/
theorem Timed.received {job : Job α} (timed : Timed graph run)
    (awaited : Awaited happened run job) (outputs : List (NodeId × α)) :
    Timed graph (run.received job.fragment outputs) where
  graph_eq := timed.graph_eq
  running id outstanding := by
    obtain ⟨still, differs⟩ := SortedSet.mem_erase.1 outstanding
    exact SortedSet.mem_erase.2 ⟨timed.running id still, differs⟩
  timed_iff id := by
    rw [awaited.unvalued.gathered_received, if_pos (timed.running _ awaited.outstanding)]
    exact SortedSet.mem_insert.trans
      ((or_congr_right (timed.timed_iff id)).trans SortedSet.mem_insert.symm)

theorem Timed.failed {id : FragmentId} {reached : List FragmentId} (timed : Timed graph run)
    (marked : Marked { run with outstanding := run.outstanding.erase id } after reached) :
    Timed graph after where
  graph_eq := marked.graph_eq.trans timed.graph_eq
  running other outstanding := by
    rw [marked.outstanding_eq] at outstanding
    rw [marked.running_eq]
    exact timed.running other (SortedSet.mem_erase.1 outstanding).1
  timed_iff other := by
    have gathered_eq : after.gathered = run.gathered := marked.gathered_eq
    rw [gathered_eq, marked.completed_eq]
    exact timed.timed_iff other

/-- At every turn of a history the run knows its times. -/
theorem History.exists_timed {turn : RunTurn α} (sound : plan.layout.Sound graph)
    (history : (ofPlan graph plan).History happened turn) :
    ∃ run, turn.run? = some run ∧ run.Books run.agenda.flatten ∧ Recorded plan happened run ∧
      Timed graph run := by
  refine History.invariant (motive := fun _ run => Timed graph run) sound ?first
    (fun _ timed work => timed.worked work)
    (fun _ timed awaited => timed.received awaited _)
    (fun _ timed _ _ marked => timed.failed marked) history
  case first =>
    exact ⟨rfl, fun id outstanding => absurd outstanding (SortedSet.not_mem_empty id),
      fun id => Iff.rfl⟩

/-- **The values of a run time the fragments of its plan, each of them.** -/
theorem History.timed {turn : RunTurn α} (sound : plan.layout.Sound graph)
    (history : (ofPlan graph plan).History happened turn) (running : turn.run? = some run)
    {values : GraphValues α} (done : run.outcome = some (.ok values)) (id : FragmentId) :
    id ∈ values.timed ↔ id ∈ plan.layout.ids := by
  obtain ⟨_, same, books, recorded, timed⟩ := history.exists_timed sound
  cases running.symm.trans same
  obtain rfl := recorded.plan_eq
  rw [← gathered_of_values done, timed.timed_iff, Layout.mem_ids_iff]
  constructor
  · intro completed
    exact books.exists_fragment_of_launched (books.launched_of_completed completed)
      (books.completed_mem id completed)
  · rintro ⟨fragment, member, rfl⟩
    exact books.completed_of_values sound done member

end Run

/-! ## Orders and executions -/

/-- What an engine is asked to execute. -/
structure Order where
  /-- The graph. -/
  graph : Graph
  /-- What its nodes cost. -/
  cost : Node → Cost
  /-- The bounds of its fragments. -/
  sizing : Sizing

namespace Order

/-- The plan of an order, unless its graph has a cycle. -/
def plan (order : Order) : Except Cycle Plan :=
  Plan.ofGraph order.graph order.cost order.sizing

/-- What is recorded of the plan. -/
def figures? (order : Order) : Option PlanFigures :=
  order.plan.toOption.map fun plan => plan.figures order.graph.configuration

theorem acyclic_iff {order : Order} : order.graph.Acyclic ↔ ∃ plan, order.plan = .ok plan := by
  constructor
  · intro acyclic
    obtain ⟨plan, planned, _⟩ := acyclic.exists_plan order.cost order.sizing
    exact ⟨plan, planned⟩
  · rintro ⟨plan, planned⟩
    by_contra cyclic
    obtain ⟨cycle, refused⟩ := Graph.exists_cycle_iff.2 cyclic
    cases planned.symm.trans (Graph.ofGraph_eq_error_iff.2 refused)

theorem settled_of_plan {order : Order} {plan : Plan} (planned : order.plan = .ok plan) :
    plan.layout.Settled order.graph := by
  obtain ⟨other, found, settled⟩ :=
    (acyclic_iff.2 ⟨plan, planned⟩).exists_plan order.cost order.sizing
  cases planned.symm.trans found
  exact settled

/-- An execution is one of an order: it was refused, or its run has a history. -/
inductive Executes (order : Order) : Execution α → Prop where
  | refused {cycle : Cycle} {taken : Bool} (refused : order.plan = .error cycle) :
      Executes order ⟨.error cycle, taken⟩
  | running {plan : Plan} {happened : List (Happening α)} {turn : RunTurn α} {run : Run α}
      {taken : Bool} (planned : order.plan = .ok plan)
      (history : (Run.ofPlan order.graph plan).History happened turn)
      (running : turn.run? = some run) : Executes order ⟨.ok run, taken⟩

/-- It does not matter whether the outcome has been taken. -/
theorem Executes.withTaken {order : Order} {execution : Execution α}
    (executes : order.Executes execution) (taken : Bool) :
    order.Executes { execution with taken := taken } := by
  cases executes with
  | refused refused => exact .refused refused
  | running planned history running => exact .running planned history running

end Order

/-- The values of an execution, once it has them. -/
def Execution.values? (execution : Execution α) : Option (GraphValues α) :=
  execution.outcome?.bind Except.toOption

theorem Execution.values?_run (run : Run α) (taken : Bool) :
    values? ⟨.ok run, taken⟩ = run.outcome.bind Except.toOption := by
  have outcome_eq : outcome? ⟨.ok run, taken⟩ = run.answer? := rfl
  rw [values?, outcome_eq]
  unfold Run.answer?
  split
  · rename_i settled
    rw [settled]
  · rename_i unsettled
    rw [unsettled]
    split <;> rfl

/-- The engine of a turn, unless the books of an execution are wrong. -/
def EngineTurn.engine? : EngineTurn α → Option (Engine α)
  | launched _ _ _ engine => some engine
  | returned engine => some engine
  | fault _ _ => none

namespace Engine

/-- The values of the execution with a number. -/
def values? (engine : Engine α) (id : ExecutionId) : Option (GraphValues α) :=
  (engine.executions.get? id).bind Execution.values?

/-- The histories of an engine that is asked to execute some orders. At any turn it may get one
more order, or a report on an outstanding job; the dispatcher may return from the innermost
launch; or somebody may ask for an outcome. -/
inductive History : List Order → EngineTurn α → Prop where
  | start : History [] (.returned {})
  | execute {orders : List Order} {turn : EngineTurn α} {engine : Engine α} (order : Order)
      (before : History orders turn) (running : turn.engine? = some engine) :
      History (orders ++ [order]) (engine.execute order.graph order.cost order.sizing)
  | report {orders : List Order} {turn next : EngineTurn α} {engine : Engine α} {number : Nat}
      {report : Report α} (before : History orders turn) (running : turn.engine? = some engine)
      (accepted : engine.report number report = some next) : History orders next
  | resume {orders : List Order} {turn : EngineTurn α} {engine : Engine α}
      (before : History orders turn) (running : turn.engine? = some engine) :
      History orders engine.resume
  | tryOutcome {orders : List Order} {turn : EngineTurn α} {engine : Engine α} (id : ExecutionId)
      (before : History orders turn) (running : turn.engine? = some engine) :
      History orders (.returned (engine.tryOutcome id).2)
  | awaitOutcome {orders : List Order} {turn : EngineTurn α} {engine : Engine α}
      (id : ExecutionId) (before : History orders turn) (running : turn.engine? = some engine) :
      History orders (.returned (engine.awaitOutcome id).2)

/-- What there is to record of the executions that have values, in the order of their numbers:
the configuration of each graph and how many nodes it has. -/
def executedOf (orders : List Order) (values? : ExecutionId → Option (GraphValues α)) :
    List ExecutionFigures :=
  orders.zipIdx.filterMap fun entry => (values? entry.2).map fun _ =>
    { configuration := entry.1.graph.configuration, nodes := entry.1.graph.nodes.length }

section Executed

/-- When one element of a list comes to have an image, this is one image more. -/
theorem filterMap_perm_of_changed {β γ κ : Type u} {key : β → κ} {list : List β}
    (nodup : (list.map key).Nodup) {item : β} (listed : item ∈ list) {before after : β → Option γ}
    {image : γ} (imageless : before item = none) (changed : after item = some image)
    (same : ∀ other, key other ≠ key item → after other = before other) :
    (list.filterMap after).Perm (list.filterMap before ++ [image]) := by
  obtain ⟨front, back, rfl⟩ := List.append_of_mem listed
  rw [List.map_append, List.map_cons, List.nodup_middle, ← List.map_append] at nodup
  have others : ∀ other ∈ front ++ back, after other = before other := fun other member =>
    same other fun equal => (List.nodup_cons.1 nodup).1 (equal ▸ List.mem_map_of_mem member)
  have front_eq : front.filterMap after = front.filterMap before :=
    List.filterMap_congr fun other member => others other (List.mem_append_left _ member)
  have back_eq : back.filterMap after = back.filterMap before :=
    List.filterMap_congr fun other member => others other (List.mem_append_right _ member)
  rw [List.filterMap_append, List.filterMap_append, List.filterMap_cons_some changed,
    List.filterMap_cons_none imageless, front_eq, back_eq]
  exact List.perm_middle.trans (List.perm_append_singleton _ _).symm

variable {orders : List Order} {order : Order} {id : ExecutionId}
  {before after : ExecutionId → Option (GraphValues α)}

/-- One more execution with values is one more entry. -/
theorem executedOf_perm (placed : orders[id]? = some order) (valueless : before id = none)
    {values : GraphValues α} (valued : after id = some values)
    (same : ∀ other, other ≠ id → after other = before other) :
    (executedOf orders after).Perm (executedOf orders before ++
      [{ configuration := order.graph.configuration, nodes := order.graph.nodes.length }]) := by
  have listed : (order, id) ∈ orders.zipIdx := List.mem_zipIdx_iff_getElem?.2 placed
  have ids_nodup : (orders.zipIdx.map Prod.snd).Nodup := by
    rw [List.zipIdx_map_snd]
    exact List.nodup_range'
  refine filterMap_perm_of_changed ids_nodup listed ?_ ?_ fun other differs => ?_
  · rw [valueless, Option.map_none]
  · rw [valued, Option.map_some]
  · rw [same other.2 differs]

/-- The figures of a graph are its configuration and the number of its nodes. -/
theorem figures_eq (graph : Graph) : graph.figures =
    { configuration := graph.configuration, nodes := graph.nodes.length } := rfl

/-- An order that is not executed adds no entry. -/
theorem executedOf_concat (valueless : before orders.length = none) :
    executedOf (orders ++ [order]) before = executedOf orders before := by
  unfold executedOf
  rw [List.zipIdx_append, List.filterMap_append]
  simp [valueless]

end Executed

/-! ## The ledger -/

/-- What an engine has stored and recorded of some orders. -/
structure Ledger (orders : List Order) (engine : Engine α) : Prop where
  next_eq : engine.nextExecution = orders.length
  /-- Every execution is that of the order with its number. -/
  stored : ∀ id execution, engine.executions.get? id = some execution →
    ∃ order, orders[id]? = some order ∧ order.Executes execution
  processed : engine.statistics.processed = orders.filterMap Order.figures?
  executed : engine.statistics.executed.Perm (executedOf orders engine.values?)

namespace Ledger

variable {orders : List Order} {order : Order} {engine next : Engine α} {id : ExecutionId}
  {execution : Execution α}

/-- Jobs and interrupted calls are not in the ledger. -/
theorem congr (ledger : Ledger orders engine) (next_eq : next.nextExecution = engine.nextExecution)
    (executions_eq : next.executions = engine.executions)
    (statistics_eq : next.statistics = engine.statistics) : Ledger orders next := by
  have values_eq : next.values? = engine.values? := by
    funext id
    rw [values?, executions_eq]
    rfl
  refine ⟨next_eq.trans ledger.next_eq, ?_, ?_, ?_⟩
  · rw [executions_eq]
    exact ledger.stored
  · rw [statistics_eq]
    exact ledger.processed
  · rw [statistics_eq, values_eq]
    exact ledger.executed

theorem values?_insert (executions_eq : next.executions = engine.executions.insert id execution)
    (other : ExecutionId) :
    next.values? other = if id = other then execution.values? else engine.values? other := by
  rw [values?, executions_eq, SortedMap.get?_insert]
  split <;> rfl

theorem stored_insert (ledger : Ledger orders engine)
    (executions_eq : next.executions = engine.executions.insert id execution)
    (placed : orders[id]? = some order) (executes : order.Executes execution) :
    ∀ other kept, next.executions.get? other = some kept →
      ∃ order, orders[other]? = some order ∧ order.Executes kept := by
  intro other kept found
  rw [executions_eq, SortedMap.get?_insert] at found
  split at found
  · rename_i same
    cases found
    exact ⟨order, same ▸ placed, executes⟩
  · exact ledger.stored other kept found

/-- An execution may change as long as it has the same values. -/
theorem replace (ledger : Ledger orders engine) (next_eq : next.nextExecution = engine.nextExecution)
    (executions_eq : next.executions = engine.executions.insert id execution)
    (statistics_eq : next.statistics = engine.statistics) (placed : orders[id]? = some order)
    (executes : order.Executes execution) (same : execution.values? = engine.values? id) :
    Ledger orders next := by
  have values_eq : next.values? = engine.values? := by
    funext other
    rw [values?_insert executions_eq]
    split
    · rename_i equal
      rw [same, equal]
    · rfl
  refine ⟨next_eq.trans ledger.next_eq, ledger.stored_insert executions_eq placed executes, ?_, ?_⟩
  · rw [statistics_eq]
    exact ledger.processed
  · rw [statistics_eq, values_eq]
    exact ledger.executed

/-- An execution that gets values is recorded. -/
theorem record (ledger : Ledger orders engine) (next_eq : next.nextExecution = engine.nextExecution)
    (executions_eq : next.executions = engine.executions.insert id execution)
    (statistics_eq : next.statistics = engine.statistics.recordExecution order.graph.figures)
    (placed : orders[id]? = some order) (executes : order.Executes execution)
    (valueless : engine.values? id = none) {values : GraphValues α}
    (valued : execution.values? = some values) : Ledger orders next := by
  refine ⟨next_eq.trans ledger.next_eq, ledger.stored_insert executions_eq placed executes, ?_, ?_⟩
  · rw [statistics_eq]
    exact ledger.processed
  · rw [statistics_eq, figures_eq]
    refine (ledger.executed.append_right _).trans (List.Perm.symm ?_)
    have stored : next.values? id = some values := by
      rw [values?_insert executions_eq, if_pos rfl, valued]
    refine executedOf_perm placed valueless stored fun other differs => ?_
    rw [values?_insert executions_eq, if_neg (Ne.symm differs)]

/-- The next order has not been executed. -/
theorem absent (ledger : Ledger orders engine) :
    engine.executions.get? orders.length = none := by
  cases found : engine.executions.get? orders.length with
  | none => rfl
  | some execution =>
    obtain ⟨order, placed, _⟩ := ledger.stored _ _ found
    simp at placed

/-- One more order gets its number, and its plan is recorded if there is one. -/
theorem enter (ledger : Ledger orders engine) (order : Order)
    (next_eq : next.nextExecution = engine.nextExecution + 1)
    (executions_eq : next.executions = engine.executions)
    (processed_eq : next.statistics.processed =
      engine.statistics.processed ++ order.figures?.toList)
    (executed_eq : next.statistics.executed = engine.statistics.executed) :
    Ledger (orders ++ [order]) next := by
  have values_eq : next.values? = engine.values? := by
    funext id
    rw [values?, executions_eq]
    rfl
  refine ⟨?_, fun id execution found => ?_, ?_, ?_⟩
  · rw [next_eq, ledger.next_eq, List.length_append, List.length_singleton]
  · rw [executions_eq] at found
    obtain ⟨kept, placed, executes⟩ := ledger.stored id execution found
    refine ⟨kept, ?_, executes⟩
    rw [List.getElem?_append_left (List.getElem?_eq_some_iff.1 placed).1]
    exact placed
  · rw [processed_eq, ledger.processed, List.filterMap_append]
    refine congrArg _ ?_
    cases planned : order.figures? with
    | none => rw [List.filterMap_cons_none planned, List.filterMap_nil, Option.toList_none]
    | some figures => rw [List.filterMap_cons_some planned, List.filterMap_nil, Option.toList_some]
  · rw [executed_eq, values_eq, executedOf_concat]
    · exact ledger.executed
    · rw [values?, ledger.absent]
      rfl

end Ledger

/-! ## Turns -/

/-- All orders have been taken up. -/
def Full (orders : List Order) (engine : Engine α) : Prop :=
  ∀ id < orders.length, ∃ execution, engine.executions.get? id = some execution

theorem Full.insert {orders : List Order} {engine next : Engine α} {id : ExecutionId}
    {execution : Execution α} (full : ∀ other < orders.length, other ≠ id →
      ∃ kept, engine.executions.get? other = some kept)
    (executions_eq : next.executions = engine.executions.insert id execution) :
    Full orders next := by
  intro other known
  rw [executions_eq, SortedMap.get?_insert]
  split
  · exact ⟨execution, rfl⟩
  · rename_i differs
    exact full other known (Ne.symm differs)

variable {orders : List Order} {order : Order} {engine : Engine α} {id : ExecutionId}
  {plan : Plan} {happened : List (Happening α)} {turn : RunTurn α} {before after : Run α}

/-- What the engine writes down of a run. -/
theorem putRun_statistics (engine : Engine α) (id : ExecutionId) (before after : Run α) :
    (before.outcome = none ∧ ∃ values, after.outcome = some (.ok values) ∧
        (engine.putRun id before after).statistics =
          engine.statistics.recordExecution after.graph.figures) ∨
      ((before.outcome ≠ none ∨ ∀ values, after.outcome ≠ some (.ok values)) ∧
        (engine.putRun id before after).statistics = engine.statistics) := by
  unfold putRun
  dsimp only
  split
  · rename_i values unsettled settled
    exact .inl ⟨unsettled, values, settled, rfl⟩
  · rename_i otherwise
    refine .inr ⟨?_, rfl⟩
    by_cases unsettled : before.outcome = none
    · exact .inr fun values settled => otherwise values unsettled settled
    · exact .inl unsettled

/-- Writing down how far a run is keeps the ledger. -/
theorem Ledger.putRun (ledger : Ledger orders engine) (placed : orders[id]? = some order)
    (planned : order.plan = .ok plan)
    (history : (Run.ofPlan order.graph plan).History happened turn)
    (running : turn.run? = some after)
    (known : engine.values? id = before.outcome.bind Except.toOption)
    (kept : ∀ outcome, before.outcome = some outcome → after.outcome = some outcome) :
    Ledger orders (engine.putRun id before after) := by
  have executes : ∀ taken, order.Executes ⟨.ok after, taken⟩ := fun taken =>
    .running planned history running
  rcases putRun_statistics engine id before after with
    ⟨unsettled, values, settled, statistics_eq⟩ | ⟨unchanged, statistics_eq⟩
  · obtain ⟨_, same, _, _, timed⟩ :=
      history.exists_timed (Order.settled_of_plan planned).toSound
    cases running.symm.trans same
    rw [timed.graph_eq] at statistics_eq
    have valueless : engine.values? id = none := by
      rw [known, unsettled, Option.bind_none]
    have valued : ∀ taken, Execution.values? ⟨.ok after, taken⟩ = some values := by
      intro taken
      rw [Execution.values?_run, settled]
      rfl
    exact ledger.record rfl rfl statistics_eq placed (executes _) valueless (valued _)
  · refine ledger.replace rfl rfl statistics_eq placed (executes _) ?_
    rw [Execution.values?_run, known]
    rcases unchanged with isSettled | valueless
    · obtain ⟨outcome, settled⟩ := Option.ne_none_iff_exists'.1 isSettled
      rw [settled, kept outcome settled]
    · have nothing : after.outcome.bind Except.toOption = none := by
        cases settled : after.outcome with
        | none => rfl
        | some outcome =>
          cases outcome with
          | ok values => exact absurd settled (valueless values)
          | error error => rfl
      rw [nothing]
      cases settled : before.outcome with
      | none => rfl
      | some outcome => rw [← nothing, kept outcome settled]

/-- Taking over the turn of a run keeps the ledger. -/
theorem Ledger.takeOver (ledger : Ledger orders engine) (placed : orders[id]? = some order)
    (planned : order.plan = .ok plan)
    (history : (Run.ofPlan order.graph plan).History happened turn)
    (known : engine.values? id = before.outcome.bind Except.toOption)
    (kept : ∀ after, turn.run? = some after → ∀ outcome, before.outcome = some outcome →
      after.outcome = some outcome) :
    ∃ next, (engine.takeOver id before turn).engine? = some next ∧ Ledger orders next ∧
      ∃ execution, next.executions = engine.executions.insert id execution := by
  obtain ⟨after, running, _⟩ := history.recorded (Order.settled_of_plan planned).toSound
  have written := ledger.putRun placed planned history running known (kept after running)
  cases turn with
  | launched job run =>
    cases running
    exact ⟨_, rfl, written.congr rfl rfl rfl, _, rfl⟩
  | returned run =>
    cases running
    exact ⟨_, rfl, written, _, rfl⟩
  | fault fault run => cases running

/-- A run that the engine finds is at a turn of a history. -/
theorem Ledger.exists_of_run? (ledger : Ledger orders engine) {run : Run α}
    (found : engine.run? id = some run) :
    ∃ order plan happened turn, orders[id]? = some order ∧ order.plan = .ok plan ∧
      (Run.ofPlan order.graph plan).History happened turn ∧ turn.run? = some run ∧
        engine.values? id = run.outcome.bind Except.toOption := by
  obtain ⟨execution, stored, isRun⟩ := Option.bind_eq_some_iff.1 found
  obtain ⟨order, placed, executes⟩ := ledger.stored id execution stored
  cases executes with
  | refused refused => cases isRun
  | @running plan happened turn _ taken planned history running =>
    cases isRun
    refine ⟨order, plan, happened, turn, placed, planned, history, running, ?_⟩
    rw [values?, stored]
    exact Execution.values?_run run taken

/-- Going on with a run keeps the ledger: whatever the run has for its outcome, it keeps. -/
theorem Ledger.proceed (ledger : Ledger orders engine) (full : Full orders engine)
    (placed : orders[id]? = some order) (planned : order.plan = .ok plan)
    (history : (Run.ofPlan order.graph plan).History happened turn) {earlier : RunTurn α}
    (running : earlier.run? = some before) (follows : earlier.Next turn)
    (known : engine.values? id = before.outcome.bind Except.toOption) :
    ∃ next, (engine.takeOver id before turn).engine? = some next ∧ Ledger orders next ∧
      Full orders next := by
  obtain ⟨next, taken, written, execution, executions_eq⟩ :=
    ledger.takeOver placed planned history known fun after runningAfter outcome settled =>
      Run.outcome_of_next running settled follows runningAfter
  exact ⟨next, taken, written, Full.insert (fun other listed _ => full other listed) executions_eq⟩

/-- Executing one more order keeps the ledger. -/
theorem Ledger.execute (ledger : Ledger orders engine) (full : Full orders engine)
    (order : Order) :
    ∃ next, (engine.execute order.graph order.cost order.sizing).engine? = some next ∧
      Ledger (orders ++ [order]) next ∧ Full (orders ++ [order]) next := by
  have placed : (orders ++ [order])[engine.nextExecution]? = some order := by
    rw [ledger.next_eq]
    exact List.getElem?_concat_length
  have earlier : ∀ other < (orders ++ [order]).length, other ≠ engine.nextExecution →
      ∃ kept, engine.executions.get? other = some kept := by
    intro other listed differs
    rw [List.length_append, List.length_singleton] at listed
    rw [ledger.next_eq] at differs
    exact full other (by omega)
  have absent : engine.values? engine.nextExecution = none := by
    rw [ledger.next_eq, values?, ledger.absent]
    rfl
  unfold Engine.execute
  dsimp only
  cases planned : Plan.ofGraph order.graph order.cost order.sizing with
  | error cycle =>
    have figures_eq : order.figures? = none := by
      rw [Order.figures?, Order.plan, planned]
      rfl
    have entered : Ledger (orders ++ [order])
        { engine with nextExecution := engine.nextExecution + 1 } :=
      ledger.enter order rfl rfl (by rw [figures_eq]; exact (List.append_nil _).symm) rfl
    refine ⟨_, rfl, ?_, Full.insert earlier rfl⟩
    exact entered.replace rfl rfl rfl placed (.refused planned) absent.symm
  | ok plan =>
    have figures_eq : order.figures? = some (plan.figures order.graph.configuration) := by
      rw [Order.figures?, Order.plan, planned]
      rfl
    have entered : Ledger (orders ++ [order]) { engine with
        nextExecution := engine.nextExecution + 1
        statistics := engine.statistics.recordPlan (plan.figures order.graph.configuration) } :=
      ledger.enter order rfl rfl (by rw [figures_eq]; rfl) rfl
    have unsettled : (Run.ofPlan order.graph plan : Run α).outcome = none := rfl
    have known : engine.values? engine.nextExecution =
        (Run.ofPlan order.graph plan : Run α).outcome.bind Except.toOption := absent
    obtain ⟨next, taken, written, execution, executions_eq⟩ :=
      entered.takeOver placed planned .start known
        fun after _ outcome settled => nomatch unsettled.symm.trans settled
    exact ⟨next, taken, written, Full.insert earlier executions_eq⟩

/-- A report keeps the ledger. -/
theorem Ledger.report (ledger : Ledger orders engine) (full : Full orders engine) {number : Nat}
    {report : Report α} {next : EngineTurn α} (accepted : engine.report number report = some next) :
    ∃ after, next.engine? = some after ∧ Ledger orders after ∧ Full orders after := by
  unfold Engine.report at accepted
  split at accepted
  · cases accepted
  rename_i id fragment _
  split at accepted
  · cases accepted
  rename_i run found
  obtain ⟨turn, reported, rfl⟩ := Option.map_eq_some_iff.1 accepted
  obtain ⟨order, plan, happened, earlier, placed, planned, history, running, known⟩ :=
    ledger.exists_of_run? found
  have without : Ledger orders { engine with jobs := engine.jobs.erase number } :=
    ledger.congr rfl rfl rfl
  exact without.proceed full placed planned (history.report running reported) running
    (.report running reported) known

/-- Going on with an interrupted call keeps the ledger. -/
theorem Ledger.resume (ledger : Ledger orders engine) (full : Full orders engine) :
    ∃ after, engine.resume.engine? = some after ∧ Ledger orders after ∧ Full orders after := by
  unfold Engine.resume
  split
  · exact ⟨engine, rfl, ledger, full⟩
  rename_i id outer _
  have without : Ledger orders { engine with agenda := outer } := ledger.congr rfl rfl rfl
  dsimp only
  split
  · exact ⟨_, rfl, without, full⟩
  rename_i run found
  obtain ⟨order, plan, happened, earlier, placed, planned, history, running, known⟩ :=
    ledger.exists_of_run? found
  exact without.proceed full placed planned (history.resume running) running (.resume running) known

/-- Taking an outcome keeps the ledger. -/
theorem Ledger.take (ledger : Ledger orders engine) (full : Full orders engine)
    (id : ExecutionId) : Ledger orders (engine.take id) ∧ Full orders (engine.take id) := by
  cases stored : engine.executions.get? id with
  | none =>
    have same : engine.take id = engine := by
      rw [Engine.take, SortedMap.modify, stored]
    rw [same]
    exact ⟨ledger, full⟩
  | some execution =>
    have executions_eq : (engine.take id).executions =
        engine.executions.insert id { execution with taken := true } := by
      rw [Engine.take, SortedMap.modify, stored]
    obtain ⟨order, placed, executes⟩ := ledger.stored id execution stored
    refine ⟨ledger.replace rfl executions_eq rfl placed (executes.withTaken true) ?_,
      Full.insert (fun other listed _ => full other listed) executions_eq⟩
    rw [values?, stored]
    rfl

/-- Waiting for an outcome takes it as trying does. -/
theorem awaitOutcome_snd (engine : Engine α) (id : ExecutionId) :
    (engine.awaitOutcome id).2 = (engine.tryOutcome id).2 := by
  unfold awaitOutcome tryOutcome
  split
  · rfl
  split
  · rfl
  split <;> rfl

/-- Asking for an outcome keeps the ledger: it takes it, or changes nothing. -/
theorem Ledger.tryOutcome (ledger : Ledger orders engine) (full : Full orders engine)
    (id : ExecutionId) :
    Ledger orders (engine.tryOutcome id).2 ∧ Full orders (engine.tryOutcome id).2 := by
  unfold Engine.tryOutcome
  split
  · exact ⟨ledger, full⟩
  split
  · exact ⟨ledger, full⟩
  split
  · exact ⟨ledger, full⟩
  · exact ledger.take full id

/-- **At every turn of a history the ledger is right.** -/
theorem History.ledger {turn : EngineTurn α} (history : History orders turn) :
    ∃ engine, turn.engine? = some engine ∧ Ledger orders engine ∧ Full orders engine := by
  induction history with
  | start => exact ⟨{}, rfl, ⟨rfl, nofun, rfl, .refl _⟩, nofun⟩
  | execute order _ running ih =>
    obtain ⟨_, same, ledger, full⟩ := ih
    cases running.symm.trans same
    exact ledger.execute full order
  | report _ running accepted ih =>
    obtain ⟨_, same, ledger, full⟩ := ih
    cases running.symm.trans same
    exact ledger.report full accepted
  | resume _ running ih =>
    obtain ⟨_, same, ledger, full⟩ := ih
    cases running.symm.trans same
    exact ledger.resume full
  | tryOutcome id _ running ih =>
    obtain ⟨_, same, ledger, full⟩ := ih
    cases running.symm.trans same
    exact ⟨_, rfl, ledger.tryOutcome full id⟩
  | awaitOutcome id _ running ih =>
    obtain ⟨_, same, ledger, full⟩ := ih
    cases running.symm.trans same
    rw [awaitOutcome_snd]
    exact ⟨_, rfl, ledger.tryOutcome full id⟩

/-! ## What is recorded -/

/-- What an engine has recorded of some orders. -/
structure Accounted (orders : List Order) (engine : Engine α) : Prop where
  /-- There is one execution for each order. -/
  numbered : ∀ id, (∃ execution, engine.executions.get? id = some execution) ↔ id < orders.length
  /-- The plans are recorded in the order in which they were made. -/
  processed : engine.statistics.processed = orders.filterMap Order.figures?
  /-- Each of them is recorded with its configuration and the number of its fragments. -/
  counted : (engine.statistics.processed.map fun figures =>
      (figures.configuration, figures.fragments)) =
    orders.filterMap fun order => order.plan.toOption.map fun plan =>
      (order.graph.configuration, plan.layout.fragments.length)
  /-- There is a plan exactly if the graph has no cycle, and building it in place comes to it. -/
  planned : ∀ order ∈ orders, (order.graph.Acyclic ↔ ∃ plan, order.plan = .ok plan) ∧
    ∀ plan, order.plan = .ok plan → order.graph.Builds order.cost order.sizing plan
  /-- The graphs of the executions that have values are recorded, each once, with the
  configuration and the number of nodes. -/
  executed : engine.statistics.executed.Perm (executedOf orders engine.values?)
  /-- Values time the fragments of the plan. -/
  timed : ∀ id order values, orders[id]? = some order → engine.values? id = some values →
    ∃ plan, order.plan = .ok plan ∧ ∀ fragment, fragment ∈ values.timed ↔
      fragment ∈ plan.layout.ids

/-- The figures of a plan tell its configuration and the number of its fragments. -/
theorem map_figures? (orders : List Order) :
    ((orders.filterMap Order.figures?).map fun figures =>
        (figures.configuration, figures.fragments)) =
      orders.filterMap fun order => order.plan.toOption.map fun plan =>
        (order.graph.configuration, plan.layout.fragments.length) := by
  rw [List.map_filterMap]
  refine List.filterMap_congr fun order _ => ?_
  rw [Order.figures?, Option.map_map]
  rfl

/-- **Whatever an engine is asked to execute, and whatever its dispatcher does, the statistics
list the plans of the orders without a cycle and the graphs of the executions that have values**,
and no check of the books fails. -/
theorem History.accounted {turn : EngineTurn α} (history : History orders turn) :
    ∃ engine, turn.engine? = some engine ∧ Accounted orders engine := by
  obtain ⟨engine, running, ledger, full⟩ := history.ledger
  refine ⟨engine, running, fun id => ⟨?numbered, full id⟩, ledger.processed, ?counted,
    fun order _ => ⟨Order.acyclic_iff, ?planned⟩, ledger.executed, ?timed⟩
  case numbered =>
    rintro ⟨execution, stored⟩
    obtain ⟨order, placed, _⟩ := ledger.stored id execution stored
    exact (List.getElem?_eq_some_iff.1 placed).1
  case counted =>
    rw [ledger.processed]
    exact map_figures? orders
  case planned =>
    intro plan planned
    obtain ⟨other, found, built, _⟩ :=
      (Order.acyclic_iff.2 ⟨plan, planned⟩).exists_built order.cost order.sizing
    cases planned.symm.trans found
    exact built
  case timed =>
    intro id order values placed valued
    obtain ⟨execution, stored, isValues⟩ := Option.bind_eq_some_iff.1 valued
    obtain ⟨same, samePlaced, executes⟩ := ledger.stored id execution stored
    cases placed.symm.trans samePlaced
    cases executes with
    | refused refused => cases isValues
    | @running plan _ _ run taken planned history running =>
      rw [Execution.values?_run] at isValues
      obtain ⟨outcome, settled, isOk⟩ := Option.bind_eq_some_iff.1 isValues
      cases outcome with
      | error error => cases isOk
      | ok kept =>
        cases isOk
        exact ⟨plan, planned,
          history.timed (Order.settled_of_plan planned).toSound running settled⟩

/-- The engines at the turns of histories. -/
def Reached (orders : List Order) (engine : Engine α) : Prop :=
  ∃ turn, History orders turn ∧ turn.engine? = some engine

theorem Reached.execute {next : Engine α} (reached : Reached orders engine) (order : Order)
    (running : (engine.execute order.graph order.cost order.sizing).engine? = some next) :
    Reached (orders ++ [order]) next := by
  obtain ⟨_, history, before⟩ := reached
  exact ⟨_, history.execute order before, running⟩

theorem Reached.report {next : Engine α} {number : Nat} {report : Report α}
    (reached : Reached orders engine)
    (running : (engine.report number report).bind EngineTurn.engine? = some next) :
    Reached orders next := by
  obtain ⟨_, history, before⟩ := reached
  obtain ⟨turn, accepted, running⟩ := Option.bind_eq_some_iff.1 running
  exact ⟨turn, history.report before accepted, running⟩

theorem Reached.resume {next : Engine α} (reached : Reached orders engine)
    (running : engine.resume.engine? = some next) : Reached orders next := by
  obtain ⟨_, history, before⟩ := reached
  exact ⟨_, history.resume before, running⟩

/-- A single node. -/
def lone : Graph where
  configuration := "lone"
  nodes := [default]

/-- A node that consumes its own value, a single node, and the diamond, one node a fragment. -/
def mixedOrders : List Order :=
  [⟨.loop, fun _ => Cost.ofNat 1, {}⟩, ⟨lone, fun _ => Cost.ofNat 1, {}⟩,
    ⟨.diamond, fun _ => Cost.ofNat 1, { maxItems := 1 }⟩]

/-- The first order is refused. The job of the second is dropped while the third, which is executed
before this job has returned, is under way; the third succeeds. Both plans are recorded, but only
the third graph is recorded as executed, with its four nodes, and its values time all of its
fragments. -/
theorem accounted_mixed :
    ∃ (turn : EngineTurn Nat) (engine : Engine Nat),
      History mixedOrders turn ∧ turn.engine? = some engine ∧
        engine.statistics.executed = [{ configuration := "diamond", nodes := 4 }] ∧
        (engine.statistics.processed.map fun figures =>
            (figures.configuration, figures.fragments)) = [("lone", 1), ("diamond", 4)] ∧
        ((engine.values? 2).map fun values => values.timed.toList) = some [1, 2, 3, 4] ∧
        Accounted mixedOrders engine := by
  have refused : Plan.ofGraph .loop (fun _ => Cost.ofNat 1) {} = .error ⟨0⟩ :=
    Graph.ofGraph_eq_error_iff.2 (by cbv)
  have order : lone.executionOrder = .ok [0] := by cbv
  have course : (do
      let first ← (({} : Engine Nat).execute .loop (fun _ => Cost.ofNat 1) {}).engine?
      let second ← (first.execute lone (fun _ => Cost.ofNat 1) {}).engine?
      let third ← (second.execute .diamond (fun _ => Cost.ofNat 1) { maxItems := 1 }).engine?
      let fourth ← (third.report 2 (.succeeded [(0, 1)])).bind EngineTurn.engine?
      let fifth ← (fourth.report 1 .dropped).bind EngineTurn.engine?
      let sixth ← fifth.resume.engine?
      let seventh ← (sixth.report 3 (.succeeded [(2, 2)])).bind EngineTurn.engine?
      let eighth ← (seventh.report 4 (.succeeded [(1, 2)])).bind EngineTurn.engine?
      let engine ← (eighth.report 5 (.succeeded [(3, 5)])).bind EngineTurn.engine?
      return (engine.statistics.executed,
        engine.statistics.processed.map fun figures => (figures.configuration, figures.fragments),
        (engine.values? 2).map fun values => values.timed.toList)) =
      some ([{ configuration := "diamond", nodes := 4 }], [("lone", 1), ("diamond", 4)],
        some [1, 2, 3, 4]) := by
    unfold Engine.execute
    rw [refused, Plan.ofGraph_of_order order, Plan.ofGraph_of_order Graph.executionOrder_diamond]
    decide +kernel
  obtain ⟨first, runningFirst, course⟩ := Option.bind_eq_some_iff.1 course
  obtain ⟨second, runningSecond, course⟩ := Option.bind_eq_some_iff.1 course
  obtain ⟨third, runningThird, course⟩ := Option.bind_eq_some_iff.1 course
  obtain ⟨fourth, runningFourth, course⟩ := Option.bind_eq_some_iff.1 course
  obtain ⟨fifth, runningFifth, course⟩ := Option.bind_eq_some_iff.1 course
  obtain ⟨sixth, runningSixth, course⟩ := Option.bind_eq_some_iff.1 course
  obtain ⟨seventh, runningSeventh, course⟩ := Option.bind_eq_some_iff.1 course
  obtain ⟨eighth, runningEighth, course⟩ := Option.bind_eq_some_iff.1 course
  obtain ⟨engine, running, seen⟩ := Option.bind_eq_some_iff.1 course
  simp only [Option.pure_def, Option.some.injEq, Prod.mk.injEq] at seen
  obtain ⟨executed, processed, timed⟩ := seen
  have start : Reached [] ({} : Engine Nat) := ⟨_, .start, rfl⟩
  obtain ⟨turn, history, same⟩ : Reached mixedOrders engine :=
    start.execute ⟨.loop, fun _ => Cost.ofNat 1, {}⟩ runningFirst
      |>.execute ⟨lone, fun _ => Cost.ofNat 1, {}⟩ runningSecond
      |>.execute ⟨.diamond, fun _ => Cost.ofNat 1, { maxItems := 1 }⟩ runningThird
      |>.report runningFourth |>.report runningFifth |>.resume runningSixth
      |>.report runningSeventh |>.report runningEighth |>.report running
  obtain ⟨_, running, accounted⟩ := history.accounted
  cases same.symm.trans running
  exact ⟨turn, engine, history, same, executed, processed, timed, accounted⟩

end Engine

end ValueEngine
