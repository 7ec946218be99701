import Mathlib.Algebra.BigOperators.Group.List.Basic
import ValueEngine.Execution.Engine
import ValueEngine.Proofs.Plan.Contents

/-!
# Graphs with cycles

A graph is refused exactly if it has a cycle, with a node that lies on one. Any other graph is
split, merged and coloured in place, and nothing fails on the way: every fragment that is looked up
is there, no count falls below zero, every loop ends, and no time exceeds what all nodes take one
after the other (`Graph.cycle_or_plan`).

An engine that is to execute a graph with a cycle settles the execution with this error at once. No
job goes out, and nothing is recorded (`Engine.execute_of_cycle`).
-/

set_option autoImplicit false

namespace ValueEngine

universe u

/-! ## Planning -/

/-- There are at most as many fragments as nodes. -/
theorem Layout.HoldsAll.size_le {layout : Layout} {graph : Graph} {cost : NodeId → Cost}
    (holdsAll : layout.HoldsAll graph cost) (sound : layout.Sound graph) :
    layout.size ≤ graph.size := by
  have some : ∀ items ∈ layout.fragments.map Fragment.items, 1 ≤ items := by
    intro items listed
    obtain ⟨fragment, member, rfl⟩ := List.mem_map.mp listed
    exact List.length_pos_of_ne_nil (holdsAll.nodes_ne_nil fragment member)
  calc layout.size
    _ = (layout.fragments.map Fragment.items).length := (List.length_map _).symm
    _ ≤ (layout.fragments.map Fragment.items).sum := List.length_le_sum_of_one_le _ some
    _ = (layout.fragments.flatMap Fragment.nodes).length := List.length_flatMap.symm
    _ = graph.nodeIds.length := sound.nodes_perm.length_eq
    _ = graph.size := List.length_range

namespace Graph

variable {graph : Graph} {cost : Node → Cost} {sizing : Sizing}

/-- Building in place refuses what has no plan. -/
theorem build_eq_error_iff {cycle : Cycle} :
    graph.build cost sizing = some (.error cycle) ↔
      Plan.ofGraph graph cost sizing = .error cycle := by
  refine ⟨fun refused => ?_, build_of_error⟩
  cases planned : Plan.ofGraph graph cost sizing with
  | error other =>
    rw [build_of_error planned] at refused
    cases refused
    rfl
  | ok plan =>
    obtain ⟨arena, built, _⟩ := build_of_ok planned
    rw [built] at refused
    cases refused

/-- The error is that of the execution order. -/
theorem ofGraph_eq_error_iff {cycle : Cycle} :
    Plan.ofGraph graph cost sizing = .error cycle ↔ graph.executionOrder = .error cycle := by
  unfold Plan.ofGraph
  cases graph.executionOrder with
  | error other =>
    constructor
    · intro refused
      cases refused
      rfl
    · intro refused
      cases refused
      rfl
  | ok order => exact iff_of_false (fun refused => nomatch refused) (fun refused => nomatch refused)

/-- How planning a graph ends. -/
structure Decided (graph : Graph) (cost : Node → Cost) (sizing : Sizing) : Prop where
  /-- Building in place tells the error of the plan. -/
  error_iff : ∀ cycle, graph.build cost sizing = some (.error cycle) ↔
    Plan.ofGraph graph cost sizing = .error cycle
  /-- The graph is refused exactly if it has a cycle. -/
  refused_iff : (∃ cycle, graph.build cost sizing = some (.error cycle)) ↔
    ∃ node, graph.OnCycle node
  /-- The error names a node on a cycle. -/
  onCycle : ∀ cycle, graph.build cost sizing = some (.error cycle) → graph.OnCycle cycle.node
  /-- Without a cycle nothing fails, and what is made in place is the plan. -/
  built : graph.Acyclic → ∃ plan arena, Plan.ofGraph graph cost sizing = .ok plan ∧
    graph.build cost sizing = some (.ok (arena, plan.colouring)) ∧ arena.Holds plan.layout ∧
      ∀ fragment ∈ arena.fragments,
        plan.layout.schedule.finish fragment.id ≤ graph.size * greatestWord

/-- An acyclic graph is built in place. -/
theorem Acyclic.built (acyclic : graph.Acyclic) (cost : Node → Cost) (sizing : Sizing) :
    ∃ plan arena, Plan.ofGraph graph cost sizing = .ok plan ∧
      graph.build cost sizing = some (.ok (arena, plan.colouring)) ∧ arena.Holds plan.layout ∧
        ∀ fragment ∈ arena.fragments,
          plan.layout.schedule.finish fragment.id ≤ graph.size * greatestWord := by
  obtain ⟨plan, planned, settled, priced⟩ := acyclic.exists_priced cost sizing
  obtain ⟨arena, built, holds⟩ := build_of_ok planned
  refine ⟨plan, arena, planned, built, holds, fun fragment member => ?_⟩
  rw [holds.fragments_eq] at member
  refine Nat.le_trans (settled.stratified.finish_le fragment member) (Nat.mul_le_mul_right _ ?_)
  exact (settled.holdsAll priced).size_le settled.toSound

end Graph

/-! ## Executing -/

namespace Engine

variable {α : Type u}

/-- What a refused execution leaves of an engine. -/
structure Refused (engine after : Engine α) (cycle : Cycle) : Prop where
  /-- A caller who asks whether there is an outcome gets the error. -/
  tryOutcome_eq : (after.tryOutcome engine.nextExecution).1 = .outcome (.error (.cycle cycle))
  /-- So does a caller who waits for it. -/
  awaitOutcome_eq : (after.awaitOutcome engine.nextExecution).1 = .outcome (.error (.cycle cycle))
  /-- No job is outstanding that was not before. -/
  jobs_eq : after.jobs = engine.jobs
  /-- No number is spent on a job. -/
  nextJob_eq : after.nextJob = engine.nextJob
  /-- The dispatcher is not called. -/
  agenda_eq : after.agenda = engine.agenda
  /-- Nothing is recorded. -/
  statistics_eq : after.statistics = engine.statistics
  /-- Other executions are as before. -/
  others : ∀ id ≠ engine.nextExecution, after.executions.get? id = engine.executions.get? id

/-- **A graph without a plan is refused at once**: the call returns without launching a job, and
the execution has the error for its outcome. -/
theorem execute_of_cycle (engine : Engine α) {graph : Graph} {cost : Node → Cost}
    {sizing : Sizing} {cycle : Cycle} (refused : Plan.ofGraph graph cost sizing = .error cycle) :
    ∃ after, engine.execute graph cost sizing = .returned after ∧ engine.Refused after cycle := by
  refine ⟨_, by rw [execute, refused], ?_⟩
  have stored : (engine.executions.insert engine.nextExecution { run := .error cycle }).get?
      engine.nextExecution = some { run := .error cycle } := by
    rw [SortedMap.get?_insert, if_pos rfl]
  refine ⟨?_, ?_, rfl, rfl, rfl, rfl, fun id other => ?_⟩
  · simp only [tryOutcome, stored]
    rfl
  · simp only [awaitOutcome, stored]
    rfl
  · rw [SortedMap.get?_insert, if_neg other.symm]

end Engine

/-- **A graph is refused exactly if it has a cycle**, with a node on one; the refusal settles an
execution before any job goes out. Any other graph is split in place into the fragments of its
plan, and nothing fails on the way. -/
theorem Graph.cycle_or_plan (graph : Graph) (cost : Node → Cost) (sizing : Sizing) {α : Type u}
    (engine : Engine α) :
    graph.Decided cost sizing ∧ ∀ cycle, graph.build cost sizing = some (.error cycle) →
      ∃ after, engine.execute graph cost sizing = .returned after ∧
        engine.Refused after cycle := by
  have error_iff : ∀ cycle, graph.build cost sizing = some (.error cycle) ↔
      graph.executionOrder = .error cycle :=
    fun cycle => build_eq_error_iff.trans ofGraph_eq_error_iff
  refine ⟨⟨fun cycle => build_eq_error_iff, ?_, fun cycle refused => ?_,
    fun acyclic => acyclic.built cost sizing⟩, fun cycle refused => ?_⟩
  · simp only [error_iff]
    exact exists_cycle_iff.trans not_acyclic_iff
  · exact onCycle_of_executionOrder ((error_iff cycle).mp refused)
  · exact engine.execute_of_cycle (build_eq_error_iff.mp refused)

/-- A node that consumes its own value. -/
def Graph.loop : Graph where
  configuration := "loop"
  nodes := [default]
  edges := [⟨0, 0⟩]
  edges_inRange := by decide
  edges_nodup := by decide

theorem Graph.cycle_or_plan_loop :
    ∃ cycle, loop.build (fun _ => Cost.ofNat 1) {} = some (.error cycle) ∧ loop.OnCycle cycle.node ∧
      ∃ after, ({} : Engine Unit).execute loop (fun _ => Cost.ofNat 1) {} = .returned after ∧
        ({} : Engine Unit).Refused after cycle := by
  obtain ⟨decided, refusal⟩ :=
    Graph.cycle_or_plan loop (fun _ => Cost.ofNat 1) {} ({} : Engine Unit)
  have feeds : loop.Feeds 0 0 := by
    unfold Graph.Feeds
    decide
  have onCycle : loop.OnCycle 0 := .single feeds
  obtain ⟨cycle, refused⟩ := decided.refused_iff.mpr ⟨0, onCycle⟩
  exact ⟨cycle, refused, decided.onCycle cycle refused, refusal cycle refused⟩

end ValueEngine
