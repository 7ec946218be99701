import ValueEngine.Execution.Engine
import ValueEngine.Proofs.Execution.Mishaps

/-!
# The outcome of a run

Whatever the dispatcher does, a run is settled once and for all: with an error that
names the first fragment that fails or is dropped, at the turn of this report; or with
values, at the turn at which the last fragment is reported successful. When nothing is
outstanding and no call is left to go on, it is settled, so that nobody who asks for the
outcome first is told that the run was abandoned (`Plan.exists_decided`).
-/

set_option autoImplicit false

namespace ValueEngine

universe u

open Relation

variable {α : Type u}

/-- The turns that may follow one another: the dispatcher reports on an outstanding
fragment, or returns from the innermost launch. -/
inductive RunTurn.Next : RunTurn α → RunTurn α → Prop where
  | report {turn next : RunTurn α} {run : Run α} {id : FragmentId} {report : Report α}
      (running : turn.run? = some run) (accepted : run.report id report = some next) :
      Next turn next
  | resume {turn : RunTurn α} {run : Run α} (running : turn.run? = some run) :
      Next turn run.resume

/-- A caller who asks for an outcome is told that the execution was abandoned. -/
def OutcomeReply.IsAbandoned : OutcomeReply α → Prop
  | outcome (.error .abandoned) => True
  | _ => False

namespace Run

variable {graph : Graph} {plan : Plan} {happened : List (Happening α)} {run after : Run α}
  {id : FragmentId}

/-! ## The outcome stays -/

/-- A failure does not take back an outcome. -/
theorem fail_keeps {cause : Cause} {outcome : Outcome α} (settled : run.outcome = some outcome)
    (running : (run.fail id cause).run? = some after) : after.outcome = some outcome := by
  unfold fail at running
  dsimp only at running
  split at running
  · cases running
  · cases running
    rw [outcome_markAll]
    split
    · rw [settled, Option.getD_some]
    · exact settled

/-- Nor does a success. -/
theorem succeed_keeps {outputs : List (NodeId × α)} {outcome : Outcome α}
    (settled : run.outcome = some outcome)
    (running : (run.succeed id outputs).run? = some after) : after.outcome = some outcome := by
  unfold succeed at running
  split at running
  · exact (work_keeps running).2 outcome settled
  · cases running

/-- What follows a settled turn has the same outcome. -/
theorem outcome_of_next {turn next : RunTurn α} {outcome : Outcome α}
    (running : turn.run? = some run) (settled : run.outcome = some outcome)
    (follows : turn.Next next) (runningAfter : next.run? = some after) :
    after.outcome = some outcome := by
  cases follows with
  | @report _ _ id report same accepted =>
    cases running.symm.trans same
    cases brings : report.cause? id with
    | some cause =>
      obtain ⟨_, rfl⟩ := report_eq_of_cause brings accepted
      refine fail_keeps ?_ runningAfter
      exact settled
    | none =>
      obtain ⟨outputs, rfl⟩ := Report.exists_outputs_of_cause?_eq_none brings
      obtain ⟨_, rfl⟩ := report_eq_of_success accepted
      refine succeed_keeps ?_ runningAfter
      exact settled
  | resume same =>
    cases running.symm.trans same
    unfold Run.resume at runningAfter
    split at runningAfter
    · cases runningAfter
      exact settled
    · rename_i rest outer _
      exact (work_keeps runningAfter).2 outcome settled

/-- So have all turns that come later. -/
theorem outcome_of_later {turn later : RunTurn α} {outcome : Outcome α}
    (running : turn.run? = some run) (settled : run.outcome = some outcome)
    (follows : ReflTransGen RunTurn.Next turn later) (runningAfter : later.run? = some after) :
    after.outcome = some outcome := by
  induction follows generalizing after with
  | refl =>
    cases running.symm.trans runningAfter
    exact settled
  | @tail between last _ next ih =>
    obtain ⟨middle, runningBetween⟩ : ∃ middle, between.run? = some middle := by
      cases next with
      | report same _ => exact ⟨_, same⟩
      | resume same => exact ⟨_, same⟩
    exact outcome_of_next runningBetween (ih runningBetween) next runningAfter

/-! ## When there is one -/

/-- A run all of whose fragments have completed is settled, with values: the last of them is
one that the root waits for, and the root is told of it before anybody else gets control. -/
theorem Tracked.exists_values (tracked : Tracked run.plan.layout happened run)
    (books : run.Books run.agenda.flatten) (sound : run.plan.layout.Sound graph)
    (done : ∀ fragment ∈ run.plan.layout.fragments, fragment.id ∈ run.completed) :
    ∃ values, run.outcome = some (.ok values) := by
  obtain ⟨progress, _, entry⟩ := books.entries run.plan.layout.root Layout.root_mem_all
  have supplied : run.pending run.plan.layout.root = 0 := by
    refine pending_eq_zero_iff.2 fun input awaited => ?_
    obtain ⟨fragment, member, rfl⟩ :=
      Layout.mem_ids_iff.1 (sound.inputs_mem _ Layout.root_mem_all input awaited)
    exact done fragment member
  have untold : run.agenda.flatten.count (.unblock run.plan.layout.root.id) = 0 := by
    refine List.count_eq_zero.2 fun due => ?_
    obtain ⟨tasks, left, due⟩ := List.mem_flatten.1 due
    exact tracked.rootless tasks left due
  have free : progress.blocked = 0 := by
    rw [entry.blocked_eq, supplied, untold]
  obtain ⟨outcome, settled⟩ := Option.ne_none_iff_exists'.1 (entry.awaited rfl free)
  cases outcome with
  | ok values => exact ⟨values, settled⟩
  | error error =>
    cases known : mishaps happened with
    | nil => exact absurd settled (tracked.unblamed known error)
    | cons mishap rest =>
      have member : mishap ∈ mishaps happened := known ▸ List.mem_cons_self
      obtain ⟨_, _, incomplete⟩ := tracked.answered mishap member
      obtain ⟨_, _, fragment, inside, same, _⟩ := tracked.blamed mishap (by rw [known]; rfl)
      exact absurd (same ▸ done fragment inside) incomplete

/-- A run with nothing outstanding and nothing left to do is settled: it has failed, or
everything has completed. -/
theorem Tracked.settled_of_idle (tracked : Tracked run.plan.layout happened run)
    (books : run.Books run.agenda.flatten) (sound : run.plan.layout.Sound graph)
    (nothing : run.outstanding = ∅) (nothingLeft : run.agenda.flatten = []) :
    run.outcome ≠ none := by
  cases known : mishaps happened with
  | nil =>
    refine books.outcome_of_idle sound nothing nothingLeft fun id failed => ?_
    obtain ⟨mishap, member, _⟩ := (tracked.failed_iff id).1 failed
    rw [known] at member
    cases member
  | cons mishap rest =>
    obtain ⟨error, settled, _⟩ := tracked.blamed mishap (by rw [known]; rfl)
    rw [settled]
    exact Option.some_ne_none _

/-- What there is to say of the outcome is not that the run was abandoned. -/
theorem Tracked.answer?_ne_abandoned (tracked : Tracked run.plan.layout happened run)
    (books : run.Books run.agenda.flatten) (sound : run.plan.layout.Sound graph) :
    run.answer? ≠ some (.error .abandoned) := by
  unfold answer?
  split
  · rename_i outcome settled
    rintro ⟨⟩
    cases known : mishaps happened with
    | nil => exact tracked.unblamed known _ settled
    | cons mishap rest =>
      obtain ⟨error, blamed, _, _, _, _, rfl, _⟩ := tracked.blamed mishap (by rw [known]; rfl)
      cases settled.symm.trans blamed
  · rename_i unsettled
    split
    · nofun
    · rename_i free
      simp only [isHeld, Bool.or_eq_true, Bool.not_eq_true', not_or, Bool.not_eq_false] at free
      have nothing := SortedSet.eq_empty_iff.2 (SortedSet.isEmpty_iff.1 free.1)
      have nothingLeft : run.agenda.flatten = [] := by
        rw [List.isEmpty_iff.1 free.2, List.flatten_nil]
      exact absurd unsettled (tracked.settled_of_idle books sound nothing nothingLeft)

/-- A run with values has nothing outstanding and nothing to launch. -/
theorem Books.idle_of_completed {due : List Task} (books : run.Books due)
    (done : ∀ fragment ∈ run.plan.layout.fragments, fragment.id ∈ run.completed) :
    run.outstanding = ∅ ∧ ∀ id, Task.launch id ∉ due := by
  constructor
  · refine SortedSet.eq_empty_iff.2 fun id outstanding => ?_
    obtain ⟨fragment, member, rfl⟩ := List.mem_map.1 (books.outstanding_mem id outstanding)
    obtain ⟨_, _, entry⟩ := books.entries fragment member
    have notRoot := (entry.unblocked (entry.launched (Or.inl outstanding))).2
    have inside := Layout.mem_fragments_of_ne_root member notRoot
    exact entry.exclusive outstanding (done fragment inside)
  · intro id isDue
    obtain ⟨fragment, member, same⟩ := List.mem_map.1 (books.due_mem _ isDue)
    cases (same : fragment.id = id)
    obtain ⟨progress, _, entry⟩ := books.entries fragment member
    obtain ⟨_, _, unlaunched, notRoot⟩ := entry.leaf (List.count_pos_iff.2 isDue)
    have inside := Layout.mem_fragments_of_ne_root member notRoot
    have launched := entry.launched (Or.inr (done fragment inside))
    cases unlaunched.symm.trans launched

/-! ## Decided runs -/

/-- What holds of the outcome at a turn of a run with fragments `layout` after what has
happened. -/
structure Decided (layout : Layout) (happened : List (Happening α)) (turn : RunTurn α)
    (run : Run α) : Prop where
  /-- There is an error exactly if a fragment has failed or was dropped, and it names the
  first such fragment and the cause. -/
  error_iff : ∀ id cause, (∃ nodes failed,
    run.outcome = some (.error (.fragment id nodes failed cause))) ↔
      (mishaps happened).head? = some (id, cause)
  /-- There is no other error. -/
  error_eq : ∀ error, run.outcome = some (.error error) →
    ∃ id nodes failed cause, error = .fragment id nodes failed cause
  /-- There are values exactly if every fragment was reported successful. -/
  ok_iff : (∃ values, run.outcome = some (.ok values)) ↔
    ∀ fragment ∈ layout.fragments, fragment.id ∈ successes happened
  /-- Then nothing is outstanding and nothing will be launched. -/
  last : ∀ values, run.outcome = some (.ok values) →
    run.outstanding = ∅ ∧ ∀ id, Task.launch id ∉ run.agenda.flatten
  /-- When nothing is outstanding and no call is left to go on, there is an outcome. -/
  settled : run.outstanding = ∅ → run.agenda.flatten = [] → run.outcome ≠ none
  /-- The outcome stays. -/
  once : ∀ later after outcome, ReflTransGen RunTurn.Next turn later →
    later.run? = some after → run.outcome = some outcome → after.outcome = some outcome
  /-- Who asks for the outcome first is not told that the execution was abandoned. -/
  answered : ∀ (engine : Engine α) (number : ExecutionId),
    engine.executions.get? number = some { run := .ok run } →
      ¬ (engine.tryOutcome number).1.IsAbandoned ∧ ¬ (engine.awaitOutcome number).1.IsAbandoned

/-- The first answer to who asks for an outcome is what there is to say of it. -/
theorem answers_of_ne_abandoned (known : run.answer? ≠ some (.error .abandoned))
    (engine : Engine α) (number : ExecutionId)
    (found : engine.executions.get? number = some { run := .ok run }) :
    ¬ (engine.tryOutcome number).1.IsAbandoned ∧ ¬ (engine.awaitOutcome number).1.IsAbandoned := by
  have outcome_eq : Execution.outcome? { run := .ok run } = run.answer? := rfl
  unfold Engine.tryOutcome Engine.awaitOutcome
  rw [found]
  dsimp only
  rw [if_neg Bool.false_ne_true, if_neg Bool.false_ne_true, outcome_eq]
  cases answer : run.answer? with
  | none => exact ⟨id, id⟩
  | some outcome =>
    have differs : outcome ≠ .error .abandoned := fun same => known (same ▸ answer)
    have notAbandoned : ¬ (OutcomeReply.outcome outcome).IsAbandoned := by
      intro abandoned
      unfold OutcomeReply.IsAbandoned at abandoned
      split at abandoned
      · rename_i same
        exact differs (OutcomeReply.outcome.inj same)
      · exact abandoned
    exact ⟨notAbandoned, notAbandoned⟩

/-- Every turn of a history is decided. -/
theorem History.decided {turn : RunTurn α} (settled : plan.layout.Settled graph)
    (history : (ofPlan graph plan).History happened turn) :
    ∃ run, turn.run? = some run ∧ Decided plan.layout happened turn run := by
  obtain ⟨run, running, books, recorded, tracked⟩ := history.tracked settled
  have layout_eq : run.plan.layout = plan.layout := congrArg Plan.layout recorded.plan_eq
  have sound : run.plan.layout.Sound graph := layout_eq ▸ settled.toSound
  rw [← layout_eq] at tracked ⊢
  have ok_iff : (∃ values, run.outcome = some (.ok values)) ↔
      ∀ fragment ∈ run.plan.layout.fragments, fragment.id ∈ run.completed :=
    ⟨fun ⟨_, done⟩ _ => books.completed_of_values sound done, tracked.exists_values books sound⟩
  refine ⟨run, running, ?error_iff, ?error_eq, ?ok_iff, ?last,
    tracked.settled_of_idle books sound, ?once,
    answers_of_ne_abandoned (tracked.answer?_ne_abandoned books sound)⟩
  case error_iff =>
    intro id cause
    constructor
    · rintro ⟨nodes, failed, done⟩
      cases known : mishaps happened with
      | nil => exact absurd done (tracked.unblamed known _)
      | cons mishap rest =>
        obtain ⟨_, blamed, _, _, _, _, rfl, _⟩ := tracked.blamed mishap (by rw [known]; rfl)
        cases done.symm.trans blamed
        rfl
    · intro first
      obtain ⟨_, blamed, fragment, _, _, failed, rfl, _⟩ := tracked.blamed _ first
      exact ⟨fragment.nodes, failed, blamed⟩
  case error_eq =>
    intro error failed
    cases known : mishaps happened with
    | nil => exact absurd failed (tracked.unblamed known error)
    | cons mishap rest =>
      obtain ⟨_, blamed, fragment, _, _, failedNodes, rfl, _⟩ :=
        tracked.blamed mishap (by rw [known]; rfl)
      cases failed.symm.trans blamed
      exact ⟨mishap.1, fragment.nodes, failedNodes, mishap.2, rfl⟩
  case ok_iff =>
    rw [ok_iff]
    exact forall₂_congr fun fragment _ => recorded.completed_iff fragment.id
  case last =>
    intro values done
    exact books.idle_of_completed fun fragment => books.completed_of_values sound done
  case once =>
    intro later after outcome follows runningAfter done
    exact outcome_of_later running done follows runningAfter

end Run

/-- **Whatever the dispatcher does, the run of an acyclic graph is decided** by the first
fragment that fails or is dropped, or else by the last one that succeeds, and nobody is
told that it was abandoned. -/
theorem Plan.exists_decided {graph : Graph} (acyclic : graph.Acyclic) (cost : Node → Cost)
    (sizing : Sizing) :
    ∃ plan, ofGraph graph cost sizing = .ok plan ∧ graph.Builds cost sizing plan ∧
      ∀ (happened : List (Happening α)) (turn : RunTurn α),
        (Run.ofPlan graph plan).History happened turn →
          ∃ run, turn.run? = some run ∧ Run.Decided plan.layout happened turn run := by
  obtain ⟨plan, planned, built, settled⟩ := acyclic.exists_built cost sizing
  exact ⟨plan, planned, built, fun _ _ history => history.decided settled⟩

/-- The diamond, one node a fragment. There is no outcome when the third job has gone out; there
are values when the last one has succeeded. When the second one is dropped and the third one fails,
the error is about the second. -/
theorem Plan.exists_decided_diamond :
    Graph.diamond.Acyclic ∧
      ∃ plan, ofGraph Graph.diamond (fun _ => Cost.ofNat 1) { maxItems := 1 } = .ok plan ∧
        Graph.diamond.Builds (fun _ => Cost.ofNat 1) { maxItems := 1 } plan ∧
        (∃ turn run,
          (Run.ofPlan Graph.diamond plan).History (Graph.diamondBegun (.succeeded [(2, 2)])) turn ∧
          turn.run? = some run ∧ run.outcome = none ∧
          Run.Decided plan.layout (Graph.diamondBegun (.succeeded [(2, 2)])) turn run) ∧
        (∃ turn run,
          (Run.ofPlan Graph.diamond plan).History Graph.diamondEnded turn ∧
          turn.run? = some run ∧
          run.outcome = some (.ok {
            configuration := "diamond"
            outputs := SortedMap.ofList [(0, 1), (1, 2), (2, 2), (3, 5)]
            timed := SortedSet.ofList [1, 2, 3, 4] }) ∧
          Run.Decided plan.layout Graph.diamondEnded turn run) ∧
        ∃ turn run,
          (Run.ofPlan Graph.diamond plan).History
            (Graph.diamondBroken (.failed ⟨"no value", []⟩)) turn ∧
          turn.run? = some run ∧
          run.outcome = some (.error (.fragment 2 [2] [2, 3]
            ⟨"job for fragment #2 dropped without a result", []⟩)) ∧
          Run.Decided plan.layout (Graph.diamondBroken (.failed ⟨"no value", []⟩)) turn run := by
  obtain ⟨plan, planned, built, decided⟩ := exists_decided Graph.diamond_acyclic
    (fun _ => Cost.ofNat 1) { maxItems := 1 }
  have decidedAt : ∀ {happened : List (Happening Nat)} {turn : RunTurn Nat} {run : Run Nat},
      (Run.ofPlan Graph.diamond plan).History happened turn → turn.run? = some run →
        Run.Decided plan.layout happened turn run := by
    intro happened turn run history running
    obtain ⟨_, same, decided⟩ := decided happened turn history
    cases running.symm.trans same
    exact decided
  refine ⟨Graph.diamond_acyclic, plan, planned, built, ?_, ?_, ?_⟩
  · obtain ⟨turn, run, history, running, _, _, unsettled⟩ := exists_diamondBegun planned
    exact ⟨turn, run, history, running, unsettled, decidedAt history running⟩
  · obtain ⟨turn, run, history, running, _, _, _, settled⟩ := exists_diamondEnded planned
    exact ⟨turn, run, history, running, settled, decidedAt history running⟩
  · obtain ⟨turn, run, history, running, _, _, _, settled⟩ :=
      exists_diamondBroken planned (.inr ⟨rfl, rfl⟩)
    exact ⟨turn, run, history, running, settled, decidedAt history running⟩

end ValueEngine
