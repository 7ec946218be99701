import ValueEngine.Execution.Run
import ValueEngine.Sizing.Basic
import ValueEngine.Statistics.Recording

/-!
# The engine

An engine executes any number of graphs and shares one set of statistics among
them. Jobs are numbered across all executions, in the order in which they are
launched, from one on.

The caller of an execution may ask for its outcome, and takes it with the first
answer. Asking again by `Engine.tryOutcome` answers that the outcome is gone;
`Engine.awaitOutcome` may not be used again.

As a run does, the engine gives control to the dispatcher in the middle of a
call; the executions whose calls are interrupted are kept, the innermost first.
-/

set_option autoImplicit false

namespace ValueEngine

universe u

variable {α : Type u}

/-- The number of an execution. -/
abbrev ExecutionId := Nat

/-- An execution, and whether its outcome has been taken. -/
structure Execution (α : Type u) where
  /-- The run, unless the graph has a cycle. -/
  run : Except Cycle (Run α)
  /-- Whether the caller has taken the outcome. -/
  taken : Bool := false

/-- The outcome of an execution, once it is settled or abandoned. -/
def Execution.outcome? (execution : Execution α) : Option (Outcome α) :=
  match execution.run with
  | .error cycle => some (.error (.cycle cycle))
  | .ok run => run.answer?

/-- All executions, their outstanding jobs and the statistics. -/
structure Engine (α : Type u) where
  /-- The executions. -/
  executions : SortedMap ExecutionId (Execution α) := ∅
  /-- The outstanding jobs: the execution and the fragment of each. -/
  jobs : SortedMap Nat (ExecutionId × FragmentId) := ∅
  /-- The number of the next job. -/
  nextJob : Nat := 1
  /-- The number of the next execution. -/
  nextExecution : ExecutionId := 0
  /-- The executions whose calls the dispatcher interrupts, the innermost first. -/
  agenda : List ExecutionId := []
  /-- The figures recorded so far. -/
  statistics : Statistics := {}

/-- Where a call on the engine stands. -/
inductive EngineTurn (α : Type u) where
  /-- A job was launched, and the dispatcher is in control. -/
  | launched (number : Nat) (execution : ExecutionId) (job : Job α) (engine : Engine α)
  /-- The call returns. -/
  | returned (engine : Engine α)
  /-- The books of an execution are wrong. -/
  | fault (fault : BookFault) (engine : Engine α)

/-- What a caller is told about the outcome of an execution. -/
inductive OutcomeReply (α : Type u) where
  /-- There is none yet. -/
  | pending
  /-- The outcome. -/
  | outcome (outcome : Outcome α)
  /-- It was taken before, and may not be asked for in this way again. -/
  | afterCompletion

namespace Engine

/-! ## Carrying out -/

/-- Write down the run of an execution. A run that has been settled with values
since is recorded in the statistics. -/
def putRun (engine : Engine α) (id : ExecutionId) (before after : Run α) : Engine α :=
  let statistics :=
    match before.outcome, after.outcome with
    | none, some (.ok _) => engine.statistics.recordExecution after.graph.figures
    | _, _ => engine.statistics
  { engine with
    executions :=
      engine.executions.insert id
        { run := .ok after, taken := ((engine.executions.get? id).map Execution.taken).getD false }
    statistics }

/-- Take over the turn of a run, which was in the state `before`. -/
def takeOver (engine : Engine α) (id : ExecutionId) (before : Run α) : RunTurn α → EngineTurn α
  | .launched job after =>
    let engine := engine.putRun id before after
    .launched engine.nextJob id job
      { engine with
        jobs := engine.jobs.insert engine.nextJob (id, job.fragment)
        nextJob := engine.nextJob + 1
        agenda := id :: engine.agenda }
  | .returned after => .returned (engine.putRun id before after)
  | .fault fault after => .fault fault { engine.putRun id before after with agenda := [] }

/-- Execute a graph. The execution gets the next number. A graph with a cycle is
settled at once and leaves no trace in the statistics. -/
def execute (engine : Engine α) (graph : Graph) (cost : Node → Cost) (sizing : Sizing) :
    EngineTurn α :=
  let id := engine.nextExecution
  let engine := { engine with nextExecution := id + 1 }
  match Plan.ofGraph graph cost sizing with
  | .error cycle =>
    .returned { engine with executions := engine.executions.insert id { run := .error cycle } }
  | .ok plan =>
    let run : Run α := Run.ofPlan graph plan
    let engine :=
      { engine with
        statistics := engine.statistics.recordPlan (plan.figures graph.configuration) }
    engine.takeOver id run run.start

/-- The run of an execution. -/
def run? (engine : Engine α) (id : ExecutionId) : Option (Run α) :=
  (engine.executions.get? id).bind fun execution => execution.run.toOption

/-- A report on an outstanding job; there is no other to report on. -/
def report (engine : Engine α) (number : Nat) (report : Report α) : Option (EngineTurn α) :=
  match engine.jobs.get? number with
  | none => none
  | some (id, fragment) =>
    match engine.run? id with
    | none => none
    | some run =>
      (run.report fragment report).map fun turn =>
        { engine with jobs := engine.jobs.erase number }.takeOver id run turn

/-- The dispatcher has returned: the innermost interrupted call goes on. -/
def resume (engine : Engine α) : EngineTurn α :=
  match engine.agenda with
  | [] => .returned engine
  | id :: outer =>
    let engine := { engine with agenda := outer }
    match engine.run? id with
    | none => .returned engine
    | some run => engine.takeOver id run run.resume

/-! ## Asking for outcomes -/

/-- Note that the outcome of an execution has been taken. -/
def take (engine : Engine α) (id : ExecutionId) : Engine α :=
  { engine with
    executions := engine.executions.modify id fun execution => { execution with taken := true } }

/-- Take the outcome of an execution. Once it is taken, there is none any more. -/
def tryOutcome (engine : Engine α) (id : ExecutionId) : OutcomeReply α × Engine α :=
  match engine.executions.get? id with
  | none => (.outcome (.error .abandoned), engine)
  | some execution =>
    if execution.taken then (.outcome (.error .abandoned), engine)
    else
      match execution.outcome? with
      | none => (.pending, engine)
      | some outcome => (.outcome outcome, engine.take id)

/-- Take the outcome of an execution, which must not have been taken before. -/
def awaitOutcome (engine : Engine α) (id : ExecutionId) : OutcomeReply α × Engine α :=
  match engine.executions.get? id with
  | none => (.afterCompletion, engine)
  | some execution =>
    if execution.taken then (.afterCompletion, engine)
    else
      match execution.outcome? with
      | none => (.pending, engine)
      | some outcome => (.outcome outcome, engine.take id)

end Engine

end ValueEngine
