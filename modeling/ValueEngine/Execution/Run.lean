import ValueEngine.Execution.Outcome
import ValueEngine.Plan.Basic

/-!
# The run of a plan

A run keeps the books of one execution. Every fragment counts the inputs that it
still waits for. Fragments without inputs are launched at the start, any other
when its last input has completed; when the root waits for nothing more, the run
is settled with all values.

A failure marks the fragment and everything that depends on it, and settles the
run with an error when it reaches the root. Marked fragments are never launched;
other fragments go on.

Launching a fragment gives control to the dispatcher, which may report on any
outstanding job before it returns. What is left of the interrupted call is kept
as a frame, the innermost first, and done when the dispatcher returns
(`Run.resume`).

All of this happens on one thread: a report is worked through up to its end or to
a launch before anything else is done, and calls nest. Two reports that come in at
the same time on different threads are not described.
-/

set_option autoImplicit false

namespace ValueEngine

universe u

variable {α : Type u}

/-- How far a fragment is. -/
structure Progress where
  /-- The number of inputs that have not completed. -/
  blocked : Nat
  /-- Whether the fragment has been launched. -/
  launched : Bool := false
  /-- Whether the fragment, or one that it depends on, has failed. -/
  failed : Bool := false
deriving DecidableEq

/-- A step that remains to be done. -/
inductive Task where
  /-- Launch a fragment. -/
  | launch (fragment : FragmentId)
  /-- One more input of a fragment has completed. -/
  | unblock (fragment : FragmentId)
deriving DecidableEq

/-- The fragment that a step is about. -/
def Task.fragment : Task → FragmentId
  | launch fragment => fragment
  | unblock fragment => fragment

/-- The books of one execution. -/
structure Run (α : Type u) where
  /-- The graph that is executed. -/
  graph : Graph
  /-- Its fragments. -/
  plan : Plan
  /-- How far each fragment is, the root included. -/
  progress : SortedMap FragmentId Progress
  /-- The values reported so far, until the outcome takes them. -/
  outputs : SortedMap NodeId α := ∅
  /-- The fragments that were launched and not reported on. -/
  outstanding : SortedSet FragmentId := ∅
  /-- The fragments whose time is running, since they were launched. -/
  running : SortedSet FragmentId := ∅
  /-- The fragments whose time has been taken, until the outcome takes it. -/
  timings : SortedSet FragmentId := ∅
  /-- The fragments that were reported successful. No step asks for them: they are
  what the blocked counts stand for. -/
  completed : SortedSet FragmentId := ∅
  /-- The outcome, once the run is settled. -/
  outcome : Option (Outcome α) := none
  /-- What is left of the calls that the dispatcher interrupts, the innermost
  first. -/
  agenda : List (List Task) := []

/-- A state of the books that cannot come about. -/
inductive BookFault where
  /-- A fragment is launched a second time. -/
  | launchedTwice (fragment : FragmentId)
  /-- More inputs of a fragment complete than there are. -/
  | unblockedTwice (fragment : FragmentId)
  /-- The plan has no such fragment. -/
  | unknownFragment (fragment : FragmentId)
deriving DecidableEq

/-- The text of a fault. -/
def BookFault.message : BookFault → String
  | launchedTwice fragment => "fragment " ++ FragmentId.text fragment ++ " dispatched twice"
  | unblockedTwice fragment => "fragment " ++ FragmentId.text fragment ++ " unblocked twice"
  | unknownFragment fragment =>
    "fragment " ++ FragmentId.text fragment ++ " is not part of this execution"

/-- Where a call on a run stands. -/
inductive RunTurn (α : Type u) where
  /-- A job was launched, and the dispatcher is in control. -/
  | launched (job : Job α) (run : Run α)
  /-- The call returns. -/
  | returned (run : Run α)
  /-- The books are wrong. -/
  | fault (fault : BookFault) (run : Run α)

namespace Run

/-- The books before anything is launched. -/
def ofPlan (graph : Graph) (plan : Plan) : Run α where
  graph := graph
  plan := plan
  progress := SortedMap.ofList <|
    plan.layout.all.map fun fragment => (fragment.id, { blocked := fragment.inputs.size })

/-! ## Settling -/

/-- Settle a run, unless it is settled already. -/
def settle (run : Run α) (outcome : Outcome α) : Run α :=
  match run.outcome with
  | some _ => run
  | none => { run with outcome := some outcome }

/-- The values and times in the books as the result of the graph. -/
def values (run : Run α) : GraphValues α where
  configuration := run.graph.configuration
  outputs := run.outputs
  timed := run.timings

/-- Settle a run with the values and times in the books, which go out with the
outcome. -/
def complete (run : Run α) : Run α :=
  match run.outcome with
  | some _ => run
  | none => { run with outcome := some (.ok run.values), outputs := ∅, timings := ∅ }

/-! ## Launching -/

/-- The nodes outside a fragment that its nodes consume, in ascending order. -/
def externalInputs (graph : Graph) (fragment : Fragment) : List NodeId :=
  ((SortedSet.ofList (fragment.nodes.flatMap graph.inputs)).filter fun input =>
    decide (input ∉ fragment.nodes)).toList

/-- The job for a fragment with the values reported so far. -/
def jobFor (run : Run α) (fragment : Fragment) : Job α where
  fragment := fragment.id
  nodes := fragment.nodes
  inputs := (externalInputs run.graph fragment).filterMap fun input =>
    (run.outputs.get? input).map fun value => (input, value)
  tails := run.plan.colouring.tailsOf fragment.id
  colour := run.plan.colouring.colour fragment.id
  cost := fragment.cost

/-- Write down how far a fragment is. -/
def note (run : Run α) (id : FragmentId) (progress : Progress) : Run α :=
  { run with progress := run.progress.insert id progress }

/-- Write down that a fragment goes out as a job. Its time runs from now on. -/
def noteLaunch (run : Run α) (id : FragmentId) (progress : Progress) : Run α :=
  { run.note id { progress with launched := true } with
    outstanding := run.outstanding.insert id
    running := run.running.insert id }

/-- Launch a fragment. -/
def launch (run : Run α) (id : FragmentId) (progress : Progress) :
    Except BookFault (Run α × Option (Job α)) :=
  match run.plan.layout.fragment? id with
  | none => .error (.unknownFragment id)
  | some fragment =>
    if progress.launched then .error (.launchedTwice id)
    else .ok (run.noteLaunch id progress, some (run.jobFor fragment))

/-- One more input of a fragment has completed. After the last one, the root
completes the run, and any other fragment is launched unless it has failed. -/
def unblock (run : Run α) (id : FragmentId) (progress : Progress) :
    Except BookFault (Run α × Option (Job α)) :=
  if progress.blocked = 0 then .error (.unblockedTwice id)
  else
    let progress := { progress with blocked := progress.blocked - 1 }
    let run := run.note id progress
    if progress.blocked ≠ 0 then .ok (run, none)
    else if id = FragmentId.root then .ok (run.complete, none)
    else if progress.failed then .ok (run, none)
    else run.launch id progress

/-- Do a step. A step that launches a fragment gives its job. -/
def step (run : Run α) (task : Task) : Except BookFault (Run α × Option (Job α)) :=
  match run.progress.get? task.fragment with
  | none => .error (.unknownFragment task.fragment)
  | some progress =>
    match task with
    | .launch id => run.launch id progress
    | .unblock id => run.unblock id progress

/-- Do some steps, until one of them launches a fragment. -/
def work (run : Run α) : List Task → RunTurn α
  | [] => .returned run
  | task :: rest =>
    match run.step task with
    | .error fault => .fault fault { run with agenda := [] }
    | .ok (run, none) => run.work rest
    | .ok (run, some job) => .launched job { run with agenda := rest :: run.agenda }

/-- The dispatcher has returned: the innermost interrupted call goes on. -/
def resume (run : Run α) : RunTurn α :=
  match run.agenda with
  | [] => .returned run
  | rest :: outer => { run with agenda := outer }.work rest

/-- Start a run: launch what has no inputs. An empty plan is settled at once. -/
def start (run : Run α) : RunTurn α :=
  if run.plan.layout.terminals.isEmpty then .returned run.complete
  else run.work (run.plan.layout.leaves.map fun fragment => .launch fragment.id)

/-! ## Failures -/

/-- What a walk along the dependents of fragments comes to. -/
structure Walk where
  /-- The fragments that are met, each once and in this order. -/
  met : List FragmentId := []
  /-- The fault at which the walk ends early. -/
  fault : Option BookFault := none
deriving DecidableEq

/-- The walk that first meets one fragment more. -/
def Walk.after (walk : Walk) (id : FragmentId) : Walk := { walk with met := id :: walk.met }

theorem length_flatMap_eq_add_erase {top : FragmentId} {healthy : List FragmentId}
    (member : top ∈ healthy) (below : FragmentId → List FragmentId) :
    (healthy.flatMap below).length =
      (below top).length + ((healthy.erase top).flatMap below).length := by
  have same := ((List.perm_cons_erase member).flatMap_right below).length_eq
  rwa [List.flatMap_cons, List.length_append] at same

/-- Walk to the fragments on a stack and all that depend on them, as far as they are
among the `healthy` ones. The dependents of a fragment are met in descending order,
each with all that depends on it. The walk ends at a fragment that is not known. -/
def cone (layout : Layout) (known : FragmentId → Bool) (healthy : List FragmentId) :
    List FragmentId → Walk
  | [] => {}
  | top :: below =>
    if known top = false then { fault := some (.unknownFragment top) }
    else if _ : top ∈ healthy then
      (cone layout known (healthy.erase top) ((layout.dependents top).reverse ++ below)).after top
    else cone layout known healthy below
-- A fragment that is met puts its dependents on the stack, and is met no more.
termination_by stack =>
  (healthy.flatMap fun id => id :: layout.dependents id).length + stack.length
decreasing_by
  · rw [length_flatMap_eq_add_erase ‹top ∈ healthy›, List.length_append, List.length_reverse,
      List.length_cons, List.length_cons]
    omega
  · exact Nat.add_lt_add_left (Nat.lt_succ_self _) _

/-- Whether a fragment is in the books and in the plan. -/
def knows (run : Run α) (id : FragmentId) : Bool :=
  (run.progress.get? id).isSome && (run.plan.layout.fragment? id).isSome

/-- The fragments that are not marked as failed, the root included. -/
def healthy (run : Run α) : List FragmentId :=
  (run.progress.filter fun _ progress => !progress.failed).keys

/-- The walk to a fragment and all that depends on it. -/
def walk (run : Run α) (id : FragmentId) : Walk :=
  cone run.plan.layout run.knows run.healthy [id]

/-- The nodes of a fragment. -/
def nodesOf (run : Run α) (id : FragmentId) : List NodeId :=
  ((run.plan.layout.fragment? id).map Fragment.nodes).getD []

/-- Mark a fragment as failed. -/
def markFailed (run : Run α) (id : FragmentId) : Run α :=
  { run with progress := run.progress.modify id fun progress => { progress with failed := true } }

/-- Mark what the failure of a fragment has met, and settle the run when this reaches
the root for the first time. -/
def markAll (run : Run α) (id : FragmentId) (cause : Cause) (met : List FragmentId) : Run α :=
  let marked := met.foldl markFailed run
  if FragmentId.root ∈ met then
    marked.settle (.error (.fragment id (run.nodesOf id) (met.flatMap run.nodesOf) cause))
  else marked

/-- A fragment has failed: mark it and all that depends on it. -/
def fail (run : Run α) (id : FragmentId) (cause : Cause) : RunTurn α :=
  let walk := run.walk id
  match walk.fault with
  | some fault => .fault fault { walk.met.foldl markFailed run with agenda := [] }
  | none => .returned (run.markAll id cause walk.met)

/-! ## Reports -/

/-- Write down that a fragment has completed: keep its values, and take its time if
this is running. -/
def noteSuccess (run : Run α) (id : FragmentId) (outputs : List (NodeId × α)) : Run α :=
  { run with
    outputs := run.outputs.insertAll outputs
    running := run.running.erase id
    timings := if id ∈ run.running then run.timings.insert id else run.timings
    completed := run.completed.insert id }

/-- A fragment has completed: write it down and unblock what depends on it. -/
def succeed (run : Run α) (id : FragmentId) (outputs : List (NodeId × α)) : RunTurn α :=
  if run.knows id then
    (run.noteSuccess id outputs).work ((run.plan.layout.dependents id).map .unblock)
  else .fault (.unknownFragment id) { run with agenda := [] }

/-- A report on an outstanding job; there is no other to report on. -/
def report (run : Run α) (id : FragmentId) (report : Report α) : Option (RunTurn α) :=
  if id ∈ run.outstanding then
    let run := { run with outstanding := run.outstanding.erase id }
    some <| match report with
      | .succeeded outputs => run.succeed id outputs
      | .failed cause => run.fail id cause
      | .dropped => run.fail id (droppedCause id)
  else none

/-! ## Asking for the outcome -/

/-- Whether something can still be reported: a job is outstanding, or a call has not
returned. -/
def isHeld (run : Run α) : Bool := !run.outstanding.isEmpty || !run.agenda.isEmpty

/-- What there is to say of the outcome. A run that is not settled and that nobody holds
any more is abandoned. -/
def answer? (run : Run α) : Option (Outcome α) :=
  match run.outcome with
  | some outcome => some outcome
  | none => if run.isHeld then none else some (.error .abandoned)

end Run

end ValueEngine
