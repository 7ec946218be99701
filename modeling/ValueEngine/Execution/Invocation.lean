import ValueEngine.Execution.Outcome

/-!
# Invoking the nodes of a job

A worker invokes the nodes of a job in order. A node gets the values of its
inputs in ascending order of their positions; they come from outside the job or
from nodes that were invoked before. The first node that fails ends the job.
-/

set_option autoImplicit false

namespace ValueEngine

universe u

variable {α : Type u}

/-- What comes of invoking a node. -/
inductive Invocation (α : Type u) where
  /-- The node has a value. -/
  | value (value : α)
  /-- The node has failed. -/
  | failure (cause : Cause)
  /-- The function has crashed, perhaps with a message. -/
  | crash (message : Option String)

/-- Computes the value of a node from the values of its inputs. -/
abbrev Invoker (α : Type u) := Node → List α → Invocation α

/-- The cause of failure of a job in which a function crashed. -/
def crashCause : Option String → Cause
  | some message => ⟨"Job panicked: " ++ message, []⟩
  | none => ⟨"Job panicked with unknown payload", []⟩

/-- The cause of failure of a job that lacks the value of an input. -/
def missingCause (input node : Node) : Cause :=
  ⟨"Missing value of " ++ input.text ++ " for " ++ node.text, []⟩

/-- The values of the inputs of a node, as far as they are known; the first one
that is not gives a cause of failure. -/
def inputValues (graph : Graph) (known : SortedMap NodeId α) (node : Node) (position : NodeId) :
    Except Cause (List α) :=
  (SortedSet.ofList (graph.inputs position)).toList.mapM fun input =>
    match known.get? input with
    | some value => .ok value
    | none => .error (missingCause ((graph.node? input).getD default) node)

/-- Invoke a node. -/
def invokeNode (graph : Graph) (invoker : Invoker α) (known : SortedMap NodeId α)
    (position : NodeId) : Except Cause α := do
  let node := (graph.node? position).getD default
  match invoker node (← inputValues graph known node position) with
  | .value value => .ok value
  | .failure cause => .error (cause.wrap ("Failed to execute " ++ node.text))
  | .crash message => .error (crashCause message)

/-- Invoke some nodes in order, each knowing the values of those before it. -/
def invokeAll (graph : Graph) (invoker : Invoker α) (known : SortedMap NodeId α) :
    List NodeId → Except Cause (List (NodeId × α))
  | [] => .ok []
  | position :: rest => do
    let value ← invokeNode graph invoker known position
    let others ← invokeAll graph invoker (known.insert position value) rest
    return (position, value) :: others

/-- Run a job: invoke its nodes and report. -/
def Job.run (job : Job α) (graph : Graph) (invoker : Invoker α) : Report α :=
  match invokeAll graph invoker (SortedMap.ofList job.inputs) job.nodes with
  | .ok outputs => .succeeded outputs
  | .error cause => .failed cause

end ValueEngine
