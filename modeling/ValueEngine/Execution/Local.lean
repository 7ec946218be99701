import ValueEngine.Execution.Engine
import ValueEngine.Execution.Invocation

/-!
# Executing in place

A graph can be executed without a dispatcher of its own: launched jobs wait in a
queue, and the first of them is run and reported on as long as there is one. A
plan has at most one fragment for each node, and each is launched and reported
on once, which bounds the number of turns.
-/

set_option autoImplicit false

namespace ValueEngine.Engine

universe u

variable {α : Type u}

/-- Let the dispatcher put jobs into the queue and report on them, for a number
of turns. -/
def drain (graph : Graph) (invoker : Invoker α) :
    (turns : Nat) → (queue : List (Nat × Job α)) → EngineTurn α → Engine α
  | 0, _, .launched _ _ _ engine => engine
  | 0, _, .returned engine => engine
  | turns + 1, queue, .launched number _ job engine =>
    drain graph invoker turns (queue ++ [(number, job)]) engine.resume
  | turns + 1, queue, .returned engine =>
    match queue with
    | [] => engine
    | (number, job) :: waiting =>
      match engine.report number (job.run graph invoker) with
      | none => engine
      | some turn => drain graph invoker turns waiting turn
  | _, _, .fault _ engine => engine

/-- Execute a graph to its end. -/
def executeInPlace (engine : Engine α) (graph : Graph) (cost : Node → Cost) (sizing : Sizing)
    (invoker : Invoker α) : Engine α :=
  drain graph invoker (2 * graph.size) [] (engine.execute graph cost sizing)

end ValueEngine.Engine
