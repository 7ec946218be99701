import ValueEngine.Data.SortedMap
import ValueEngine.Fragment.Basic
import ValueEngine.Graph.Order

/-!
# Jobs and outcomes

A job is what a worker gets to run one fragment: the nodes in order and the
values that they consume from outside. The worker reports the values of the
nodes or a cause of failure, or drops the job without a report.

The outcome of an execution is the value of every node or an error. A cause of
failure is a text together with the texts that lie behind it, the outermost
first; the message of an error shows the outermost only.
-/

set_option autoImplicit false

namespace ValueEngine

universe u

/-! ## Causes -/

/-- Why a job failed. -/
structure Cause where
  /-- The outermost text. -/
  summary : String
  /-- The texts behind it, the outer ones first. -/
  sources : List String := []
deriving DecidableEq, Inhabited

namespace Cause

/-- All texts of a cause, the outermost first. -/
def chain (cause : Cause) : List String := cause.summary :: cause.sources

/-- A cause seen in a wider context. -/
def wrap (cause : Cause) (context : String) : Cause := ⟨context, cause.chain⟩

end Cause

/-! ## Jobs -/

/-- What a worker gets to run a fragment. -/
structure Job (α : Type u) where
  /-- The fragment. -/
  fragment : FragmentId
  /-- The nodes in the order of their execution. -/
  nodes : List NodeId
  /-- The values that are consumed from outside, by the nodes that produced them. -/
  inputs : List (NodeId × α)
  /-- The fragments that may follow on the same worker. -/
  tails : List FragmentId
  /-- The colour of the fragment. -/
  colour : Nat
  /-- The cost of the fragment. -/
  cost : Cost
deriving DecidableEq

/-- How a job is called, by its number and the configuration of its graph. -/
def jobText (number : Nat) (configuration : String) : String :=
  "job " ++ toString number ++ " (" ++ configuration ++ ")"

/-- How the right to report on a fragment shows itself while it is not used. -/
def receiverText (fragment : FragmentId) : String :=
  "JobResultReceiver \x7b fragment: FragmentId(" ++ toString fragment ++ "), pending: true \x7d"

/-- What becomes of a job. -/
inductive Report (α : Type u) where
  /-- The nodes have these values. -/
  | succeeded (outputs : List (NodeId × α))
  /-- The job failed. -/
  | failed (cause : Cause)
  /-- Nobody is going to report on the job. -/
  | dropped
deriving DecidableEq

/-- The cause of failure of a job that nobody reports on. -/
def droppedCause (fragment : FragmentId) : Cause :=
  ⟨"job for fragment " ++ FragmentId.text fragment ++ " dropped without a result", []⟩

/-! ## Outcomes -/

/-- The values of a graph. -/
structure GraphValues (α : Type u) where
  /-- The calculation configuration of the graph. -/
  configuration : String
  /-- The values by node. -/
  outputs : SortedMap NodeId α
  /-- The fragments whose time was taken. -/
  timed : SortedSet FragmentId
deriving DecidableEq

/-- Why a graph has no values. -/
inductive OutcomeError where
  /-- The graph has a cycle. -/
  | cycle (cycle : Cycle)
  /-- There is no outcome to be had. -/
  | abandoned
  /-- A fragment failed; `failed` are all nodes that are not executed for it. -/
  | fragment (fragment : FragmentId) (nodes failed : List NodeId) (cause : Cause)
deriving DecidableEq

/-- The text of an error. -/
def OutcomeError.message : OutcomeError → String
  | cycle found => found.message
  | abandoned => "Execution was dropped before the graph completed"
  | fragment id nodes failed cause =>
    "Fragment " ++ FragmentId.text id ++ " (" ++ toString nodes.length ++ " nodes) failed, " ++
      toString failed.length ++ " nodes not executed:\n" ++ cause.summary

/-- The values of a graph, or why there are none. -/
abbrev Outcome (α : Type u) := Except OutcomeError (GraphValues α)

end ValueEngine
