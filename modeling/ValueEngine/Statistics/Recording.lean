import ValueEngine.Plan.Basic

/-!
# Recorded statistics

Two figures are recorded: for every graph that is split into fragments the size
of its plan, and for every graph that is executed with success its number of
nodes.
-/

set_option autoImplicit false

namespace ValueEngine

/-- What is recorded of a plan. -/
structure PlanFigures where
  /-- The calculation configuration of the graph. -/
  configuration : String
  /-- The number of fragments. -/
  fragments : Nat
  /-- The mean number of nodes of a fragment. -/
  meanSize : Float
  /-- The mean cost of a fragment. -/
  meanCost : Float

/-- What is recorded of a graph that was executed. -/
structure ExecutionFigures where
  /-- The calculation configuration of the graph. -/
  configuration : String
  /-- The number of nodes. -/
  nodes : Nat
deriving DecidableEq

/-- All figures in the order in which they were recorded. -/
structure Statistics where
  /-- One entry for each plan. -/
  processed : List PlanFigures := []
  /-- One entry for each success. -/
  executed : List ExecutionFigures := []

/-- The figures of a plan. -/
def Plan.figures (plan : Plan) (configuration : String) : PlanFigures where
  configuration := configuration
  fragments := plan.size
  meanSize := plan.meanSize
  meanCost := plan.meanCost

/-- The figures of a graph that was executed. -/
def Graph.figures (graph : Graph) : ExecutionFigures := ⟨graph.configuration, graph.size⟩

namespace Statistics

/-- Record a plan. -/
def recordPlan (statistics : Statistics) (figures : PlanFigures) : Statistics :=
  { statistics with processed := statistics.processed ++ [figures] }

/-- Record a success. -/
def recordExecution (statistics : Statistics) (figures : ExecutionFigures) : Statistics :=
  { statistics with executed := statistics.executed ++ [figures] }

end Statistics

end ValueEngine
