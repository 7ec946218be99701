import ValueEngine.Decimal.Fixed
import ValueEngine.Statistics.Recording
import ValueEngine.Time.Duration

/-!
# Notices

Figures can be announced as they arise. A notice has a level and named texts,
among them a message for readers.
-/

set_option autoImplicit false

namespace ValueEngine

/-- An announcement. -/
structure Notice where
  /-- How important it is. -/
  level : String
  /-- The texts by name. -/
  fields : List (String × String)
deriving DecidableEq

/-- The notice of a plan; the means have one decimal place. -/
def PlanFigures.notice (figures : PlanFigures) : Notice where
  level := "INFO"
  fields :=
    [("calc_config", figures.configuration), ("fragments", toString figures.fragments),
      ("message",
        "partitioned into " ++ toString figures.fragments ++ " fragments, " ++
          Decimal.oneDecimal figures.meanSize ++ " nodes and cost " ++
          Decimal.oneDecimal figures.meanCost ++ " on average")]

/-- The notice of a graph that was executed in some time. -/
def ExecutionFigures.notice (figures : ExecutionFigures) (elapsed : Duration) : Notice where
  level := "INFO"
  fields :=
    [("calc_config", figures.configuration), ("nodes", toString figures.nodes),
      ("message", "executed " ++ toString figures.nodes ++ " nodes in " ++ elapsed.text)]

end ValueEngine
