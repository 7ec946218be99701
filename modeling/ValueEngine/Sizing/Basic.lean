import ValueEngine.Data.Word

/-!
# Job sizes

A sizing says how large jobs should be: a fragment below either minimum is worth
merging (`Sizing.meetsMinima`), no merge may go above either maximum
(`Sizing.withinMaxima`), and a bound on concurrency says how many fragments of one
colour may run at the same simulated instant.

A sizing is valid when neither minimum exceeds its maximum and the concurrency
is at least one. `Sizing.flaw?` gives the first fault in this order.
-/

set_option autoImplicit false

namespace ValueEngine

/-- Bounds on the size of jobs and on their concurrency. -/
structure Sizing where
  /-- Fragments with fewer nodes are worth merging. -/
  minItems : Nat := 1
  /-- No merge goes above this number of nodes. -/
  maxItems : Nat := greatestWord
  /-- Fragments with a lower cost are worth merging. -/
  minCost : Nat := 1
  /-- No merge goes above this cost. -/
  maxCost : Nat := greatestWord
  /-- At most this many fragments of one colour run at the same instant. -/
  maxConcurrency : Nat := greatestWord
deriving DecidableEq, Inhabited

/-- A fault of a sizing. -/
inductive SizingFlaw where
  /-- The least number of nodes exceeds the greatest. -/
  | items (least greatest : Nat)
  /-- The least cost exceeds the greatest. -/
  | cost (least greatest : Nat)
  /-- No fragment at all could run. -/
  | concurrency
deriving DecidableEq

/-- The text of a fault. -/
def SizingFlaw.message : SizingFlaw → String
  | items least greatest =>
    "min_job_items (" ++ toString least ++ ") exceeds max_job_items (" ++ toString greatest ++ ")"
  | cost least greatest =>
    "min_job_cost (" ++ toString least ++ ") exceeds max_job_cost (" ++ toString greatest ++ ")"
  | concurrency => "max_concurrency must be at least 1"

namespace Sizing

/-- The first fault of a sizing: numbers of nodes, then costs, then concurrency. -/
def flaw? (sizing : Sizing) : Option SizingFlaw :=
  if sizing.maxItems < sizing.minItems then some (.items sizing.minItems sizing.maxItems)
  else if sizing.maxCost < sizing.minCost then some (.cost sizing.minCost sizing.maxCost)
  else if sizing.maxConcurrency = 0 then some .concurrency
  else none

/-- Neither minimum exceeds its maximum, and something may run. -/
structure Valid (sizing : Sizing) : Prop where
  /-- Some number of nodes is within the bounds. -/
  items : sizing.minItems ≤ sizing.maxItems
  /-- Some cost is within the bounds. -/
  cost : sizing.minCost ≤ sizing.maxCost
  /-- At least one fragment of a colour may run. -/
  concurrency : 0 < sizing.maxConcurrency

/-- A sizing without a fault is a valid one. -/
theorem flaw?_eq_none_iff {sizing : Sizing} : sizing.flaw? = none ↔ sizing.Valid := by
  unfold flaw?
  constructor
  · intro absent
    split at absent
    · cases absent
    · split at absent
      · cases absent
      · split at absent
        · cases absent
        · exact ⟨by omega, by omega, by omega⟩
  · rintro ⟨items, cost, concurrency⟩
    rw [if_neg (by omega), if_neg (by omega), if_neg (by omega)]

/-- Whether so many nodes of this cost need no merging. -/
def meetsMinima (sizing : Sizing) (items cost : Nat) : Bool :=
  decide (sizing.minCost ≤ cost) && decide (sizing.minItems ≤ items)

/-- Whether so many nodes of this cost may be the result of a merge. -/
def withinMaxima (sizing : Sizing) (items cost : Nat) : Bool :=
  decide (items ≤ sizing.maxItems) && decide (cost ≤ sizing.maxCost)

/-- How an engine with this sizing shows itself. -/
def engineText (sizing : Sizing) : String :=
  "GraphExecutor \x7b config: ExecutorConfig \x7b min_job_items: " ++ toString sizing.minItems ++
    ", max_job_items: " ++ toString sizing.maxItems ++
    ", min_job_cost: " ++ toString sizing.minCost ++
    ", max_job_cost: " ++ toString sizing.maxCost ++
    ", max_concurrency: " ++ toString sizing.maxConcurrency ++ " \x7d, .. \x7d"

end Sizing

end ValueEngine
