import ValueEngine.Data.SortedMap
import ValueEngine.Data.Word
import ValueEngine.Graph.Basic

/-!
# Estimated costs

The cost of invoking a node is estimated in arbitrary units. Costs stay within a
64 bit limit: a sum that would exceed it is the limit (`Cost.add`).

A cost table gives some functions a cost of their own and all others a common
one.
-/

set_option autoImplicit false

namespace ValueEngine

/-- An estimated cost. -/
structure Cost where
  /-- The number of units. -/
  units : Nat
  /-- The units fit in 64 bits. -/
  units_le : units ≤ greatestWord
deriving DecidableEq

namespace Cost

/-- The cost of a number of units, at most the limit. -/
def ofNat (units : Nat) : Cost := ⟨min units greatestWord, Nat.min_le_right _ _⟩

instance : Inhabited Cost := ⟨ofNat 0⟩

/-- Costs add up to at most the limit. -/
def add (first second : Cost) : Cost := ofNat (first.units + second.units)

instance : Add Cost := ⟨add⟩

/-- The sum of some costs, at most the limit. -/
def sum (costs : List Cost) : Cost := costs.foldl add (ofNat 0)

theorem units_add (first second : Cost) :
    (first + second).units = min (first.units + second.units) greatestWord := rfl

theorem ext_units {first second : Cost} (same : first.units = second.units) : first = second := by
  cases first
  cases second
  cases same
  rfl

end Cost

/-- Costs of single functions, and the cost of all others. -/
structure CostTable where
  /-- The cost of a function that has none of its own. -/
  common : Cost := Cost.ofNat 1
  /-- The functions with a cost of their own. -/
  own : SortedMap String Cost := ∅

namespace CostTable

/-- Give a function a cost of its own. -/
def set (table : CostTable) (function : String) (cost : Cost) : CostTable :=
  { table with own := table.own.insert function cost }

/-- The cost of invoking a node: parameters and target do not matter. -/
def cost (table : CostTable) (node : Node) : Cost :=
  (table.own.get? node.function.id).getD table.common

end CostTable

end ValueEngine
