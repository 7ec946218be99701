import ValueEngine.Document
import ValueEngine.Sizing.Basic

/-!
# Reading a sizing

A sizing is read from a record with one field per bound, or from a list of the
bounds in their order. A bound that is missing has its usual value, and fields
of other names do not matter. A bound that is there has to be a whole number of
at most 64 bits.
-/

set_option autoImplicit false

namespace ValueEngine.Sizing

/-- The bound in a field of a record, or its usual value. -/
def boundOfField? (document : Document) (name : String) (usual : Nat) : Option Nat :=
  match document.field? name with
  | none => some usual
  | some value => value.natural?

/-- The bound at a place of a list, or its usual value. -/
def boundOfItem? (items : List Document) (position usual : Nat) : Option Nat :=
  match items[position]? with
  | none => some usual
  | some value => value.natural?

/-- Read a sizing from a record or a list; without a document it is the usual
one. -/
def ofDocument? : Document → Option Sizing
  | .null => some {}
  | .record fields => do
    let document := Document.record fields
    let usual : Sizing := {}
    return {
      minItems := ← boundOfField? document "min_job_items" usual.minItems
      maxItems := ← boundOfField? document "max_job_items" usual.maxItems
      minCost := ← boundOfField? document "min_job_cost" usual.minCost
      maxCost := ← boundOfField? document "max_job_cost" usual.maxCost
      maxConcurrency := ← boundOfField? document "max_concurrency" usual.maxConcurrency }
  | .list items => do
    let usual : Sizing := {}
    if 5 < items.length then none
    return {
      minItems := ← boundOfItem? items 0 usual.minItems
      maxItems := ← boundOfItem? items 1 usual.maxItems
      minCost := ← boundOfItem? items 2 usual.minCost
      maxCost := ← boundOfItem? items 3 usual.maxCost
      maxConcurrency := ← boundOfItem? items 4 usual.maxConcurrency }
  | _ => none

end ValueEngine.Sizing
