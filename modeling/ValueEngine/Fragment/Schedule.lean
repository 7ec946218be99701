import ValueEngine.Data.SortedMap
import ValueEngine.Fragment.Basic

/-!
# The simulated schedule

The execution of a layout is simulated with estimated costs and without any
limit on what runs at once. A fragment starts when the last of its inputs has
finished, at instant zero when it has none, and then runs for its ticks.

Starts are settled in rounds: each round settles the fragments whose inputs are
all settled. In a layout without cycles every fragment is settled in the end.
-/

set_option autoImplicit false

namespace ValueEngine

/-- When a fragment runs: from its start up to, but not including, its finish. -/
structure Span where
  /-- The first instant. -/
  start : Nat
  /-- The instant after the last. -/
  finish : Nat
deriving DecidableEq, Inhabited

/-- The times of some fragments. -/
abbrev Schedule := SortedMap FragmentId Span

namespace Schedule

/-- When a fragment has finished, zero when it has no times. -/
def finish (schedule : Schedule) (id : FragmentId) : Nat :=
  ((schedule.get? id).map Span.finish).getD 0

/-- When a fragment starts, zero when it has no times. -/
def start (schedule : Schedule) (id : FragmentId) : Nat :=
  ((schedule.get? id).map Span.start).getD 0

/-- The instant at which the last of some fragments has finished. -/
def lastFinish (schedule : Schedule) (ids : List FragmentId) : Nat :=
  (ids.map schedule.finish).foldl max 0

/-- The times of a fragment whose inputs have theirs. -/
def spanOf (schedule : Schedule) (fragment : Fragment) : Span :=
  let start := schedule.lastFinish fragment.inputs.toList
  { start, finish := start + fragment.ticks }

/-- Whether all inputs of a fragment have times. -/
def isReady (schedule : Schedule) (fragment : Fragment) : Bool :=
  fragment.inputs.toList.all schedule.contains

/-- The pending fragments that are not ready. -/
def unready (schedule : Schedule) (pending : List Fragment) : List Fragment :=
  pending.filter fun fragment => !schedule.isReady fragment

/-- The schedule after the pending fragments that are ready got their times. -/
def round (schedule : Schedule) (pending : List Fragment) : Schedule :=
  SortedMap.insertAll schedule <|
    (pending.filter schedule.isReady).map fun fragment => (fragment.id, schedule.spanOf fragment)

/-- Settle the pending fragments round by round, until no more of them become
ready. -/
def settle (schedule : Schedule) (pending : List Fragment) : Schedule :=
  if (schedule.unready pending).length < pending.length then
    settle (schedule.round pending) (schedule.unready pending)
  else schedule
termination_by pending.length

end Schedule

/-- The simulated schedule of a layout. -/
def Layout.schedule (layout : Layout) : Schedule := Schedule.settle ∅ layout.fragments

end ValueEngine
