import ValueEngine.Data.SortedMap
import ValueEngine.Fragment.Basic
import ValueEngine.Time.Duration

/-!
# Waterfalls of jobs

The timings of the jobs of one execution are shown as a waterfall: one row for
each job in the order of their starts, with a bar that begins and ends in
proportion to the time from the first start to the last end. A bar is at least
one column wide, and the time of all jobs together counts as at least one
microsecond.
-/

set_option autoImplicit false

namespace ValueEngine

/-- When a job ran. -/
structure Timing where
  /-- The start, measured from an origin that all jobs share. -/
  start : Duration
  /-- How long the job ran. -/
  duration : Duration
deriving DecidableEq, Inhabited

namespace Timing

/-- The end of a job in nanoseconds. -/
def finish (timing : Timing) : Nat := timing.start.nanoseconds + timing.duration.nanoseconds

end Timing

/-- The timings of the jobs of an execution. -/
abbrev Timings := SortedMap FragmentId Timing

namespace Timings

/-- The number of columns for the whole time. -/
def width : Float := 40

/-- The columns for a part of the whole time, a half counting as one. -/
def columns (microseconds : Nat) (total : Float) : Nat :=
  (microseconds.toUInt64.toFloat / total * width).round.toUInt64.toNat

/-- A text with blanks in front up to a width. -/
def padLeft (size : Nat) (text : String) : String := "".pushn ' ' (size - text.length) ++ text

/-- The row of a job. -/
def row (first : Nat) (total : Float) (id : FragmentId) (timing : Timing) : String :=
  let offset : Duration := ⟨timing.start.nanoseconds - first⟩
  let lead := columns offset.microseconds total
  let bar := max (columns timing.duration.microseconds total) 1
  padLeft 6 (FragmentId.text id) ++ " |" ++ "".pushn ' ' lead ++ "".pushn '=' bar ++ "| " ++
    timing.duration.text ++ "\n"

/-- Whether a job comes before another one: it starts earlier, or at the same time
with a lower number. -/
def precedes (first second : FragmentId × Timing) : Bool :=
  let firstStart := first.2.start.nanoseconds
  let secondStart := second.2.start.nanoseconds
  decide (firstStart < secondStart) ||
    (decide (firstStart = secondStart) && decide (first.1 ≤ second.1))

/-- The waterfall of some jobs. -/
def waterfall (timings : Timings) : String :=
  match timings.toList.mergeSort precedes with
  | [] => "No jobs ran\n"
  | first :: rest =>
    let start := first.2.start.nanoseconds
    let finish := ((first :: rest).map fun job => job.2.finish).foldl max 0
    let total := (max (Duration.microseconds ⟨finish - start⟩) 1).toUInt64.toFloat
    String.join ((first :: rest).map fun job => row start total job.1 job.2)

end Timings

end ValueEngine
