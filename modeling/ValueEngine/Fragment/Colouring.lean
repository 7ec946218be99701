import ValueEngine.Fragment.Schedule

/-!
# Colours and tails

Fragments of one colour can run one after the other on the same worker. In the
order of the simulated schedule, a fragment whose inputs all have one colour
takes this colour and becomes a tail of each input, provided that fewer
fragments of the colour are running than the concurrency allows. Any other
fragment opens a new colour. Colours are counted from one.

At each instant the fragments that finish are looked at before those that start,
and each group in ascending order.
-/

set_option autoImplicit false

namespace ValueEngine

/-- The colour and the tails of each fragment. -/
structure Colouring where
  /-- The colour of each fragment that has one. -/
  colours : SortedMap FragmentId Nat := ∅
  /-- The fragments that may run straight after a fragment on its worker. -/
  tails : SortedMap FragmentId (List FragmentId) := ∅
deriving DecidableEq, Inhabited

namespace Colouring

/-- The colour of a fragment, zero when it has none. -/
def colour (colouring : Colouring) (id : FragmentId) : Nat := (colouring.colours.get? id).getD 0

/-- The tails of a fragment in the order in which they start. -/
def tailsOf (colouring : Colouring) (id : FragmentId) : List FragmentId :=
  (colouring.tails.get? id).getD []

/-- The colour that some fragments share, if there are any and they agree. -/
def shared? (colouring : Colouring) : List FragmentId → Option Nat
  | [] => none
  | first :: rest =>
    if rest.all fun other => colouring.colour other == colouring.colour first then
      some (colouring.colour first)
    else none

/-- Give a fragment a colour. -/
def paint (colouring : Colouring) (id : FragmentId) (colour : Nat) : Colouring :=
  { colouring with colours := colouring.colours.insert id colour }

/-- Make a fragment a tail of another. -/
def addTail (tail : FragmentId) (colouring : Colouring) (id : FragmentId) : Colouring :=
  { colouring with tails := colouring.tails.insert id (colouring.tailsOf id ++ [tail]) }

end Colouring

/-- The state of the sweep over the simulated instants. -/
structure Sweep where
  /-- What has been decided so far. -/
  colouring : Colouring := {}
  /-- How many fragments of each colour are running. -/
  running : SortedMap Nat Nat := ∅
  /-- The number of colours that have been opened. -/
  opened : Nat := 0
deriving DecidableEq, Inhabited

namespace Sweep

/-- How many fragments of a colour are running. -/
def runningOf (sweep : Sweep) (colour : Nat) : Nat := (sweep.running.get? colour).getD 0

/-- A fragment finishes. -/
def finish (sweep : Sweep) (fragment : Fragment) : Sweep :=
  let colour := sweep.colouring.colour fragment.id
  { sweep with running := sweep.running.insert colour (sweep.runningOf colour - 1) }

/-- A fragment starts in the colour of its inputs. -/
def join (sweep : Sweep) (fragment : Fragment) (colour : Nat) : Sweep :=
  { sweep with
    colouring :=
      fragment.inputs.toList.foldl (Colouring.addTail fragment.id)
        (sweep.colouring.paint fragment.id colour)
    running := sweep.running.insert colour (sweep.runningOf colour + 1) }

/-- A fragment starts in a colour of its own. -/
def openColour (sweep : Sweep) (fragment : Fragment) : Sweep where
  colouring := sweep.colouring.paint fragment.id (sweep.opened + 1)
  running := sweep.running.insert (sweep.opened + 1) 1
  opened := sweep.opened + 1

/-- A fragment starts. -/
def start (maxConcurrency : Nat) (sweep : Sweep) (fragment : Fragment) : Sweep :=
  match sweep.colouring.shared? fragment.inputs.toList with
  | some colour =>
    if sweep.runningOf colour < maxConcurrency then sweep.join fragment colour
    else sweep.openColour fragment
  | none => sweep.openColour fragment

/-- What happens at one instant: finishes first, then starts. -/
def instant (layout : Layout) (schedule : Schedule) (maxConcurrency : Nat) (sweep : Sweep)
    (time : Nat) : Sweep :=
  let finishing := layout.fragments.filter fun fragment => schedule.finish fragment.id = time
  let starting := layout.fragments.filter fun fragment => schedule.start fragment.id = time
  starting.foldl (start maxConcurrency) (finishing.foldl finish sweep)

end Sweep

/-- The instants at which something starts or finishes, in ascending order. -/
def Schedule.instants (schedule : Schedule) : List Nat :=
  (SortedSet.ofList (schedule.values.flatMap fun span => [span.start, span.finish])).toList

/-- The colouring of a layout, found in one sweep over its simulated schedule. -/
def Layout.colouring (layout : Layout) (maxConcurrency : Nat) : Colouring :=
  let schedule := layout.schedule
  (schedule.instants.foldl (Sweep.instant layout schedule maxConcurrency) {}).colouring

end ValueEngine
