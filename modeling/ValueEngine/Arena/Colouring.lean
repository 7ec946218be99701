import ValueEngine.Arena.Basic
import ValueEngine.Fragment.Colouring

/-!
# Colouring in place

The start times of fragments in slots are settled depth first, with a stack: a fragment stays on it
until all of its inputs have their times. The sweep that follows keeps the counts of running
fragments in a list with one place for each colour and one for fragments without a colour.

Times and counts are looked up by number. A lookup that finds nothing fails, and so does lowering a
count below zero.
-/

set_option autoImplicit false

namespace ValueEngine

namespace Arena

/-! ## Start times -/

/-- The instant at which the last of some fragments has finished, by their starts. -/
def lastFinish (arena : Arena) (starts : List (Option Nat)) (inputs : List FragmentId) :
    Option Nat := do
  let finishes ← inputs.mapM fun input => do
    let start ← starts[input]?
    let fragment ← arena.fragment? input
    return start.getD 0 + fragment.ticks
  return finishes.foldl max 0

/-- The fragments of a list that have no start yet. -/
def pending (starts : List (Option Nat)) (inputs : List FragmentId) : Option (List FragmentId) := do
  let known ← inputs.mapM fun input => do
    let start ← starts[input]?
    return (input, start)
  return (known.filter fun entry => entry.2.isNone).map Prod.fst

/-- Settle the starts of the fragments on a stack, its top first. A fragment waits on the stack
while its inputs are settled. One that has waited and comes up again before they are waits for
itself and never gets a start; so it has to be `fresh` when it begins to wait. -/
def settle (arena : Arena) (fresh stack : List FragmentId) (starts : List (Option Nat)) :
    Option (List (Option Nat)) :=
  match stack with
  | [] => some starts
  | top :: below => do
    let start ← starts[top]?
    if start.isSome then settle arena fresh below starts
    else
      let fragment ← arena.fragment? top
      let unsettled ← pending starts fragment.inputs.toList
      if unsettled.isEmpty then
        let start ← arena.lastFinish starts fragment.inputs.toList
        settle arena fresh below (starts.set top (some start))
      else if top ∈ fresh then
        settle arena (fresh.erase top) (unsettled.reverse ++ top :: below) starts
      else none
termination_by (fresh.length, stack.length)
decreasing_by
  · exact Prod.Lex.right _ (Nat.lt_succ_self _)
  · exact Prod.Lex.right _ (Nat.lt_succ_self _)
  · apply Prod.Lex.left
    have := List.length_pos_of_mem ‹top ∈ fresh›
    rw [List.length_erase_of_mem ‹top ∈ fresh›]
    omega

/-- The start of every fragment. -/
def startTimes (arena : Arena) : Option (List (Option Nat)) :=
  (arena.fragments.map Fragment.id).foldlM
    (fun starts id => arena.settle (List.range arena.slots.length) [id] starts)
    (List.replicate arena.slots.length none)

/-- When every fragment runs. -/
def spans (arena : Arena) : Option (List (FragmentId × Span)) := do
  let starts ← arena.startTimes
  arena.fragments.mapM fun fragment => do
    let start ← starts[fragment.id]?
    return (fragment.id, ⟨start.getD 0, start.getD 0 + fragment.ticks⟩)

/-! ## The sweep -/

/-- The state of the sweep over the simulated instants. -/
structure Palette where
  /-- What has been decided so far. -/
  colouring : Colouring := {}
  /-- How many fragments of each colour are running. -/
  running : List Nat := [0]

/-- The colour of a fragment. -/
def colour (arena : Arena) (palette : Palette) (id : FragmentId) : Option Nat := do
  let _ ← arena.fragment? id
  return palette.colouring.colour id

/-- The colour that some fragments share, if there are any and they agree. -/
def sharedColour (arena : Arena) (palette : Palette) (ids : List FragmentId) :
    Option (Option Nat) := do
  let _ ← ids.mapM arena.fragment?
  return palette.colouring.shared? ids

/-- A fragment finishes. -/
def finish (arena : Arena) (palette : Palette) (id : FragmentId) : Option Palette := do
  let colour ← arena.colour palette id
  let count ← palette.running[colour]?
  if count = 0 then none
  else some { palette with running := palette.running.set colour (count - 1) }

/-- Give a fragment a colour. -/
def paint (arena : Arena) (palette : Palette) (id : FragmentId) (colour : Nat) :
    Option Palette := do
  let _ ← arena.fragment? id
  return { palette with colouring := palette.colouring.paint id colour }

/-- Make a fragment a tail of another. -/
def addTail (arena : Arena) (tail : FragmentId) (palette : Palette) (id : FragmentId) :
    Option Palette := do
  let _ ← arena.fragment? id
  return { palette with colouring := palette.colouring.addTail tail id }

/-- A fragment starts in a colour of its own. -/
def openColour (arena : Arena) (palette : Palette) (id : FragmentId) : Option Palette :=
  arena.paint { palette with running := palette.running ++ [1] } id palette.running.length

/-- A fragment starts. -/
def start (arena : Arena) (maxConcurrency : Nat) (palette : Palette) (id : FragmentId) :
    Option Palette := do
  let fragment ← arena.fragment? id
  match ← arena.sharedColour palette fragment.inputs.toList with
  | some colour =>
    let count ← palette.running[colour]?
    if count < maxConcurrency then
      let painted ← arena.paint palette id colour
      let counted := { painted with running := painted.running.set colour (count + 1) }
      fragment.inputs.toList.foldlM (arena.addTail id) counted
    else arena.openColour palette id
  | none => arena.openColour palette id

/-- What happens at one instant: finishes first, then starts. -/
def instant (arena : Arena) (maxConcurrency : Nat) (spans : List (FragmentId × Span))
    (palette : Palette) (time : Nat) : Option Palette := do
  let finishing := (spans.filter fun entry => entry.2.finish = time).map Prod.fst
  let starting := (spans.filter fun entry => entry.2.start = time).map Prod.fst
  let palette ← finishing.foldlM arena.finish palette
  starting.foldlM (arena.start maxConcurrency) palette

/-- The colours of the fragments, found in one sweep over their simulated schedule. -/
def assign (arena : Arena) (maxConcurrency : Nat) : Option Colouring := do
  let spans ← arena.spans
  let instants := SortedSet.ofList (spans.flatMap fun entry => [entry.2.start, entry.2.finish])
  let palette ← instants.toList.foldlM (arena.instant maxConcurrency spans) {}
  return palette.colouring

end Arena

end ValueEngine
