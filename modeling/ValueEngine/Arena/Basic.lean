import ValueEngine.Fragment.Basic

/-!
# Fragments in numbered slots

While a graph is split into fragments they stand in one table and are changed in place. The slot of
a fragment is its number, and slot zero is the root's. A fragment that becomes part of another one
leaves its slot empty for good, and a count tells how many fragments are left (`Arena.live`).

Links are made and cut one at a time, at both of their ends. Each step looks up the fragments that
it changes. When one is not there, or when the count is to be lowered below zero, the step fails
and has no result.
-/

set_option autoImplicit false

namespace ValueEngine

namespace Fragment

/-- Consume the values of one more fragment. -/
def addInput (input : FragmentId) (fragment : Fragment) : Fragment :=
  { fragment with inputs := fragment.inputs.insert input }

/-- Consume the values of a fragment no more. -/
def dropInput (input : FragmentId) (fragment : Fragment) : Fragment :=
  { fragment with inputs := fragment.inputs.erase input }

/-- Feed one more fragment. -/
def addDependent (dependent : FragmentId) (fragment : Fragment) : Fragment :=
  { fragment with dependents := fragment.dependents.insert dependent }

/-- Feed a fragment no more. -/
def dropDependent (dependent : FragmentId) (fragment : Fragment) : Fragment :=
  { fragment with dependents := fragment.dependents.erase dependent }

/-- Run the nodes of another fragment after its own. -/
def runBefore (guest fragment : Fragment) : Fragment :=
  { fragment with nodes := fragment.nodes ++ guest.nodes, cost := fragment.cost + guest.cost }

/-- Run the nodes of another fragment before its own. -/
def runAfter (guest fragment : Fragment) : Fragment :=
  { fragment with nodes := guest.nodes ++ fragment.nodes, cost := fragment.cost + guest.cost }

end Fragment

/-- The fragments of a graph in numbered slots. -/
structure Arena where
  /-- The fragments by number. -/
  slots : List (Option Fragment)
  /-- The number of fragments, not counting the root. -/
  live : Nat
deriving DecidableEq, Inhabited

namespace Arena

/-- The root alone. -/
def empty : Arena where
  slots := [some ({} : Layout).root]
  live := 0

/-- The fragment with a number, the root included. -/
def fragment? (arena : Arena) (id : FragmentId) : Option Fragment := arena.slots[id]?.join

/-- The fragments other than the root, in the order of their numbers. -/
def fragments (arena : Arena) : List Fragment := arena.slots.tail.reduceOption

/-- Put a new fragment without links into a slot of its own. -/
def insert (arena : Arena) (nodes : List NodeId) (cost : Cost) : Arena × FragmentId :=
  let id := arena.slots.length
  ({ slots := arena.slots ++ [some { id, nodes, cost }], live := arena.live + 1 }, id)

/-- Change a fragment. -/
def update (arena : Arena) (id : FragmentId) (change : Fragment → Fragment) : Option Arena := do
  let fragment ← arena.fragment? id
  return { arena with slots := arena.slots.set id (some (change fragment)) }

/-- Let a fragment consume another one. -/
def link (arena : Arena) (input dependent : FragmentId) : Option Arena := do
  let arena ← arena.update input (Fragment.addDependent dependent)
  arena.update dependent (Fragment.addInput input)

/-- Let a fragment consume another one no more. -/
def unlink (arena : Arena) (input dependent : FragmentId) : Option Arena := do
  let arena ← arena.update input (Fragment.dropDependent dependent)
  arena.update dependent (Fragment.dropInput input)

/-- Take a fragment other than the root out of its slot. Links to it stay. -/
def take (arena : Arena) (id : FragmentId) : Option (Fragment × Arena) := do
  let fragment ← arena.fragment? id
  if id = FragmentId.root ∨ arena.live = 0 then none
  else some (fragment, { slots := arena.slots.set id none, live := arena.live - 1 })

/-- Make a dependent of `guest` one of `host`. -/
def turn (host guest : FragmentId) (arena : Arena) (dependent : FragmentId) : Option Arena := do
  let arena ← arena.update dependent (Fragment.dropInput guest)
  arena.link host dependent

/-- Make an input of `guest` one of `host`. -/
def feed (host guest : FragmentId) (arena : Arena) (input : FragmentId) : Option Arena := do
  let arena ← arena.update input (Fragment.dropDependent guest)
  arena.link input host

/-- Let `host` run the nodes of `guest`, which has the same inputs, after its own. The dependents
of `guest` turn to `host`. -/
def append (arena : Arena) (host guest : FragmentId) : Option Arena := do
  let (merged, arena) ← arena.take guest
  let arena ← merged.inputs.toList.foldlM
    (fun arena input => arena.update input (Fragment.dropDependent guest)) arena
  let arena ← merged.dependents.toList.foldlM (turn host guest) arena
  arena.update host (Fragment.runBefore merged)

/-- Let `host`, the only dependent of `guest`, run the nodes of `guest` before its own. The inputs
of `guest` become inputs of `host`. -/
def prepend (arena : Arena) (host guest : FragmentId) : Option Arena := do
  let (merged, arena) ← arena.take guest
  let arena ← arena.update host (Fragment.dropInput guest)
  let arena ← merged.inputs.toList.foldlM (feed host guest) arena
  arena.update host (Fragment.runAfter merged)

end Arena

end ValueEngine
