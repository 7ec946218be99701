import ValueEngine.Arena.Basic
import ValueEngine.Fragment.Merging

/-!
# Merging in place

The two passes of merging on fragments in slots. A scan remembers its candidates by their numbers
and looks them up again. A pass tells whether it has joined anything, and merging stops when two
passes in a row have not.

The loops go on as long as something is joined. Joining leaves fewer fragments, so they end; a turn
of a loop that would go on without leaving fewer fragments has no result.
-/

set_option autoImplicit false

namespace ValueEngine

namespace Arena

/-! ## Fragments with the same inputs -/

/-- The state of a scan for fragments with the same inputs. -/
structure Scan where
  /-- Candidates that have no partner yet, by their inputs. -/
  candidates : List (SortedSet FragmentId × FragmentId) := []
  /-- The pairs found, the latest last. -/
  pairs : List (FragmentId × FragmentId) := []

/-- Look at the next fragment of a scan. -/
def scanNext (arena : Arena) (sizing : Sizing) (scan : Scan) (fragment : Fragment) : Option Scan :=
  if fragment.isCandidate sizing then
    let others := scan.candidates.filter fun candidate => candidate.1 ≠ fragment.inputs
    match scan.candidates.find? fun candidate => candidate.1 = fragment.inputs with
    | none => some { scan with candidates := (fragment.inputs, fragment.id) :: scan.candidates }
    | some (_, candidate) => do
      let other ← arena.fragment? candidate
      if fragment.mayJoin sizing other then
        some { candidates := others, pairs := scan.pairs ++ [(candidate, fragment.id)] }
      else if other.cost.units ≤ fragment.cost.units then some scan
      else some { scan with candidates := (fragment.inputs, fragment.id) :: others }
  else some scan

/-- The pairs of undersized fragments with the same inputs that a scan finds. -/
def pairs (arena : Arena) (sizing : Sizing) : Option (List (FragmentId × FragmentId)) := do
  let scan ← arena.fragments.foldlM (arena.scanNext sizing) {}
  return scan.pairs

/-- Join a pair. The first fragment stays, unless the second costs more. -/
def joinPair (arena : Arena) (pair : FragmentId × FragmentId) : Option Arena := do
  let second ← arena.fragment? pair.2
  let first ← arena.fragment? pair.1
  if first.cost.units < second.cost.units then arena.append pair.2 pair.1
  else arena.append pair.1 pair.2

/-- The root stops waiting for a fragment that has other dependents. -/
def release (arena : Arena) (id : FragmentId) : Option Arena := do
  let fragment ← arena.fragment? id
  if 1 < fragment.dependents.size then arena.unlink id FragmentId.root else some arena

/-- The root stops waiting for all fragments that have other dependents. -/
def prune (arena : Arena) : Option Arena := do
  let root ← arena.fragment? FragmentId.root
  root.inputs.toList.foldlM release arena

/-- Join undersized fragments with the same inputs until a scan finds no pair, and tell whether any
were joined. -/
def mergeAlike (sizing : Sizing) (arena : Arena) (changed : Bool) : Option (Arena × Bool) := do
  let pairs ← arena.pairs sizing
  if pairs.isEmpty then return (arena, changed)
  let joined ← pairs.foldlM joinPair arena
  let pruned ← joined.prune
  if pruned.live < arena.live then mergeAlike sizing pruned true else none
termination_by arena.live

/-! ## Fragments with one dependent -/

/-- Join a fragment to its only dependent when this is not the root and both fit together, and
count it then. -/
def joinToDependent (sizing : Sizing) (state : Arena × Nat) (id : FragmentId) :
    Option (Arena × Nat) := do
  let (arena, merged) := state
  let guest ← arena.fragment? id
  match guest.dependents.toList with
  | [dependent] =>
    if dependent = FragmentId.root then return state
    let host ← arena.fragment? dependent
    if guest.mayJoin sizing host then
      let joined ← arena.prepend dependent id
      return (joined, merged + 1)
    return state
  | _ => return state

/-- Join each fragment to its only dependent where possible, in ascending order of the fragments
that there are at the start, and tell whether any was joined. -/
def mergeChains (sizing : Sizing) (arena : Arena) : Option (Arena × Bool) := do
  let (joined, merged) ←
    (arena.fragments.map Fragment.id).foldlM (joinToDependent sizing) (arena, 0)
  return (joined, decide (0 < merged))

/-! ## Both passes in turn -/

/-- So many passes in a row that join nothing end the merging. -/
def maxIdle : Nat := 2

/-- Run both passes in turn, after a number of passes that have joined nothing. -/
def merge (sizing : Sizing) (arena : Arena) (idle : Nat) : Option Arena := do
  let (alike, joinedAlike) ← arena.mergeAlike sizing false
  let idle := if joinedAlike then 0 else idle + 1
  if maxIdle ≤ idle then return alike
  let (chained, joinedChains) ← alike.mergeChains sizing
  let idle := if joinedChains then 0 else idle + 1
  if maxIdle ≤ idle then return chained
  if chained.live < arena.live then merge sizing chained idle else none
termination_by arena.live

end Arena

end ValueEngine
