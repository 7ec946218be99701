import ValueEngine.Fragment.Basic
import ValueEngine.Sizing.Basic

/-!
# Merging fragments

Two passes make fewer and larger fragments of a layout.

The first pass joins undersized fragments that consume the same values
(`Layout.mergeAlike`). It scans the fragments once, keeping at most one open
candidate for each set of inputs, and joins the pairs that it found. It is
repeated until a scan finds no pair.

The second pass joins a fragment to its only dependent (`Layout.mergeChains`),
looking at each fragment once.

Neither pass makes a fragment above the maxima of the sizing. The two alternate
until both leave the layout as it is (`Layout.mergeAll`). A pass that joins
anything leaves fewer fragments, and this number tells when to stop.
-/

set_option autoImplicit false

namespace ValueEngine

namespace Fragment

/-- Whether a fragment needs no merging. -/
def meetsMinima (sizing : Sizing) (fragment : Fragment) : Bool :=
  sizing.meetsMinima fragment.items fragment.cost.units

/-- Whether two fragments may become one. -/
def mayJoin (sizing : Sizing) (first second : Fragment) : Bool :=
  sizing.withinMaxima (first.items + second.items) (first.cost + second.cost).units

/-- Whether merging with fragments of the same inputs comes into question at
all: there are inputs, and the fragment is undersized. -/
def isCandidate (sizing : Sizing) (fragment : Fragment) : Bool :=
  !fragment.inputs.isEmpty && !fragment.meetsMinima sizing

end Fragment

namespace Layout

/-! ## Fragments with the same inputs -/

/-- The state of a scan for fragments with the same inputs. -/
structure Pairing where
  /-- Candidates that have no partner yet, at most one for each set of inputs. -/
  waiting : List Fragment := []
  /-- The pairs found, the latest last. -/
  pairs : List (FragmentId × FragmentId) := []

/-- Look at the next fragment of a scan. It is paired with the waiting candidate
of the same inputs when both fit together. Otherwise the cheaper of the two goes
on waiting, on a tie the earlier one. -/
def Pairing.next (sizing : Sizing) (pairing : Pairing) (fragment : Fragment) : Pairing :=
  if fragment.isCandidate sizing then
    let others := pairing.waiting.filter fun other => other.inputs ≠ fragment.inputs
    match pairing.waiting.find? fun other => other.inputs = fragment.inputs with
    | none => { pairing with waiting := fragment :: pairing.waiting }
    | some other =>
      if fragment.mayJoin sizing other then
        { waiting := others, pairs := pairing.pairs ++ [(other.id, fragment.id)] }
      else if other.cost.units ≤ fragment.cost.units then pairing
      else { pairing with waiting := fragment :: others }
  else pairing

/-- The pairs of undersized fragments with the same inputs that a scan finds. -/
def pairs (layout : Layout) (sizing : Sizing) : List (FragmentId × FragmentId) :=
  (layout.fragments.foldl (Pairing.next sizing) {}).pairs

/-- Join a pair. The first fragment stays, unless the second costs more. -/
def joinPair (layout : Layout) (pair : FragmentId × FragmentId) : Layout :=
  match layout.fragment? pair.1, layout.fragment? pair.2 with
  | some first, some second =>
    if first.cost.units < second.cost.units then layout.joinAfter second first
    else layout.joinAfter first second
  | _, _ => layout

/-- Scan once and join the pairs found. -/
def joinAlike (layout : Layout) (sizing : Sizing) : Layout :=
  match layout.pairs sizing with
  | [] => layout
  | pairs => (pairs.foldl joinPair layout).prune

/-- Join undersized fragments with the same inputs until a scan finds no pair. -/
def mergeAlike (layout : Layout) (sizing : Sizing) : Layout :=
  let next := layout.joinAlike sizing
  if next.size < layout.size then next.mergeAlike sizing else next
termination_by layout.size

/-! ## Fragments with one dependent -/

/-- Join a fragment to its only dependent when this is not the root and both fit
together. -/
def joinToDependent (sizing : Sizing) (layout : Layout) (id : FragmentId) : Layout :=
  match layout.dependents id with
  | [dependent] =>
    if dependent = FragmentId.root then layout
    else
      match layout.fragment? id, layout.fragment? dependent with
      | some guest, some host =>
        if guest.mayJoin sizing host then layout.joinBefore host guest else layout
      | _, _ => layout
  | _ => layout

/-- Join each fragment to its only dependent where possible, in ascending order
of the fragments that there are at the start. -/
def mergeChains (layout : Layout) (sizing : Sizing) : Layout :=
  layout.ids.foldl (joinToDependent sizing) layout

/-! ## Both passes in turn -/

/-- Run both passes in turn until neither joins anything. -/
def mergeAll (layout : Layout) (sizing : Sizing) : Layout :=
  let next := (layout.mergeAlike sizing).mergeChains sizing
  if next.size < layout.size then next.mergeAll sizing else next
termination_by layout.size

end Layout

end ValueEngine
