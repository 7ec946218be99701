import Mathlib.Data.List.Permutation
import ValueEngine.Graph.Cost
import ValueEngine.Proofs.Arena.Building
import ValueEngine.Proofs.Fragment.Running

/-!
# How many fragments of a colour run at once

In the simulation fragments start as early as their inputs allow. The sweep looks at the instants
at which something starts or finishes only, but between two of them nothing changes: what runs at
any time is what runs after all events up to this time. So no colour ever has more fragments
running than the concurrency of the sizing (`Plan.Limited.length_runningAt_le`).
-/

set_option autoImplicit false

namespace ValueEngine

/-- The fragments of a colour that run at a time, each from its start for as many instants as it
costs, and for one if it costs nothing. -/
def Plan.runningAt (plan : Plan) (start : FragmentId → Nat) (time colour : Nat) : List Fragment :=
  plan.layout.fragments.filter fun fragment =>
    decide (plan.colouring.colour fragment.id = colour) &&
      decide (start fragment.id ≤ time ∧ time < start fragment.id + max fragment.cost.units 1)

theorem Plan.mem_runningAt {plan : Plan} {start : FragmentId → Nat} {time colour : Nat}
    {fragment : Fragment} : fragment ∈ plan.runningAt start time colour ↔
      fragment ∈ plan.layout.fragments ∧ plan.colouring.colour fragment.id = colour ∧
        start fragment.id ≤ time ∧ time < start fragment.id + fragment.ticks := by
  simp [runningAt, Fragment.ticks_eq]

/-- A plan keeps to a bound on concurrency. -/
structure Plan.Limited (plan : Plan) (maxConcurrency : Nat) : Prop where
  /-- The simulated times are those at which every fragment starts as early as its inputs allow. -/
  starts : plan.layout.Starts plan.layout.schedule.start
  /-- There are no other such times. -/
  starts_eq : ∀ start, plan.layout.Starts start → ∀ fragment ∈ plan.layout.fragments,
    start fragment.id = plan.layout.schedule.start fragment.id
  /-- At no time more fragments of a colour run than the bound allows. -/
  length_runningAt_le : ∀ start, plan.layout.Starts start → ∀ time colour,
    (plan.runningAt start time colour).length ≤ maxConcurrency
  /-- Every fragment has a colour. -/
  coloured : ∀ fragment ∈ plan.layout.fragments,
    ∃ colour, plan.colouring.colours.get? fragment.id = some colour
  /-- The colours are found in one sweep over the events. -/
  colouring_eq : plan.colouring = (Sweep.after maxConcurrency plan.layout.events).colouring
  /-- Each fragment starts once and finishes once. -/
  events_nodup : plan.layout.events.Nodup
  starting_mem : ∀ fragment, .starting fragment ∈ plan.layout.events ↔
    fragment ∈ plan.layout.fragments
  finishing_mem : ∀ fragment, .finishing fragment ∈ plan.layout.events ↔
    fragment ∈ plan.layout.fragments
  /-- When a fragment finishes it has its colour, and the count of the colour can be lowered. -/
  finishing : ∀ early fragment late, plan.layout.events = early ++ .finishing fragment :: late →
    ∃ colour, (Sweep.after maxConcurrency early).colouring.colours.get? fragment.id = some colour ∧
      0 < (Sweep.after maxConcurrency early).runningOf colour
  /-- When a fragment starts its inputs have their colours. -/
  starting : ∀ early fragment late, plan.layout.events = early ++ .starting fragment :: late →
    ∀ id ∈ fragment.inputs,
      ∃ colour, (Sweep.after maxConcurrency early).colouring.colours.get? id = some colour

/-- What comes first in the order of some key are the elements up to a bound. -/
theorem filter_append_filter {α : Type} (key : α → Nat) (bound : Nat) {list : List α}
    (sorted : list.Pairwise fun first second => key first ≤ key second) :
    (list.filter fun element => decide (key element ≤ bound)) ++
      (list.filter fun element => !decide (key element ≤ bound)) = list := by
  induction list with
  | nil => rfl
  | cons first rest ih =>
    obtain ⟨above, sorted⟩ := List.pairwise_cons.mp sorted
    by_cases within : key first ≤ bound
    · simpa [within] using ih sorted
    · have none : rest.filter (fun element => decide (key element ≤ bound)) = [] := by
        refine List.filter_eq_nil_iff.mpr fun element member => ?_
        simpa using Nat.lt_of_lt_of_le (Nat.lt_of_not_le within) (above element member)
      have all : rest.filter (fun element => !decide (key element ≤ bound)) = rest := by
        have whole := ih sorted
        rwa [none, List.nil_append] at whole
      simp [within, none, all]

namespace Layout.Stratified

variable {layout : Layout} (stratified : layout.Stratified)
include stratified

/-- The events up to a time, and those after it. -/
theorem exists_split (time : Nat) : ∃ early late, layout.events = early ++ late ∧
    (∀ fragment, .starting fragment ∈ early ↔
      fragment ∈ layout.fragments ∧ layout.schedule.start fragment.id ≤ time) ∧
    ∀ fragment, .finishing fragment ∈ early ↔
      fragment ∈ layout.fragments ∧ layout.schedule.finish fragment.id ≤ time := by
  have sorted := layout.events_sorted.imp fun precedes => precedes.time_le
  refine ⟨_, _, (filter_append_filter (Event.time layout.schedule) time sorted).symm,
    fun fragment => ?_, fun fragment => ?_⟩
  · rw [List.mem_filter, stratified.starting_mem_events, decide_eq_true_iff]
    rfl
  · rw [List.mem_filter, stratified.finishing_mem_events, decide_eq_true_iff]
    rfl

/-- What runs when a fragment starts has started by then and finishes later. -/
theorem span_of_running {early late : List Event} {fragment other : Fragment}
    (split : layout.events = early ++ .starting fragment :: late)
    (running : other ∈ Event.running early) : other ∈ layout.fragments ∧
      layout.schedule.start other.id ≤ layout.schedule.start fragment.id ∧
        layout.schedule.start fragment.id < layout.schedule.start other.id + other.ticks := by
  have ordered : Event.Ordered (early ++ .starting fragment :: late) := split ▸ stratified.ordered
  have sorted := split ▸ layout.events_sorted
  obtain ⟨started, unfinished⟩ := (ordered.running.2 other).mp running
  have inside : other ∈ layout.fragments :=
    stratified.starting_mem_events.mp (split ▸ List.mem_append_left _ started)
  obtain ⟨_, after, across⟩ := List.pairwise_append.mp sorted
  refine ⟨inside, (across _ started _ List.mem_cons_self).time_le, ?_⟩
  have finishing : .finishing other ∈ early ++ .starting fragment :: late :=
    split ▸ stratified.finishing_mem_events.mpr inside
  have still : .finishing other ∈ late := by
    simpa [unfinished] using finishing
  rw [← stratified.finish_schedule inside]
  -- At the same instant it would have finished before the other one starts.
  rcases (List.pairwise_cons.mp after).1 _ still with before | ⟨_, order⟩
  · exact before
  · cases order rfl

end Layout.Stratified

namespace Plan

section Sweeping

variable {plan : Plan} {maxConcurrency : Nat} (stratified : plan.layout.Stratified)
  (swept : plan.colouring = plan.layout.colouring maxConcurrency)
  (positive : 0 < maxConcurrency)
include stratified swept positive

/-- **At no time more fragments of a colour run than the bound allows.** What runs at a time has
started and not finished by the events up to this time, and is counted by the sweep then. -/
theorem length_runningAt_le {start : FragmentId → Nat} (starts : plan.layout.Starts start)
    (time colour : Nat) : (plan.runningAt start time colour).length ≤ maxConcurrency := by
  obtain ⟨early, late, split, started, finished⟩ := stratified.exists_split time
  have ordered : Event.Ordered (early ++ late) := split ▸ stratified.ordered
  have tallied := Sweep.tallied_after positive ordered
  let sweep := Sweep.after maxConcurrency early
  let counted := (Event.running early).filter fun fragment =>
    decide (sweep.colouring.colour fragment.id = colour)
  have runs : ∀ fragment ∈ plan.runningAt start time colour, fragment ∈ counted := by
    intro fragment member
    obtain ⟨inside, own, below, above⟩ := mem_runningAt.mp member
    rw [stratified.starts_eq starts stratified.starts_schedule fragment inside] at below above
    have begun := (started fragment).mpr ⟨inside, below⟩
    have unfinished : .finishing fragment ∉ early := by
      rw [finished, stratified.finish_schedule inside]
      exact fun ended => Nat.not_le_of_lt above ended.2
    have running := (ordered.running.2 fragment).mpr ⟨begun, unfinished⟩
    refine List.mem_filter.mpr ⟨running, decide_eq_true ?_⟩
    -- The colour that the fragment has by now is the one that it has in the end.
    obtain ⟨now, painted⟩ := tallied.exists_colour begun
    have final := Sweep.get?_after positive ordered painted
    rw [← split, ← plan.layout.colouring_eq, ← swept] at final
    exact (Colouring.colour_of_get? painted).trans ((Colouring.colour_of_get? final).symm.trans own)
  have nodup : (plan.runningAt start time colour).Nodup := stratified.nodup.filter _
  calc (plan.runningAt start time colour).length
    _ ≤ counted.length := (nodup.subperm runs).length_le
    _ = sweep.countOf colour (Event.running early) := List.countP_eq_length_filter.symm
    _ = sweep.runningOf colour := (tallied.runningOf_eq colour).symm
    _ ≤ maxConcurrency := tallied.runningOf_le colour

/-- A plan whose colours come from the sweep keeps to the bound. -/
theorem limited : plan.Limited maxConcurrency where
  starts := stratified.starts_schedule
  starts_eq _ starts := stratified.starts_eq starts stratified.starts_schedule
  length_runningAt_le _ starts := length_runningAt_le stratified swept positive starts
  coloured fragment member := by
    have ordered : Event.Ordered (plan.layout.events ++ []) := by
      rw [List.append_nil]
      exact stratified.ordered
    rw [swept, plan.layout.colouring_eq]
    exact (Sweep.tallied_after positive ordered).exists_colour
      (stratified.starting_mem_events.mpr member)
  colouring_eq := swept.trans (plan.layout.colouring_eq maxConcurrency)
  events_nodup := stratified.events_nodup
  starting_mem _ := stratified.starting_mem_events
  finishing_mem _ := stratified.finishing_mem_events
  finishing early fragment late split := by
    have ordered := split ▸ stratified.ordered
    exact (Sweep.tallied_after positive ordered).of_finishing ordered
  starting early fragment late split id input := by
    have ordered := split ▸ stratified.ordered
    exact (Sweep.tallied_after positive ordered).of_starting ordered input

end Sweeping

/-- The colours of a plan come from the sweep. -/
theorem swept_of_ofGraph {graph : Graph} {cost : Node → Cost} {sizing : Sizing} {plan : Plan}
    (found : ofGraph graph cost sizing = .ok plan) :
    plan.colouring = plan.layout.colouring sizing.maxConcurrency := by
  unfold ofGraph at found
  cases ordered : graph.executionOrder with
  | error cycle =>
    rw [ordered] at found
    cases found
  | ok order =>
    rw [ordered] at found
    cases found
    rfl

/-- **A plan keeps to the concurrency of its sizing.** In the plan of an acyclic graph every
fragment starts as early as its inputs allow, and whatever the nodes cost, no colour has more
fragments running at a time than the concurrency. The counts of running fragments that decide this
never fall below zero, and a colour is there whenever it is looked up. -/
theorem exists_limited {graph : Graph} (acyclic : graph.Acyclic) (cost : Node → Cost)
    {sizing : Sizing} (positive : 1 ≤ sizing.maxConcurrency) :
    ∃ plan, ofGraph graph cost sizing = .ok plan ∧ graph.Builds cost sizing plan ∧
      plan.Limited sizing.maxConcurrency := by
  obtain ⟨plan, planned, built, settled⟩ := acyclic.exists_built cost sizing
  exact ⟨plan, planned, built,
    limited settled.stratified (swept_of_ofGraph planned) positive⟩

/-- The diamond with nodes of different functions. -/
def uneven : Graph where
  configuration := "uneven"
  nodes := ["free", "brief", "long", "free"].map fun function =>
    { (default : Node) with function := { (default : FunctionCall) with id := function } }
  edges := Graph.diamond.edges
  edges_inRange := by decide
  edges_nodup := Graph.diamond.edges_nodup

theorem uneven_acyclic : uneven.Acyclic := Graph.acyclic_of_rank id (by decide)

/-- The nodes cost nothing, two units and three. -/
def unevenCosts : CostTable :=
  ((CostTable.set {} "free" (Cost.ofNat 0)).set "brief" (Cost.ofNat 2)).set "long" (Cost.ofNat 3)

/-- A sizing for which every node goes out on its own, and no two of a colour run at once. -/
def narrow : Sizing := { maxItems := 1, maxConcurrency := 1 }

/-- What costs nothing runs for one instant, and what costs something for as long as it costs: the
first fragment at instant zero, the long one at the next three instants and the brief one, with a
colour of its own, at two of them, and the last at instant four. Its inputs finish one after the
other, so it has a colour of its own too. -/
theorem exists_limited_uneven :
    uneven.Acyclic ∧ 1 ≤ narrow.maxConcurrency ∧
      ∃ plan, ofGraph uneven unevenCosts.cost narrow = .ok plan ∧
        uneven.Builds unevenCosts.cost narrow plan ∧
        (plan.layout.fragments.map fun fragment => (fragment.id, fragment.cost.units,
            plan.layout.schedule.start fragment.id, plan.colouring.colour fragment.id)) =
          [(1, 0, 0, 1), (2, 3, 1, 1), (3, 2, 1, 2), (4, 0, 4, 3)] ∧
        ((List.range 6).map fun time => [1, 2, 3].map fun colour =>
            (plan.runningAt plan.layout.schedule.start time colour).map Fragment.id) =
          [[[1], [], []], [[2], [3], []], [[2], [3], []], [[2], [], []], [[], [], [4]],
            [[], [], []]] ∧
        plan.Limited narrow.maxConcurrency := by
  obtain ⟨plan, planned, built, limited⟩ := exists_limited uneven_acyclic unevenCosts.cost
    (show 1 ≤ narrow.maxConcurrency from Nat.le_refl 1)
  have order : uneven.executionOrder = .ok [0, 2, 1, 3] := by cbv
  refine ⟨uneven_acyclic, Nat.le_refl 1, plan, planned, built, ?_, ?_, limited⟩
  · cases planned.symm.trans (ofGraph_of_order order _ _)
    cbv
  · cases planned.symm.trans (ofGraph_of_order order _ _)
    cbv

end Plan

end ValueEngine
