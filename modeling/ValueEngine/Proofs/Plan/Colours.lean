import Mathlib.Data.List.Nodup
import ValueEngine.Proofs.Arena.Building
import ValueEngine.Proofs.Fragment.Tails
import ValueEngine.Proofs.Plan.Concurrency

/-!
# The colours and tails of a plan

A colour of a plan is what one worker can run: the fragment that opens it, and then tails, each of
which consumes fragments of this colour only (`Plan.Tailed`). The colours are counted from one
without gaps, and each is opened once.

A fragment whose inputs have one colour takes another only when it has to. When it starts as many
fragments of the colour run as the concurrency allows: what the sweep counts at this event has
started by then, and has not finished, since at one instant fragments finish before others start
(`Plan.length_runningAt_of_colour_ne`). A fragment that starts at the same instant later in the
sweep cannot have taken the colour either.
-/

set_option autoImplicit false

namespace ValueEngine

namespace Plan

/-- Colours and tails fit the links of the fragments. -/
structure Tailed (plan : Plan) (maxConcurrency : Nat) : Prop where
  /-- The tails of a fragment are those that consume it and have its colour. -/
  mem_tailsOf_iff : ∀ producer ∈ plan.layout.all, ∀ consumer ∈ plan.layout.all,
    consumer.id ∈ plan.colouring.tailsOf producer.id ↔
      producer.id ∈ consumer.inputs ∧
        plan.colouring.colour consumer.id = plan.colouring.colour producer.id
  /-- All inputs of a tail have its colour. -/
  colour_inputs : ∀ id, ∀ consumer ∈ plan.layout.all,
    consumer.id ∈ plan.colouring.tailsOf id → ∀ input ∈ consumer.inputs,
      plan.colouring.colour input = plan.colouring.colour consumer.id
  /-- No tail is named twice. -/
  tailsOf_nodup : ∀ id, (plan.colouring.tailsOf id).Nodup
  /-- Tails are fragments, and none is the root. -/
  tailsOf_mem : ∀ id, ∀ tail ∈ plan.colouring.tailsOf id,
    tail ∈ plan.layout.ids ∧ tail ≠ FragmentId.root
  /-- The simulated times are those at which every fragment starts as early as its inputs allow. -/
  starts : plan.layout.Starts plan.layout.schedule.start
  /-- A fragment does not take the one colour of its inputs only if at its start as many fragments
  of this colour run as may. -/
  length_runningAt : ∀ start, plan.layout.Starts start → ∀ fragment ∈ plan.layout.fragments,
    ∀ colour, fragment.inputs ≠ ∅ →
      (∀ input ∈ fragment.inputs, plan.colouring.colour input = colour) →
      plan.colouring.colour fragment.id ≠ colour →
        (plan.runningAt start (start fragment.id) colour).length = maxConcurrency
  /-- The colours in use are counted from one without gaps. -/
  colour_iff : ∀ colour,
    (∃ fragment ∈ plan.layout.fragments, plan.colouring.colour fragment.id = colour) ↔
      1 ≤ colour ∧ colour ≤ plan.colourCount
  /-- Of each colour one fragment is a tail of nothing. -/
  opener : ∀ colour, 1 ≤ colour → colour ≤ plan.colourCount → ∃! fragment,
    fragment ∈ plan.layout.fragments ∧ plan.colouring.colour fragment.id = colour ∧
      ∀ id, fragment.id ∉ plan.colouring.tailsOf id

section Sweeping

variable {plan : Plan} {graph : Graph} {maxConcurrency : Nat}
  (settled : plan.layout.Settled graph)
  (swept : plan.colouring = plan.layout.colouring maxConcurrency) (positive : 0 < maxConcurrency)

include swept in
theorem colouring_eq_after :
    plan.colouring = (Sweep.after maxConcurrency plan.layout.events).colouring :=
  swept.trans (plan.layout.colouring_eq maxConcurrency)

include settled positive in
/-- What holds after the whole sweep. -/
theorem swept_after :
    Sweep.Tallied maxConcurrency plan.layout.events
        (Sweep.after maxConcurrency plan.layout.events) ∧
      Sweep.Trailed plan.layout.events (Sweep.after maxConcurrency plan.layout.events) ∧
        Sweep.Led plan.layout.events (Sweep.after maxConcurrency plan.layout.events) := by
  have ordered : Event.Ordered (plan.layout.events ++ []) := by
    rw [List.append_nil]
    exact settled.stratified.ordered
  exact ⟨Sweep.tallied_after positive ordered, Sweep.trailed_after positive ordered⟩

include settled swept positive

/-! ## Tails -/

/-- A tail is a fragment that follows. -/
theorem mem_tailsOf {id tail : FragmentId} : tail ∈ plan.colouring.tailsOf id ↔
    ∃ fragment ∈ plan.layout.fragments, fragment.id = tail ∧
      plan.colouring.Follows fragment id := by
  obtain ⟨_, trailed, _⟩ := swept_after settled positive
  rw [colouring_eq_after swept, trailed.mem_tailsOf_iff]
  simp only [settled.stratified.starting_mem_events]

/-- A fragment is a tail of what it follows. -/
theorem id_mem_tailsOf {fragment : Fragment} (member : fragment ∈ plan.layout.fragments)
    {id : FragmentId} :
    fragment.id ∈ plan.colouring.tailsOf id ↔ plan.colouring.Follows fragment id := by
  refine (mem_tailsOf settled swept positive).trans ⟨?_, fun follows => ⟨_, member, rfl, follows⟩⟩
  rintro ⟨other, inside, same, follows⟩
  exact settled.stratified.eq_of_id inside member same ▸ follows

/-- The root has no colour. -/
theorem colour_root : plan.colouring.colour FragmentId.root = 0 := by
  obtain ⟨tallied, _⟩ := swept_after settled positive
  have bare : ∀ colour, (Sweep.after maxConcurrency plan.layout.events).colouring.colours.get?
      FragmentId.root ≠ some colour := by
    intro colour found
    obtain ⟨fragment, started, isRoot⟩ := (tallied.coloured_iff _).mp ⟨colour, found⟩
    exact settled.id_ne_root (settled.stratified.starting_mem_events.mp started) isRoot
  rw [colouring_eq_after swept, Colouring.colour, Option.eq_none_iff_forall_ne_some.mpr bare]
  rfl

/-- Any other fragment has one of those that have been opened. -/
theorem colour_range {fragment : Fragment} (member : fragment ∈ plan.layout.fragments) :
    1 ≤ plan.colouring.colour fragment.id ∧ plan.colouring.colour fragment.id ≤
      (Sweep.after maxConcurrency plan.layout.events).opened := by
  obtain ⟨tallied, _⟩ := swept_after settled positive
  obtain ⟨colour, painted⟩ :=
    tallied.exists_colour (settled.stratified.starting_mem_events.mpr member)
  rw [colouring_eq_after swept, Colouring.colour_of_get? painted]
  exact tallied.palette _ _ painted

/-! ## Why another colour is taken -/

/-- **When a fragment does not take the one colour of its inputs, as many fragments of this colour
run at its start as may.** -/
theorem length_runningAt_of_colour_ne {start : FragmentId → Nat}
    (starts : plan.layout.Starts start) {fragment : Fragment}
    (member : fragment ∈ plan.layout.fragments) {colour : Nat} (consumes : fragment.inputs ≠ ∅)
    (shared : ∀ input ∈ fragment.inputs, plan.colouring.colour input = colour)
    (differs : plan.colouring.colour fragment.id ≠ colour) :
    (plan.runningAt start (start fragment.id) colour).length = maxConcurrency := by
  have stratified := settled.stratified
  have bounded := length_runningAt_le stratified swept positive starts (start fragment.id) colour
  refine Nat.le_antisymm bounded ?_
  obtain ⟨early, late, split⟩ := List.append_of_mem (stratified.starting_mem_events.mpr member)
  have ordered : Event.Ordered (early ++ .starting fragment :: late) := split ▸ stratified.ordered
  have tallied := Sweep.tallied_after positive ordered
  let sweep := Sweep.after maxConcurrency early
  have settledColour : ∀ {other}, .starting other ∈ early →
      sweep.colouring.colour other.id = plan.colouring.colour other.id := by
    intro other started
    rw [colouring_eq_after swept, split, Sweep.colour_after positive ordered started]
  have full : maxConcurrency ≤ sweep.runningOf colour := by
    refine Sweep.full_of_colour_ne positive ordered ?_ (fun id input => ?_) ?_
    · intro none
      exact consumes (SortedSet.eq_empty_iff.mpr (List.eq_nil_iff_forall_not_mem.mp none))
    · obtain ⟨other, finished, rfl⟩ := ordered.fed early fragment late rfl id input
      exact (settledColour (ordered.started_of_finished finished)).trans (shared other.id input)
    · have onward : Event.Ordered ((early ++ [.starting fragment]) ++ late) := by
        rw [List.append_assoc]
        exact ordered
      have final := Sweep.colour_after positive onward (List.mem_append_right _ List.mem_cons_self)
      rw [List.append_assoc, List.singleton_append, ← split, ← colouring_eq_after swept,
        Sweep.after_concat] at final
      exact final ▸ differs
  let counted := (Event.running early).filter fun other =>
    decide (sweep.colouring.colour other.id = colour)
  have runs : ∀ other ∈ counted, other ∈ plan.runningAt start (start fragment.id) colour := by
    intro other running
    obtain ⟨running, own⟩ := List.mem_filter.mp running
    obtain ⟨inside, begun, runsOn⟩ := stratified.span_of_running split running
    rw [← stratified.starts_eq starts stratified.starts_schedule other inside] at begun runsOn
    rw [← stratified.starts_eq starts stratified.starts_schedule fragment member] at begun runsOn
    have own : plan.colouring.colour other.id = colour :=
      (settledColour ((ordered.running.2 other).mp running).1).symm.trans (of_decide_eq_true own)
    exact mem_runningAt.mpr ⟨inside, own, begun, runsOn⟩
  have nodup : counted.Nodup := ordered.running.1.filter _
  calc maxConcurrency
    _ ≤ sweep.runningOf colour := full
    _ = sweep.countOf colour (Event.running early) := tallied.runningOf_eq colour
    _ = counted.length := List.countP_eq_length_filter
    _ ≤ (plan.runningAt start (start fragment.id) colour).length :=
        (nodup.subperm runs).length_le

/-! ## The colours in use -/

/-- As many colours are in use as have been opened, for each has its opener. -/
theorem colour_mem_iff (colour : Nat) :
    (∃ fragment ∈ plan.layout.fragments, plan.colouring.colour fragment.id = colour) ↔
      1 ≤ colour ∧ colour ≤ (Sweep.after maxConcurrency plan.layout.events).opened := by
  constructor
  · rintro ⟨fragment, member, rfl⟩
    exact colour_range settled swept positive member
  · rintro ⟨least, greatest⟩
    obtain ⟨_, _, led⟩ := swept_after settled positive
    obtain ⟨opener, opens, _⟩ := led colour least greatest
    rw [colouring_eq_after swept]
    exact ⟨opener, settled.stratified.starting_mem_events.mp opens.started, opens.colour_eq⟩

theorem colourCount_eq :
    plan.colourCount = (Sweep.after maxConcurrency plan.layout.events).opened := by
  let opened := (Sweep.after maxConcurrency plan.layout.events).opened
  let colours := SortedSet.ofList (plan.layout.ids.map plan.colouring.colour)
  have perm : colours.toList.Perm (List.range' 1 opened) := by
    refine (List.perm_ext_iff_of_nodup colours.nodup (List.nodup_range' ..)).mpr fun colour => ?_
    have listed : colour ∈ colours.toList ↔
        ∃ fragment ∈ plan.layout.fragments, plan.colouring.colour fragment.id = colour := by
      rw [SortedSet.mem_toList]
      simp [colours, Layout.ids]
    rw [listed, colour_mem_iff settled swept positive, List.mem_range'_1]
    omega
  exact perm.length_eq.trans List.length_range'

/-- What is a tail of nothing has opened its colour. -/
theorem opener_iff {fragment : Fragment} {colour : Nat} :
    (Sweep.after maxConcurrency plan.layout.events).Opener plan.layout.events colour fragment ↔
      fragment ∈ plan.layout.fragments ∧ plan.colouring.colour fragment.id = colour ∧
        ∀ id, fragment.id ∉ plan.colouring.tailsOf id := by
  have started_iff : .starting fragment ∈ plan.layout.events ↔ fragment ∈ plan.layout.fragments :=
    settled.stratified.starting_mem_events
  rw [← started_iff]
  constructor
  · rintro ⟨started, own, leads⟩
    rw [← colouring_eq_after swept] at own leads
    refine ⟨started, own, fun id tail => leads id ?_⟩
    exact (id_mem_tailsOf settled swept positive (started_iff.mp started)).mp tail
  · rintro ⟨started, own, apart⟩
    have leads : ∀ id, ¬ plan.colouring.Follows fragment id := fun id follows =>
      apart id ((id_mem_tailsOf settled swept positive (started_iff.mp started)).mpr follows)
    rw [colouring_eq_after swept] at own leads
    exact ⟨started, own, leads⟩

/-- **The colours and tails of a plan fit its links**, when they come from the sweep. -/
theorem tailed : plan.Tailed maxConcurrency where
  mem_tailsOf_iff producer producerMember consumer consumerMember := by
    rcases List.mem_cons.mp consumerMember with rfl | member
    case inr => exact id_mem_tailsOf settled swept positive member
    -- The root is a tail of nothing, and none of its inputs is without a colour as it is.
    refine iff_of_false (fun tail => ?_) fun ⟨input, same⟩ => ?_
    · obtain ⟨fragment, member, isRoot, _⟩ := (mem_tailsOf settled swept positive).mp tail
      exact settled.id_ne_root member isRoot
    · rcases List.mem_cons.mp producerMember with rfl | member
      · exact settled.root_not_mem_inputs Layout.root_mem_all input
      · have coloured := (colour_range settled swept positive member).1
        have bare := colour_root settled swept positive
        exact Nat.ne_of_gt coloured (same.symm.trans bare)
  colour_inputs id consumer inside tail input consumes := by
    obtain ⟨fragment, member, same, follows⟩ := (mem_tailsOf settled swept positive).mp tail
    obtain rfl := settled.eq_of_id (Layout.mem_all_of_mem member) inside same
    obtain ⟨_, trailed, _⟩ := swept_after settled positive
    rw [colouring_eq_after swept] at follows ⊢
    exact (trailed.follows_all fragment (settled.stratified.starting_mem_events.mpr member) id
      follows input consumes).2.symm
  tailsOf_nodup id := by
    rw [colouring_eq_after swept]
    exact (swept_after settled positive).2.1.tailsOf_nodup id
  tailsOf_mem id tail listed := by
    obtain ⟨fragment, member, rfl, _⟩ := (mem_tailsOf settled swept positive).mp listed
    exact ⟨List.mem_map_of_mem member, settled.id_ne_root member⟩
  starts := settled.stratified.starts_schedule
  length_runningAt _ starts _ member _ :=
    length_runningAt_of_colour_ne settled swept positive starts member
  colour_iff colour := by
    rw [colourCount_eq settled swept positive]
    exact colour_mem_iff settled swept positive colour
  opener colour least greatest := by
    rw [colourCount_eq settled swept positive] at greatest
    obtain ⟨_, _, led⟩ := swept_after settled positive
    exact (existsUnique_congr fun _ => opener_iff settled swept positive).mp
      (led colour least greatest)

end Sweeping

/-- **Colours and tails of the plan of an acyclic graph.** A fragment is a tail of another one
exactly if it consumes it and has its colour; another colour than that of all inputs is taken only
while this one is full; and the colours in use, counted from one, have one fragment each that is a
tail of nothing. -/
theorem exists_tailed {graph : Graph} (acyclic : graph.Acyclic) (cost : Node → Cost)
    {sizing : Sizing} (positive : 1 ≤ sizing.maxConcurrency) :
    ∃ plan arena, ofGraph graph cost sizing = .ok plan ∧
      graph.build cost sizing = some (.ok (arena, plan.colouring)) ∧
      arena.fragments = plan.layout.fragments ∧ plan.Tailed sizing.maxConcurrency := by
  obtain ⟨plan, planned, settled⟩ := acyclic.exists_plan cost sizing
  obtain ⟨arena, built, holds⟩ := Graph.build_of_ok planned
  exact ⟨plan, arena, planned, built, holds.fragments_eq,
    tailed settled (swept_of_ofGraph planned) positive⟩

theorem exists_tailed_diamond :
    Graph.diamond.Acyclic ∧ 1 ≤ narrow.maxConcurrency ∧
      ∃ plan arena, ofGraph Graph.diamond (fun _ => Cost.ofNat 0) narrow = .ok plan ∧
        Graph.diamond.build (fun _ => Cost.ofNat 0) narrow = some (.ok (arena, plan.colouring)) ∧
        arena.fragments = plan.layout.fragments ∧ plan.Tailed narrow.maxConcurrency :=
  ⟨Graph.diamond_acyclic, Nat.le_refl 1, exists_tailed Graph.diamond_acyclic _ (Nat.le_refl 1)⟩

end Plan

end ValueEngine
