import ValueEngine.Proofs.Arena.Traversal

/-!
# The start times of fragments in slots

When the links between fragments in slots are acyclic, the traversal with its stack finds a start
for every fragment, and this is the greatest delay of the fragment: what the fragments of some chain
of inputs that leads to it take together (`Arena.Timetable`). The numbers of the fragments do not
matter for this, and neither does the order in which they are visited.

An arena that holds a layout has the times of the simulated schedule, since there are no two ways
to let every fragment start at the latest finish among its inputs (`Arena.Holds.startTimes`).
-/

set_option autoImplicit false

namespace ValueEngine.Arena

open Relation

variable {arena : Arena} {layout : Layout} {starts : List (Option Nat)} {id : FragmentId}

/-- A fragment starts when it does in the simulated schedule. -/
def Settled (layout : Layout) (starts : List (Option Nat)) (id : FragmentId) : Prop :=
  starts[id]? = some (some (layout.schedule.start id))

/-! ## Arenas that hold a layout -/

section Holds

variable (holds : arena.Holds layout) (stratified : layout.Stratified)
include holds stratified

section Awaited

variable (awaited : ∀ id ∈ layout.terminals, id ∈ layout.ids)
include awaited

/-- What feeds a fragment or the root is a fragment of the layout. -/
theorem Holds.mem_ids_of_feeds {input : FragmentId} (feeds : arena.Feeds input id) :
    input ∈ layout.ids := by
  obtain ⟨fragment, found, consumed⟩ := feeds
  rw [holds.fragment?_eq] at found
  rcases List.mem_cons.mp (Layout.mem_of_fragment? found).1 with rfl | inside
  · exact awaited input consumed
  · exact stratified.inputs_mem fragment inside input consumed

theorem Holds.linked : arena.Linked where
  numbered := holds.numbered
  exists_input feeds := by
    obtain ⟨fragment, member, rfl⟩ :=
      Layout.mem_ids_iff.mp (holds.mem_ids_of_feeds stratified awaited feeds)
    exact ⟨fragment, holds.find (Layout.mem_all_of_mem member)⟩

/-- The links rise in some rank, except to the root, and the root feeds nothing. -/
theorem Holds.acyclic : arena.Acyclic := by
  obtain ⟨rank, rises⟩ := stratified.ranked
  refine acyclic_of_rank rank fun {first second _} link further => ?_
  obtain ⟨fragment, member, rfl⟩ :=
    Layout.mem_ids_iff.mp (holds.mem_ids_of_feeds stratified awaited further)
  obtain ⟨consumer, found, consumed⟩ := link
  rw [holds.find (Layout.mem_all_of_mem member)] at found
  exact rises fragment member first (Option.some.inj found ▸ consumed)

end Awaited

/-- **In the simulated schedule every fragment starts at its greatest delay.** -/
theorem Holds.isGreatest_start (linked : arena.Linked) : ∀ fragment ∈ layout.fragments,
    IsGreatest (arena.delays fragment) (layout.schedule.start fragment.id) := by
  refine stratified.induction_on fun fragment member ih => ?_
  have found := holds.find (Layout.mem_all_of_mem member)
  rw [stratified.start_schedule member]
  refine isGreatest_delays linked found fun input inputFound consumed => ?_
  obtain ⟨other, inside, same⟩ :=
    Layout.mem_ids_iff.mp (stratified.inputs_mem fragment member input.id consumed)
  have otherFound := holds.find (Layout.mem_all_of_mem inside)
  rw [same, inputFound] at otherFound
  obtain rfl := Option.some.inj otherFound
  exact ⟨_, ih input (Layout.mem_inputsOf.mpr ⟨inside, consumed⟩),
    stratified.finish_schedule inside⟩

/-- **The starts that the traversal finds are those of the simulated schedule.** -/
theorem Holds.startTimes (linked : arena.Linked) (acyclic : arena.Acyclic) :
    ∃ starts, arena.startTimes = some starts ∧
      ∀ fragment ∈ layout.fragments, Settled layout starts fragment.id := by
  obtain ⟨starts, found, run⟩ := exists_startTimes linked acyclic
  obtain ⟨timed, greatest⟩ := linked.of_run run
  refine ⟨starts, found, fun fragment member => ?_⟩
  have inside : fragment ∈ arena.fragments := holds.fragments_eq ▸ member
  obtain ⟨start, known⟩ := timed fragment inside
  rw [Settled, known, (greatest fragment start (linked.find inside) known).unique
    (holds.isGreatest_start stratified linked fragment member)]

/-- **The times of the fragments in slots are those of the simulated schedule.** -/
theorem Holds.spans (awaited : ∀ id ∈ layout.terminals, id ∈ layout.ids) :
    arena.spans = some (layout.fragments.map fun fragment => (fragment.id,
      ⟨layout.schedule.start fragment.id, layout.schedule.finish fragment.id⟩)) := by
  obtain ⟨starts, run, settled⟩ := holds.startTimes stratified
    (holds.linked stratified awaited) (holds.acyclic stratified awaited)
  rw [Arena.spans, run, holds.fragments_eq]
  refine mapM_eq_some_map fun fragment member => ?_
  rw [settled fragment member, stratified.finish_schedule member]
  rfl

end Holds

/-! ## The times that the traversal finds -/

/-- The starts that the traversal finds for the fragments in slots. -/
structure Timetable (arena : Arena) (starts : List (Option Nat)) : Prop where
  /-- They are found: the traversal ends, and no lookup fails. -/
  startTimes_eq : arena.startTimes = some starts
  /-- What leads to them is a run of turns. -/
  run : ReflTransGen arena.Turn (arena.outset arena.ids) ⟨[], [], starts⟩
  /-- Every fragment has a start. -/
  timed : ∀ fragment ∈ arena.fragments, ∃ start, starts[fragment.id]? = some (some start)
  /-- It is the greatest delay of the fragment. -/
  greatest : ∀ fragment start, arena.fragment? fragment.id = some fragment →
    starts[fragment.id]? = some (some start) → IsGreatest (arena.delays fragment) start
  /-- What consumes nothing starts at once. -/
  leaf : ∀ fragment ∈ arena.fragments, fragment.inputs.isEmpty = true →
    starts[fragment.id]? = some (some 0)
  /-- In whatever order the fragments are visited, this comes to an end. -/
  ends : ∀ order, order.Perm arena.ids →
    Acc (fun later earlier => arena.Turn earlier later) (arena.outset order)
  /-- The end is only when all of them have been visited, and always with these starts. -/
  ended : ∀ order, order.Perm arena.ids → ∀ last,
    ReflTransGen arena.Turn (arena.outset order) last → (∀ later, ¬ arena.Turn last later) →
      last = ⟨[], [], starts⟩
  /-- All times fit in 128 bits when the number of fragments fits in 64. -/
  finish_le : arena.fragments.length < 2 ^ 64 → ∀ fragment start,
    arena.fragment? fragment.id = some fragment → starts[fragment.id]? = some (some start) →
      start + fragment.ticks ≤ 2 ^ 128 - 1
  /-- The times are those of the simulated schedule of a layout that the slots hold. -/
  settled : ∀ layout, arena.Holds layout → layout.Stratified → ∀ fragment ∈ layout.fragments,
    Settled layout starts fragment.id

/-- **Every set of fragments with acyclic links has a timetable.** The traversal ends and gives each
fragment its greatest delay, whatever the numbers of the fragments and the order in which they are
visited. -/
theorem exists_timetable (linked : arena.Linked) (acyclic : arena.Acyclic) :
    ∃ starts, arena.Timetable starts := by
  obtain ⟨starts, startTimes_eq, run⟩ := exists_startTimes linked acyclic
  obtain ⟨timed, greatest⟩ := linked.of_run run
  have present := linked.exists_of_mem_ids
  refine ⟨starts, startTimes_eq, run, timed, greatest, ?leaf, ?ends, ?ended, ?finish_le, ?settled⟩
  case leaf =>
    intro fragment member leaf
    obtain ⟨start, known⟩ := timed fragment member
    obtain rfl := eq_zero_of_mem_delays leaf (greatest _ _ (linked.find member) known).1
    exact known
  case ends =>
    intro order same
    exact (Underway.start arena order).ends linked
      (fun id member => present id (same.mem_iff.mp member)) acyclic
  case ended =>
    intro order same last lastRun stuck
    have presentHere : ∀ id ∈ order, ∃ fragment, arena.fragment? id = some fragment :=
      fun id member => present id (same.mem_iff.mp member)
    have underway := (Underway.start arena arena.ids).run linked present run
    have lastUnderway := (Underway.start arena order).run linked presentHere lastRun
    obtain ⟨ahead_eq, stack_eq, _⟩ := lastUnderway.of_ended linked presentHere stuck
    have starts_eq := lastUnderway.starts_eq linked presentHere underway present stuck
      not_turn_of_done fun id => by simp only [Reaches, same.mem_iff]
    cases last
    cases ahead_eq
    cases stack_eq
    cases starts_eq
    rfl
  case finish_le =>
    intro few fragment start found known
    obtain ⟨before, chain, rfl⟩ := (greatest fragment start found known).1
    calc (before.map Fragment.ticks).sum + fragment.ticks
      _ ≤ (arena.fragments.length + 1) * greatestWord := acyclic.delay_le chain found
      _ ≤ 2 ^ 64 * greatestWord := Nat.mul_le_mul_right _ few
      _ ≤ 2 ^ 128 - 1 := by decide
  case settled =>
    intro layout holds stratified
    obtain ⟨others, found, settled⟩ := holds.startTimes stratified linked acyclic
    cases startTimes_eq.symm.trans found
    exact settled

/-! ## Numbers against the links -/

/-- Three fragments, each of which consumes the values of those with higher numbers. One of them
costs as much as a fragment can, and one costs nothing. -/
def backwards : Arena where
  slots := [
    some { id := 0, nodes := [], cost := Cost.ofNat 0, inputs := SortedSet.ofList [1] },
    some { id := 1, nodes := [2], cost := Cost.ofNat 7, inputs := SortedSet.ofList [2, 3],
           dependents := SortedSet.ofList [0] },
    some { id := 2, nodes := [1], cost := Cost.ofNat 0, inputs := SortedSet.ofList [3],
           dependents := SortedSet.ofList [1] },
    some { id := 3, nodes := [0], cost := Cost.ofNat greatestWord,
           dependents := SortedSet.ofList [1, 2] }]
  live := 3

theorem backwards_linked : backwards.Linked where
  numbered id fragment found := by
    have checked : ∀ id ∈ List.range backwards.slots.length,
        ∀ fragment ∈ backwards.fragment? id, fragment.id = id := by decide
    exact checked id (List.mem_range.mpr (lt_length_of_fragment? found)) fragment found
  exists_input {input _} feeds := by
    have present : (backwards.fragment? input).isSome = true :=
      forall_feeds (P := fun input _ => (backwards.fragment? input).isSome = true) (by decide) feeds
    exact Option.isSome_iff_exists.mp present

theorem backwards_acyclic : backwards.Acyclic := by
  let rank : FragmentId → Nat := fun id => if id = FragmentId.root then 4 else 4 - id
  have rises : ∀ {input id}, backwards.Feeds input id → rank input < rank id := fun feeds =>
    forall_feeds (P := fun input id => rank input < rank id) (by decide) feeds
  exact acyclic_of_rank rank fun link _ => rises link

/-- The traversal from the first fragment settles all three. -/
theorem startTimes_backwards : backwards.startTimes =
    some [none, some (greatestWord + 1), some greatestWord, some 0] := by
  have visits : backwards.startTimes =
      [1, 2, 3].foldlM (fun starts id => backwards.settle (List.range 4) [id] starts)
        [none, none, none, none] := rfl
  have first : backwards.settle (List.range 4) [1] [none, none, none, none] =
      some [none, some (greatestWord + 1), some greatestWord, some 0] :=
    (settle_of_unsettled rfl rfl rfl (List.cons_ne_nil 2 [3]) (by decide)).trans <|
      (settle_of_ready rfl rfl rfl rfl).trans <|
      (settle_of_ready rfl rfl rfl rfl).trans <|
      (settle_of_ready rfl rfl rfl rfl).trans (settle_nil ..)
  rw [visits, List.foldlM_cons, first, Option.bind_eq_bind, Option.bind_some, List.foldlM_cons,
    settle_of_known rfl, settle_nil, Option.bind_eq_bind, Option.bind_some, List.foldlM_cons,
    settle_of_known rfl, settle_nil]
  rfl

/-- The first of the fragments starts when the two others have run one after the other. -/
theorem exists_timetable_backwards :
    backwards.Linked ∧ backwards.Acyclic ∧ ∃ starts, backwards.Timetable starts ∧
      starts = [none, some (greatestWord + 1), some greatestWord, some 0] := by
  obtain ⟨starts, timetable⟩ := exists_timetable backwards_linked backwards_acyclic
  exact ⟨backwards_linked, backwards_acyclic, starts, timetable,
    Option.some.inj (timetable.startTimes_eq.symm.trans startTimes_backwards)⟩

end ValueEngine.Arena
