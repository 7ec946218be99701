import Mathlib.Data.List.Perm.Subperm
import ValueEngine.Fragment.Schedule
import ValueEngine.Proofs.Fragment.Soundness

/-!
# The times of fragments

A fragment starts at the latest finish among its inputs, and at once when it has none. In a layout
whose links rise in some rank there is one way to have such times (`Layout.Stratified.starts_eq`),
and the simulated schedule has it: as long as some fragment is pending, one of them is ready, for
the rank cannot fall for ever, and what a round settles does not depend on later rounds.
-/

set_option autoImplicit false

namespace ValueEngine

/-- The latest of some times, zero if there are none. -/
def latest (times : List Nat) : Nat := times.foldl max 0

theorem latest_le_iff {times : List Nat} {bound : Nat} :
    latest times ≤ bound ↔ ∀ time ∈ times, time ≤ bound := by
  have from_start : ∀ start, times.foldl max start ≤ bound ↔
      start ≤ bound ∧ ∀ time ∈ times, time ≤ bound := by
    induction times with
    | nil => simp
    | cons first rest ih =>
      intro start
      rw [List.foldl_cons, ih, List.forall_mem_cons, Nat.max_le, and_assoc]
  rw [latest, from_start, and_iff_right (Nat.zero_le bound)]

/-- The latest of some times is one of them. -/
theorem latest_mem {times : List Nat} (some : times ≠ []) : latest times ∈ times := by
  by_contra absent
  have earlier : ∀ time ∈ times, time < latest times := fun time member =>
    Nat.lt_of_le_of_ne (latest_le_iff.mp (Nat.le_refl _) time member)
      fun same => absent (same ▸ member)
  have bounded : latest times ≤ latest times - 1 :=
    latest_le_iff.mpr fun time member => Nat.le_sub_one_of_lt (earlier time member)
  obtain ⟨time, member⟩ := List.exists_mem_of_ne_nil times some
  have positive := earlier time member
  omega

/-- Only the times count, not their order or how often they are listed. -/
theorem latest_congr {times others : List Nat} (same : ∀ time, time ∈ times ↔ time ∈ others) :
    latest times = latest others := by
  have bounds : ∀ bound, latest times ≤ bound ↔ latest others ≤ bound := by
    intro bound
    simp only [latest_le_iff, same]
  exact Nat.le_antisymm ((bounds _).mpr (Nat.le_refl _)) ((bounds _).mp (Nat.le_refl _))

theorem Fragment.ticks_eq (fragment : Fragment) : fragment.ticks = max fragment.cost.units 1 := rfl

theorem Fragment.ticks_pos (fragment : Fragment) : 0 < fragment.ticks :=
  Nat.lt_of_lt_of_le Nat.zero_lt_one (Nat.le_max_right _ _)

theorem Fragment.ticks_le (fragment : Fragment) : fragment.ticks ≤ greatestWord :=
  Nat.max_le.mpr ⟨fragment.cost.units_le, Nat.succ_pos _⟩

namespace Layout

/-- The fragments that a fragment consumes. -/
def inputsOf (layout : Layout) (fragment : Fragment) : List Fragment :=
  layout.fragments.filter fun other => decide (other.id ∈ fragment.inputs)

/-- Every fragment starts at the latest finish among its inputs. -/
def Starts (layout : Layout) (start : FragmentId → Nat) : Prop :=
  ∀ fragment ∈ layout.fragments, start fragment.id =
    latest ((layout.inputsOf fragment).map fun input => start input.id + input.ticks)

/-- The inputs of fragments are other fragments, and the links rise in some rank. -/
structure Stratified (layout : Layout) : Prop where
  ids_nodup : layout.ids.Nodup
  inputs_mem : ∀ fragment ∈ layout.fragments, ∀ id ∈ fragment.inputs, id ∈ layout.ids
  ranked : ∃ rank : FragmentId → Nat, ∀ fragment ∈ layout.fragments,
    ∀ id ∈ fragment.inputs, rank id < rank fragment.id

variable {layout : Layout} {graph : Graph} {fragment other : Fragment}
  {start also : FragmentId → Nat}

theorem Sound.stratified (sound : layout.Sound graph) : layout.Stratified where
  ids_nodup := (List.nodup_cons.mp sound.ids_nodup).2
  inputs_mem fragment member := sound.inputs_mem fragment (mem_all_of_mem member)
  ranked := sound.ranked

theorem mem_inputsOf : other ∈ layout.inputsOf fragment ↔
    other ∈ layout.fragments ∧ other.id ∈ fragment.inputs := by
  simp [inputsOf]

/-- An input has finished when a fragment starts. -/
theorem Starts.finish_le (starts : layout.Starts start) (member : fragment ∈ layout.fragments)
    (input : other ∈ layout.inputsOf fragment) :
    start other.id + other.ticks ≤ start fragment.id := by
  rw [starts fragment member]
  exact latest_le_iff.mp (Nat.le_refl _) _ (List.mem_map_of_mem input)

namespace Stratified

variable (stratified : layout.Stratified)
include stratified

theorem eq_of_id (member : fragment ∈ layout.fragments) (also : other ∈ layout.fragments)
    (same : fragment.id = other.id) : fragment = other :=
  List.inj_on_of_nodup_map stratified.ids_nodup member also same

theorem nodup : layout.fragments.Nodup := stratified.ids_nodup.of_map _

/-- What holds of a fragment as soon as it holds of its inputs holds of all fragments. -/
theorem induction_on {motive : Fragment → Prop}
    (step : ∀ fragment ∈ layout.fragments,
      (∀ input ∈ layout.inputsOf fragment, motive input) → motive fragment) :
    ∀ fragment ∈ layout.fragments, motive fragment := by
  obtain ⟨rank, rises⟩ := stratified.ranked
  intro fragment member
  induction level : rank fragment.id using Nat.strongRecOn generalizing fragment with
  | _ level ih =>
    subst level
    refine step fragment member fun input consumed => ?_
    obtain ⟨inside, named⟩ := mem_inputsOf.mp consumed
    exact ih _ (rises fragment member _ named) input inside rfl

/-- **There are no two ways to have such times.** -/
theorem starts_eq (starts : layout.Starts start) (others : layout.Starts also) :
    ∀ fragment ∈ layout.fragments, start fragment.id = also fragment.id := by
  refine stratified.induction_on fun fragment member same => ?_
  rw [starts fragment member, others fragment member]
  refine congrArg latest (List.map_congr_left fun input consumed => ?_)
  rw [same input consumed]

end Stratified

end Layout

/-! ## The simulated schedule -/

namespace Schedule

/-- A schedule keeps the times of another one. -/
def Extends (schedule later : Schedule) : Prop :=
  ∀ id span, schedule.get? id = some span → later.get? id = some span

variable {schedule later : Schedule} {fragment : Fragment} {id : FragmentId} {span : Span}

theorem finish_of_get? (timed : schedule.get? id = some span) :
    schedule.finish id = span.finish := by
  simp [finish, timed]

theorem start_of_get? (timed : schedule.get? id = some span) : schedule.start id = span.start := by
  simp [start, timed]

theorem isReady_iff : schedule.isReady fragment = true ↔
    ∀ id ∈ fragment.inputs, ∃ span, schedule.get? id = some span := by
  simp only [isReady, List.all_eq_true, SortedSet.mem_toList, SortedMap.contains,
    Option.isSome_iff_exists]

theorem Extends.isReady (extended : schedule.Extends later)
    (ready : schedule.isReady fragment = true) : later.isReady fragment = true := by
  refine isReady_iff.mpr fun id input => ?_
  obtain ⟨span, timed⟩ := isReady_iff.mp ready id input
  exact ⟨span, extended id span timed⟩

/-- The times of a fragment are decided as soon as it is ready. -/
theorem Extends.spanOf_eq (extended : schedule.Extends later)
    (ready : schedule.isReady fragment = true) :
    later.spanOf fragment = schedule.spanOf fragment := by
  have finish_eq : fragment.inputs.toList.map later.finish =
      fragment.inputs.toList.map schedule.finish := by
    refine List.map_congr_left fun id input => ?_
    obtain ⟨span, timed⟩ := isReady_iff.mp ready id input
    rw [finish_of_get? timed, finish_of_get? (extended id span timed)]
  simp only [spanOf, lastFinish, finish_eq]

/-- Some rounds have given all fragments times that are not pending any more. -/
structure Settling (layout : Layout) (schedule : Schedule) (pending : List Fragment) : Prop where
  pending_sub : pending.Sublist layout.fragments
  /-- A fragment that is not pending has its times, and so have its inputs. -/
  timed : ∀ fragment ∈ layout.fragments, fragment ∉ pending →
    schedule.isReady fragment = true ∧ schedule.get? fragment.id = some (schedule.spanOf fragment)
  /-- Nothing else has times. -/
  known : ∀ id span, schedule.get? id = some span →
    ∃ fragment ∈ layout.fragments, fragment ∉ pending ∧ fragment.id = id

namespace Settling

variable {layout : Layout} {pending : List Fragment}

theorem start (layout : Layout) : Settling layout ∅ layout.fragments where
  pending_sub := List.Sublist.refl _
  timed _ member settled := absurd member settled
  known _ _ timed := by cases timed

variable (stratified : layout.Stratified) (settling : Settling layout schedule pending)
include stratified settling

/-- A pending fragment has no times yet. -/
theorem get?_of_pending (member : fragment ∈ pending) : schedule.get? fragment.id = none := by
  refine Option.eq_none_iff_forall_ne_some.mpr fun span timed => ?_
  obtain ⟨other, inside, settled, same⟩ := settling.known _ _ timed
  exact settled (stratified.eq_of_id inside (settling.pending_sub.subset member) same ▸ member)

/-- One of the pending fragments is ready. -/
theorem exists_ready (waiting : pending ≠ []) :
    ∃ fragment ∈ pending, schedule.isReady fragment = true := by
  by_contra none
  have unsettled : ∀ fragment ∈ layout.fragments, fragment ∉ pending := by
    refine stratified.induction_on fun fragment member settled waits => ?_
    refine none ⟨fragment, waits, isReady_iff.mpr fun id input => ?_⟩
    obtain ⟨other, inside, rfl⟩ :=
      Layout.mem_ids_iff.mp (stratified.inputs_mem fragment member id input)
    have consumed := Layout.mem_inputsOf.mpr ⟨inside, input⟩
    exact ⟨_, (settling.timed other inside (settled other consumed)).2⟩
  obtain ⟨fragment, waits⟩ := List.exists_mem_of_ne_nil pending waiting
  exact unsettled fragment (settling.pending_sub.subset waits) waits

/-- Each round leaves fewer fragments pending. -/
theorem unready_lt (waiting : pending ≠ []) :
    (schedule.unready pending).length < pending.length := by
  obtain ⟨fragment, member, ready⟩ := settling.exists_ready stratified waiting
  refine List.length_filter_lt_length_iff_exists.mpr ⟨fragment, member, ?_⟩
  simp [ready]

/-- The times that a round gives. -/
theorem get?_round_of_ready (member : fragment ∈ pending)
    (ready : schedule.isReady fragment = true) :
    (schedule.round pending).get? fragment.id = some (schedule.spanOf fragment) := by
  let entry := fun fragment : Fragment => (fragment.id, schedule.spanOf fragment)
  have keys : (((pending.filter schedule.isReady).map entry).map Prod.fst).Nodup := by
    have settled : (pending.filter schedule.isReady).Sublist layout.fragments :=
      List.filter_sublist.trans settling.pending_sub
    rw [List.map_map]
    exact stratified.ids_nodup.sublist (settled.map Fragment.id)
  exact SortedMap.get?_insertAll_of_mem keys
    (List.mem_map_of_mem (f := entry) (List.mem_filter.mpr ⟨member, ready⟩))

/-- A round changes no times. -/
theorem extends_round : schedule.Extends (schedule.round pending) := by
  intro id span timed
  refine (SortedMap.get?_insertAll_of_not_mem fun listed => ?_).trans timed
  simp only [List.map_map, List.mem_map, List.mem_filter, Function.comp_apply] at listed
  obtain ⟨fragment, ⟨member, _⟩, rfl⟩ := listed
  cases (settling.get?_of_pending stratified member).symm.trans timed

/-- **A round settles the pending fragments that are ready.** -/
theorem round : Settling layout (schedule.round pending) (schedule.unready pending) := by
  have extended := settling.extends_round stratified
  have waits : ∀ fragment, fragment ∈ schedule.unready pending ↔
      fragment ∈ pending ∧ schedule.isReady fragment = false := by
    intro fragment
    simp [unready, List.mem_filter]
  refine ⟨List.filter_sublist.trans settling.pending_sub, ?timed, ?known⟩
  case timed =>
    intro fragment member settled
    have decided : schedule.isReady fragment = true ∧
        (schedule.round pending).get? fragment.id = some (schedule.spanOf fragment) := by
      by_cases before : fragment ∈ pending
      · have ready : schedule.isReady fragment = true :=
          Bool.of_not_eq_false fun unready => settled ((waits fragment).mpr ⟨before, unready⟩)
        exact ⟨ready, settling.get?_round_of_ready stratified before ready⟩
      · obtain ⟨ready, timed⟩ := settling.timed fragment member before
        exact ⟨ready, extended _ _ timed⟩
    refine ⟨extended.isReady decided.1, ?_⟩
    rw [extended.spanOf_eq decided.1]
    exact decided.2
  case known =>
    intro id span timed
    rcases SortedMap.mem_of_get?_insertAll timed with given | earlier
    · obtain ⟨fragment, chosen, same⟩ := List.mem_map.mp given
      obtain ⟨member, ready⟩ := List.mem_filter.mp chosen
      refine ⟨fragment, settling.pending_sub.subset member, fun still => ?_,
        congrArg Prod.fst same⟩
      cases ready.symm.trans ((waits fragment).mp still).2
    · obtain ⟨fragment, member, settled, same⟩ := settling.known id span earlier
      exact ⟨fragment, member, fun still => settled ((waits fragment).mp still).1, same⟩

/-- **The rounds settle all fragments.** -/
theorem settle : Settling layout (schedule.settle pending) [] := by
  fun_induction Schedule.settle schedule pending with
  | case1 schedule pending fewer ih => exact ih (settling.round stratified)
  | case2 schedule pending stuck =>
    have none : pending = [] := by
      by_contra waiting
      exact stuck (settling.unready_lt stratified waiting)
    exact none ▸ settling

end Settling

end Schedule

namespace Layout.Stratified

variable {layout : Layout} {fragment : Fragment} (stratified : layout.Stratified)
include stratified

/-- Every fragment has its times in the simulated schedule. -/
theorem get?_schedule (member : fragment ∈ layout.fragments) :
    layout.schedule.get? fragment.id = some (layout.schedule.spanOf fragment) :=
  (((Schedule.Settling.start layout).settle stratified).timed fragment member
    List.not_mem_nil).2

/-- Nothing else has times. -/
theorem exists_of_get?_schedule {id : FragmentId} {span : Span}
    (timed : layout.schedule.get? id = some span) :
    ∃ fragment ∈ layout.fragments, fragment.id = id := by
  obtain ⟨fragment, member, _, same⟩ :=
    ((Schedule.Settling.start layout).settle stratified).known id span timed
  exact ⟨fragment, member, same⟩

theorem start_schedule (member : fragment ∈ layout.fragments) :
    layout.schedule.start fragment.id =
      latest (fragment.inputs.toList.map layout.schedule.finish) :=
  Schedule.start_of_get? (stratified.get?_schedule member)

theorem finish_schedule (member : fragment ∈ layout.fragments) :
    layout.schedule.finish fragment.id = layout.schedule.start fragment.id + fragment.ticks := by
  rw [Schedule.finish_of_get? (stratified.get?_schedule member), stratified.start_schedule member]
  rfl

/-- **In the simulated schedule every fragment starts at the latest finish among its inputs.** -/
theorem starts_schedule : layout.Starts layout.schedule.start := by
  intro fragment member
  rw [stratified.start_schedule member]
  refine latest_congr fun time => ?_
  simp only [List.mem_map, SortedSet.mem_toList, mem_inputsOf]
  constructor
  · rintro ⟨id, input, rfl⟩
    obtain ⟨other, inside, rfl⟩ := mem_ids_iff.mp (stratified.inputs_mem fragment member id input)
    exact ⟨other, ⟨inside, input⟩, (stratified.finish_schedule inside).symm⟩
  · rintro ⟨other, ⟨inside, input⟩, rfl⟩
    exact ⟨other.id, input, stratified.finish_schedule inside⟩

end Layout.Stratified

/-! ## The latest finish -/

namespace Layout

/-- The fragments that have finished when a fragment has, itself included. -/
def finishedWith (layout : Layout) (fragment : Fragment) : List Fragment :=
  layout.fragments.filter fun other =>
    decide (layout.schedule.finish other.id ≤ layout.schedule.finish fragment.id)

namespace Stratified

variable {layout : Layout} (stratified : layout.Stratified)
include stratified

/-- More has finished with a fragment than with any of its inputs: itself has. -/
theorem finishedWith_lt {fragment input : Fragment} (member : fragment ∈ layout.fragments)
    (consumed : input ∈ layout.inputsOf fragment) :
    (layout.finishedWith input).length < (layout.finishedWith fragment).length := by
  have earlier := stratified.starts_schedule.finish_le member consumed
  rw [← stratified.finish_schedule (mem_inputsOf.mp consumed).1] at earlier
  have ends := stratified.finish_schedule member
  have runs := fragment.ticks_pos
  have outside : fragment ∉ layout.finishedWith input := by
    rw [finishedWith, List.mem_filter, decide_eq_true_eq]
    omega
  have nodup : (fragment :: layout.finishedWith input).Nodup :=
    List.nodup_cons.mpr ⟨outside, stratified.nodup.filter _⟩
  refine (nodup.subperm fun other inside => ?_).length_le
  rw [finishedWith, List.mem_filter, decide_eq_true_eq]
  rcases List.mem_cons.mp inside with rfl | inside
  · exact ⟨member, Nat.le_refl _⟩
  · rw [finishedWith, List.mem_filter, decide_eq_true_eq] at inside
    exact ⟨inside.1, by omega⟩

/-- **No fragment finishes later than if all fragments ran one after the other**, each of them at
the highest cost. -/
theorem finish_le : ∀ fragment ∈ layout.fragments,
    layout.schedule.finish fragment.id ≤ layout.size * greatestWord := by
  have bounded : ∀ fragment ∈ layout.fragments, layout.schedule.finish fragment.id ≤
      (layout.finishedWith fragment).length * greatestWord := by
    refine stratified.induction_on fun fragment member ih => ?_
    have before : layout.schedule.start fragment.id ≤
        ((layout.finishedWith fragment).length - 1) * greatestWord := by
      rw [stratified.starts_schedule fragment member, latest_le_iff]
      intro time listed
      obtain ⟨input, consumed, rfl⟩ := List.mem_map.mp listed
      rw [← stratified.finish_schedule (mem_inputsOf.mp consumed).1]
      refine Nat.le_trans (ih input consumed) (Nat.mul_le_mul_right _ ?_)
      exact Nat.le_sub_one_of_lt (stratified.finishedWith_lt member consumed)
    have counted : fragment ∈ layout.finishedWith fragment :=
      List.mem_filter.mpr ⟨member, decide_eq_true (Nat.le_refl _)⟩
    calc layout.schedule.finish fragment.id
      _ = layout.schedule.start fragment.id + fragment.ticks := stratified.finish_schedule member
      _ ≤ ((layout.finishedWith fragment).length - 1) * greatestWord + greatestWord :=
        Nat.add_le_add before fragment.ticks_le
      _ = (layout.finishedWith fragment).length * greatestWord := by
        rw [← Nat.succ_mul, Nat.succ_eq_add_one,
          Nat.sub_add_cancel (List.length_pos_of_mem counted)]
  intro fragment member
  refine Nat.le_trans (bounded fragment member) (Nat.mul_le_mul_right _ ?_)
  exact List.length_filter_le _ _

end Stratified

end Layout

end ValueEngine
