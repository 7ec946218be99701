import ValueEngine.Fragment.Colouring
import ValueEngine.Proofs.Fragment.Timing

/-!
# The events of the sweep

The sweep over the simulated schedule meets a list of events, one after the other: each fragment
starts once and finishes once (`Layout.events`, `Layout.colouring_eq`). The events are ordered by
their times, and at one time fragments finish before others start. So a fragment has started when
it finishes, and its inputs have finished when it starts (`Layout.Stratified.ordered`).
-/

set_option autoImplicit false

namespace ValueEngine

/-- What the sweep meets at an instant. -/
inductive Event where
  /-- A fragment finishes. -/
  | finishing (fragment : Fragment)
  /-- A fragment starts. -/
  | starting (fragment : Fragment)
deriving DecidableEq

namespace Event

/-- What the sweep does about an event. -/
def handle (maxConcurrency : Nat) (sweep : Sweep) : Event → Sweep
  | finishing fragment => sweep.finish fragment
  | starting fragment => sweep.start maxConcurrency fragment

/-- When an event happens. -/
def time (schedule : Schedule) : Event → Nat
  | finishing fragment => schedule.finish fragment.id
  | starting fragment => schedule.start fragment.id

/-- The fragment that starts. -/
def starts? : Event → Option Fragment
  | finishing _ => none
  | starting fragment => some fragment

end Event

/-- The sweep after some events. -/
def Sweep.after (maxConcurrency : Nat) (events : List Event) : Sweep :=
  events.foldl (Event.handle maxConcurrency) {}

/-- The events at an instant: what finishes, then what starts. -/
def Layout.eventsAt (layout : Layout) (time : Nat) : List Event :=
  ((layout.fragments.filter fun fragment => layout.schedule.finish fragment.id = time).map
    Event.finishing) ++
  ((layout.fragments.filter fun fragment => layout.schedule.start fragment.id = time).map
    Event.starting)

/-- All events of the sweep. -/
def Layout.events (layout : Layout) : List Event :=
  layout.schedule.instants.flatMap layout.eventsAt

/-- **The colouring is what the events leave.** -/
theorem Layout.colouring_eq (layout : Layout) (maxConcurrency : Nat) :
    layout.colouring maxConcurrency = (Sweep.after maxConcurrency layout.events).colouring := by
  have instant_eq : Sweep.instant layout layout.schedule maxConcurrency =
      fun sweep time => (layout.eventsAt time).foldl (Event.handle maxConcurrency) sweep := by
    funext sweep time
    rw [Layout.eventsAt, List.foldl_append, List.foldl_map, List.foldl_map]
    rfl
  rw [Sweep.after, Layout.events, List.foldl_flatMap, ← instant_eq]
  rfl

/-- An order of events that the sweep can rely on. -/
structure Event.Ordered (events : List Event) : Prop where
  /-- Nothing happens twice. -/
  nodup : events.Nodup
  /-- Fragments differ in their numbers. -/
  eq_of_id : ∀ fragment other, starting fragment ∈ events → starting other ∈ events →
    fragment.id = other.id → fragment = other
  /-- What finishes has started. -/
  started : ∀ early fragment late, events = early ++ finishing fragment :: late →
    starting fragment ∈ early
  /-- The inputs of what starts have finished. -/
  fed : ∀ early fragment late, events = early ++ starting fragment :: late →
    ∀ id ∈ fragment.inputs, ∃ input, finishing input ∈ early ∧ input.id = id

namespace Event

/-- An event happens before another one, or at the same time but no later in the order of an
instant. -/
def Precedes (schedule : Schedule) (earlier later : Event) : Prop :=
  earlier.time schedule < later.time schedule ∨
    earlier.time schedule = later.time schedule ∧ (later.starts? = none → earlier.starts? = none)

variable {events early late : List Event} {fragment : Fragment} {schedule : Schedule}
  {event other : Event}

theorem Precedes.time_le (precedes : Precedes schedule event other) :
    event.time schedule ≤ other.time schedule := by
  rcases precedes with before | same
  · exact Nat.le_of_lt before
  · exact Nat.le_of_eq same.1

/-- An event that another one may not precede comes before it. -/
theorem mem_of_not_precedes (sorted : (early ++ event :: late).Pairwise (Precedes schedule))
    (member : other ∈ early ++ event :: late) (differs : other ≠ event)
    (later : ¬ Precedes schedule event other) : other ∈ early := by
  obtain ⟨_, after, _⟩ := List.pairwise_append.mp sorted
  rcases List.mem_append.mp member with before | rest
  · exact before
  · rcases List.mem_cons.mp rest with same | behind
    · exact absurd same differs
    · exact absurd ((List.pairwise_cons.mp after).1 other behind) later

/-- What starts has not finished yet. -/
theorem Ordered.not_finished (ordered : Ordered (early ++ starting fragment :: late)) :
    finishing fragment ∉ early := by
  intro finished
  obtain ⟨first, second, rfl⟩ := List.append_of_mem finished
  have started := ordered.started first fragment (second ++ starting fragment :: late) (by simp)
  have nodup := ordered.nodup
  rw [List.append_assoc, List.nodup_append] at nodup
  exact nodup.2.2 _ started _ (by simp) rfl

end Event

namespace Layout

variable {layout : Layout} {fragment : Fragment} {time : Nat}

theorem finishing_mem_eventsAt : .finishing fragment ∈ layout.eventsAt time ↔
    fragment ∈ layout.fragments ∧ layout.schedule.finish fragment.id = time := by
  simp [eventsAt]

theorem starting_mem_eventsAt : .starting fragment ∈ layout.eventsAt time ↔
    fragment ∈ layout.fragments ∧ layout.schedule.start fragment.id = time := by
  simp [eventsAt]

theorem time_of_mem_eventsAt {event : Event} (member : event ∈ layout.eventsAt time) :
    event.time layout.schedule = time := by
  cases event with
  | finishing fragment => exact (finishing_mem_eventsAt.mp member).2
  | starting fragment => exact (starting_mem_eventsAt.mp member).2

theorem instants_sorted (schedule : Schedule) : schedule.instants.Pairwise (· < ·) :=
  (SortedSet.ofList _).ascending.imp fun below => Nat.compare_eq_lt.mp below

/-- The events stand in the order of their times. -/
theorem events_sorted (layout : Layout) :
    layout.events.Pairwise (Event.Precedes layout.schedule) := by
  refine List.pairwise_flatMap.mpr ⟨fun time _ => ?within, ?between⟩
  case within =>
    have ordered : ∀ event ∈ layout.eventsAt time, ∀ other ∈ layout.eventsAt time,
        (other.starts? = none → event.starts? = none) →
          Event.Precedes layout.schedule event other := fun event member other also order =>
      .inr ⟨(time_of_mem_eventsAt member).trans (time_of_mem_eventsAt also).symm, order⟩
    unfold eventsAt at ordered ⊢
    rw [List.pairwise_append]
    refine ⟨?finishing, ?starting, ?across⟩
    case finishing =>
      refine List.pairwise_of_forall_mem_list fun event member other also => ?_
      refine ordered event (List.mem_append_left _ member) other (List.mem_append_left _ also) ?_
      obtain ⟨fragment, _, rfl⟩ := List.mem_map.mp member
      exact fun _ => rfl
    case starting =>
      refine List.pairwise_of_forall_mem_list fun event member other also => ?_
      refine ordered event (List.mem_append_right _ member) other (List.mem_append_right _ also) ?_
      obtain ⟨fragment, _, rfl⟩ := List.mem_map.mp also
      exact nofun
    case across =>
      intro event member other also
      refine ordered event (List.mem_append_left _ member) other (List.mem_append_right _ also) ?_
      obtain ⟨fragment, _, rfl⟩ := List.mem_map.mp also
      exact nofun
  case between =>
    refine (instants_sorted _).imp fun below earlier member later also => .inl ?_
    rw [time_of_mem_eventsAt member, time_of_mem_eventsAt also]
    exact below

namespace Stratified

variable (stratified : layout.Stratified)
include stratified

theorem mem_instants (member : fragment ∈ layout.fragments) :
    layout.schedule.start fragment.id ∈ layout.schedule.instants ∧
      layout.schedule.finish fragment.id ∈ layout.schedule.instants := by
  have timed := stratified.get?_schedule member
  have listed : layout.schedule.spanOf fragment ∈ layout.schedule.values :=
    List.mem_map_of_mem (f := Prod.snd) (SortedMap.get?_eq_some_iff.mp timed)
  rw [Schedule.start_of_get? timed, Schedule.finish_of_get? timed]
  simp only [Schedule.instants, SortedSet.mem_toList, SortedSet.mem_ofList, List.mem_flatMap]
  exact ⟨⟨_, listed, by simp⟩, ⟨_, listed, by simp⟩⟩

theorem finishing_mem_events :
    .finishing fragment ∈ layout.events ↔ fragment ∈ layout.fragments := by
  rw [events, List.mem_flatMap]
  simp only [finishing_mem_eventsAt]
  exact ⟨fun ⟨_, _, member, _⟩ => member,
    fun member => ⟨_, (stratified.mem_instants member).2, member, rfl⟩⟩

theorem starting_mem_events :
    .starting fragment ∈ layout.events ↔ fragment ∈ layout.fragments := by
  rw [events, List.mem_flatMap]
  simp only [starting_mem_eventsAt]
  exact ⟨fun ⟨_, _, member, _⟩ => member,
    fun member => ⟨_, (stratified.mem_instants member).1, member, rfl⟩⟩

theorem events_nodup : layout.events.Nodup := by
  refine List.pairwise_flatMap.mpr ⟨fun time _ => ?within, ?between⟩
  case within =>
    refine List.nodup_append.mpr ⟨?_, ?_, ?_⟩
    · exact (stratified.nodup.filter _).map fun _ _ same => Event.finishing.inj same
    · exact (stratified.nodup.filter _).map fun _ _ same => Event.starting.inj same
    · intro event member other also
      obtain ⟨fragment, _, rfl⟩ := List.mem_map.mp member
      obtain ⟨fragment, _, rfl⟩ := List.mem_map.mp also
      exact nofun
  case between =>
    refine (instants_sorted _).imp fun below earlier member later also same => ?_
    subst same
    have times := (time_of_mem_eventsAt member).symm.trans (time_of_mem_eventsAt also)
    exact Nat.ne_of_lt below times

/-- **The sweep can rely on the order of its events.** -/
theorem ordered : Event.Ordered layout.events where
  nodup := stratified.events_nodup
  eq_of_id _ _ member also same :=
    stratified.eq_of_id (stratified.starting_mem_events.mp member)
      (stratified.starting_mem_events.mp also) same
  started early fragment late split := by
    have sorted := layout.events_sorted
    have finishing : Event.finishing fragment ∈ layout.events := by simp [split]
    have member := stratified.finishing_mem_events.mp finishing
    have starting := stratified.starting_mem_events.mpr member
    rw [split] at sorted starting
    refine Event.mem_of_not_precedes sorted starting nofun fun precedes => ?_
    have time_le : layout.schedule.finish fragment.id ≤ layout.schedule.start fragment.id :=
      precedes.time_le
    rw [stratified.finish_schedule member] at time_le
    have ticks_pos := fragment.ticks_pos
    omega
  fed early fragment late split id input := by
    have sorted := layout.events_sorted
    have starting : Event.starting fragment ∈ layout.events := by simp [split]
    have member := stratified.starting_mem_events.mp starting
    obtain ⟨other, inside, rfl⟩ := mem_ids_iff.mp (stratified.inputs_mem fragment member id input)
    have finishing := stratified.finishing_mem_events.mpr inside
    have finish_le : layout.schedule.finish other.id ≤ layout.schedule.start fragment.id := by
      rw [stratified.finish_schedule inside]
      exact stratified.starts_schedule.finish_le member (mem_inputsOf.mpr ⟨inside, input⟩)
    rw [split] at sorted finishing
    refine ⟨other, Event.mem_of_not_precedes sorted finishing nofun fun precedes => ?_, rfl⟩
    rcases precedes with before | ⟨_, order⟩
    · exact Nat.not_lt_of_le finish_le before
    · cases order rfl

end Stratified

end Layout

end ValueEngine
