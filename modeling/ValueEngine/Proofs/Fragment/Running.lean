import Mathlib.Data.List.Induction
import ValueEngine.Proofs.Fragment.Events

/-!
# What the sweep counts

The sweep keeps a count of running fragments for each colour. It counts what runs: the fragments
of the colour that have started and not finished (`Sweep.Tallied`). A colour is joined only while
its count is below the concurrency, and a new colour counts one, so no count exceeds the
concurrency. A fragment that finishes is counted until then, and so its colour counts one at least.
-/

set_option autoImplicit false

namespace ValueEngine

/-! ## What runs -/

namespace Event

/-- What runs after an event. -/
def track (running : List Fragment) : Event → List Fragment
  | finishing fragment => running.erase fragment
  | starting fragment => running ++ [fragment]

/-- What runs after some events, in the order in which it has started. -/
def running (events : List Event) : List Fragment := events.foldl track []

theorem running_concat (events : List Event) (event : Event) :
    running (events ++ [event]) = track (running events) event := by
  rw [running, List.foldl_append]
  rfl

variable {early late : List Event} {event : Event} {fragment : Fragment}

/-- Nothing happens again. -/
theorem Ordered.new (ordered : Ordered (early ++ event :: late)) : event ∉ early := fun member =>
  (List.nodup_append.mp ordered.nodup).2.2 _ member _ List.mem_cons_self rfl

/-- What starts has a number of its own. -/
theorem Ordered.id_ne_of_started (ordered : Ordered (early ++ starting fragment :: late))
    {other : Fragment} (started : starting other ∈ early) : other.id ≠ fragment.id := by
  intro same
  have equal := ordered.eq_of_id other fragment (List.mem_append_left _ started)
    (List.mem_append_right _ List.mem_cons_self) same
  exact ordered.new (equal ▸ started)

/-- What has finished had started. -/
theorem Ordered.started_of_finished (ordered : Ordered (early ++ late))
    (finished : finishing fragment ∈ early) : starting fragment ∈ early := by
  obtain ⟨first, second, rfl⟩ := List.append_of_mem finished
  have started := ordered.started first fragment (second ++ late) (by simp)
  exact List.mem_append_left _ started

/-- **What each event keeps holds after any of them.** The order is that of all events: those to
come grow while the induction goes back. -/
theorem Ordered.induction_on {motive : List Event → Prop} (ordered : Ordered (early ++ late))
    (empty : motive [])
    (finish : ∀ {early fragment late}, Ordered (early ++ finishing fragment :: late) →
      motive early → motive (early ++ [finishing fragment]))
    (start : ∀ {early fragment late}, Ordered (early ++ starting fragment :: late) →
      motive early → motive (early ++ [starting fragment])) : motive early := by
  induction early using List.reverseRecOn generalizing late with
  | nil => exact empty
  | append_singleton early event ih =>
    rw [List.append_assoc, List.singleton_append] at ordered
    cases event with
    | finishing fragment => exact finish ordered (ih ordered)
    | starting fragment => exact start ordered (ih ordered)

/-- What runs has started and not finished. -/
theorem Ordered.running (ordered : Ordered (early ++ late)) :
    (running early).Nodup ∧
      ∀ fragment, fragment ∈ running early ↔
        starting fragment ∈ early ∧ finishing fragment ∉ early := by
  refine ordered.induction_on (motive := fun early => (Event.running early).Nodup ∧
    ∀ fragment, fragment ∈ Event.running early ↔
      starting fragment ∈ early ∧ finishing fragment ∉ early) ?empty ?finish ?start
  case empty => exact ⟨List.nodup_nil, fun fragment => by simp [Event.running]⟩
  case finish =>
    rintro early fragment late ordered ⟨nodup, mem_running⟩
    rw [running_concat]
    refine ⟨nodup.erase fragment, fun other => ?_⟩
    rw [track, nodup.mem_erase_iff, mem_running]
    simp only [List.mem_append, List.mem_singleton, Event.finishing.injEq, reduceCtorEq, or_false]
    tauto
  case start =>
    rintro early fragment late ordered ⟨nodup, mem_running⟩
    rw [running_concat]
    have new : fragment ∉ Event.running early := fun member =>
      ordered.new ((mem_running fragment).mp member).1
    refine ⟨?_, fun other => ?_⟩
    · exact List.nodup_append_comm.mp (List.nodup_cons.mpr ⟨new, nodup⟩)
    · rw [track, List.mem_append, List.mem_singleton, mem_running]
      simp only [List.mem_append, List.mem_singleton, Event.starting.injEq, reduceCtorEq,
        or_false]
      constructor
      · rintro (⟨started, unfinished⟩ | rfl)
        · exact ⟨.inl started, unfinished⟩
        · exact ⟨.inr rfl, ordered.not_finished⟩
      · rintro ⟨started | rfl, unfinished⟩
        · exact .inl ⟨started, unfinished⟩
        · exact .inr rfl

end Event

/-! ## Single events -/

theorem Colouring.colours_foldl_addTail (tail : FragmentId) (colouring : Colouring)
    (ids : List FragmentId) : (ids.foldl (addTail tail) colouring).colours = colouring.colours := by
  induction ids generalizing colouring with
  | nil => rfl
  | cons id rest ih => exact ih _

/-- A colour is shared by all of some fragments, of which there is one at least. -/
theorem Colouring.shared?_eq_some_iff {colouring : Colouring} {ids : List FragmentId}
    {colour : Nat} : colouring.shared? ids = some colour ↔
      ids ≠ [] ∧ ∀ id ∈ ids, colouring.colour id = colour := by
  cases ids with
  | nil => exact iff_of_false nofun fun nonempty => nonempty.1 rfl
  | cons first rest =>
    simp only [shared?, List.all_eq_true, beq_iff_eq, Option.ite_none_right_eq_some,
      Option.some.injEq, List.forall_mem_cons, ne_eq, reduceCtorEq, not_false_eq_true, true_and]
    constructor
    · rintro ⟨same, rfl⟩
      exact ⟨rfl, same⟩
    · rintro ⟨rfl, same⟩
      exact ⟨same, rfl⟩

theorem Colouring.colour_of_get? {colouring : Colouring} {id : FragmentId} {colour : Nat}
    (painted : colouring.colours.get? id = some colour) : colouring.colour id = colour := by
  simp [Colouring.colour, painted]

namespace Sweep

variable {maxConcurrency : Nat} {sweep : Sweep} {fragment : Fragment}

/-- How a fragment starts: it joins the colour of its inputs, or opens a new one when they have
none in common or theirs is full. -/
inductive Begins (maxConcurrency : Nat) (sweep : Sweep) (fragment : Fragment) : Sweep → Prop where
  | joins {colour : Nat} (shared : sweep.colouring.shared? fragment.inputs.toList = some colour)
      (free : sweep.runningOf colour < maxConcurrency) :
      Begins maxConcurrency sweep fragment (sweep.join fragment colour)
  | opens (forced : ∀ colour, sweep.colouring.shared? fragment.inputs.toList = some colour →
      maxConcurrency ≤ sweep.runningOf colour) :
      Begins maxConcurrency sweep fragment (sweep.openColour fragment)

theorem begins_start (maxConcurrency : Nat) (sweep : Sweep) (fragment : Fragment) :
    sweep.Begins maxConcurrency fragment (sweep.start maxConcurrency fragment) := by
  unfold start
  split
  case h_1 colour shared =>
    split
    case isTrue free => exact .joins shared free
    case isFalse full =>
      refine .opens fun other same => ?_
      cases shared.symm.trans same
      exact Nat.le_of_not_lt full
  case h_2 none => exact .opens fun colour shared => by cases none.symm.trans shared

/-- Other fragments keep their colours. -/
theorem get?_start (maxConcurrency : Nat) (sweep : Sweep) (fragment : Fragment)
    {id : FragmentId} (differs : fragment.id ≠ id) :
    (sweep.start maxConcurrency fragment).colouring.colours.get? id =
      sweep.colouring.colours.get? id := by
  have begins := sweep.begins_start maxConcurrency fragment
  generalize sweep.start maxConcurrency fragment = after at begins ⊢
  cases begins with
  | joins =>
    rw [join, Colouring.colours_foldl_addTail]
    exact (SortedMap.get?_insert _ _ _ _).trans (if_neg differs)
  | opens => exact (SortedMap.get?_insert _ _ _ _).trans (if_neg differs)

/-- The colour of one fragment is set. -/
structure Paints (sweep : Sweep) (id : FragmentId) (colour : Nat) (after : Sweep) : Prop where
  get?_eq : ∀ other, after.colouring.colours.get? other =
    if id = other then some colour else sweep.colouring.colours.get? other
  runningOf_eq : ∀ other, after.runningOf other =
    sweep.runningOf other + if colour = other then 1 else 0

theorem paints_join (sweep : Sweep) (fragment : Fragment) (colour : Nat) :
    sweep.Paints fragment.id colour (sweep.join fragment colour) where
  get?_eq other := by
    rw [join, Colouring.colours_foldl_addTail]
    exact SortedMap.get?_insert _ _ _ _
  runningOf_eq other := by
    rw [runningOf, join, SortedMap.get?_insert]
    split
    case isTrue same =>
      subst same
      rfl
    case isFalse => rfl

/-- A colour that is new counts nothing before. -/
theorem paints_openColour (fragment : Fragment) (new : sweep.runningOf (sweep.opened + 1) = 0) :
    sweep.Paints fragment.id (sweep.opened + 1) (sweep.openColour fragment) where
  get?_eq other := SortedMap.get?_insert _ _ _ _
  runningOf_eq other := by
    rw [runningOf, openColour, SortedMap.get?_insert]
    split
    case isTrue same =>
      subst same
      rw [new]
      rfl
    case isFalse => rfl

theorem runningOf_finish (sweep : Sweep) (fragment : Fragment) (colour : Nat) :
    (sweep.finish fragment).runningOf colour =
      sweep.runningOf colour - if sweep.colouring.colour fragment.id = colour then 1 else 0 := by
  rw [runningOf, finish, SortedMap.get?_insert]
  split
  case isTrue same =>
    subst same
    rfl
  case isFalse => rfl

theorem after_concat (maxConcurrency : Nat) (events : List Event) (event : Event) :
    after maxConcurrency (events ++ [event]) =
      event.handle maxConcurrency (after maxConcurrency events) := by
  rw [after, List.foldl_append]
  rfl

/-! ## What is counted -/

/-- How many of some fragments have a colour. -/
def countOf (sweep : Sweep) (colour : Nat) (fragments : List Fragment) : Nat :=
  fragments.countP fun fragment => decide (sweep.colouring.colour fragment.id = colour)

/-- The state of the sweep agrees with the events so far. -/
structure Tallied (limit : Nat) (events : List Event) (sweep : Sweep) : Prop where
  /-- The fragments that have started have colours. -/
  coloured_iff : ∀ id, (∃ colour, sweep.colouring.colours.get? id = some colour) ↔
    ∃ fragment, Event.starting fragment ∈ events ∧ fragment.id = id
  /-- The colours are those that have been opened. -/
  palette : ∀ id colour, sweep.colouring.colours.get? id = some colour →
    1 ≤ colour ∧ colour ≤ sweep.opened
  /-- What runs is counted. -/
  runningOf_eq : ∀ colour, sweep.runningOf colour = sweep.countOf colour (Event.running events)
  /-- No count exceeds the limit. -/
  runningOf_le : ∀ colour, sweep.runningOf colour ≤ limit

variable {events early late : List Event} {after : Sweep} {running : List Fragment}
  {colour other : Nat} {id : FragmentId}

/-- Setting the colour of a fragment that is new counts this fragment. -/
theorem Paints.countOf_eq (paints : sweep.Paints fragment.id colour after)
    (new : ∀ other ∈ running, other.id ≠ fragment.id) (other : Nat) :
    after.countOf other (running ++ [fragment]) =
      sweep.countOf other running + if colour = other then 1 else 0 := by
  have own : after.colouring.colour fragment.id = colour :=
    Colouring.colour_of_get? ((paints.get?_eq _).trans (if_pos rfl))
  have elsewhere : ∀ other ∈ running, after.colouring.colour other.id =
      sweep.colouring.colour other.id := by
    intro other member
    rw [Colouring.colour, paints.get?_eq, if_neg (new other member).symm, Colouring.colour]
  unfold countOf
  rw [List.countP_append, List.countP_singleton, own]
  congr 1
  · refine List.countP_congr fun other member => ?_
    rw [elsewhere other member]
  · simp only [decide_eq_true_eq]

/-- Taking out a fragment that runs counts one less of its colour. -/
theorem countOf_erase (sweep : Sweep) (member : fragment ∈ running) (colour : Nat) :
    sweep.countOf colour (running.erase fragment) =
      sweep.countOf colour running -
        if sweep.colouring.colour fragment.id = colour then 1 else 0 := by
  have split := (List.perm_cons_erase member).countP_eq
    fun fragment => decide (sweep.colouring.colour fragment.id = colour)
  rw [List.countP_cons] at split
  simp only [decide_eq_true_eq] at split
  unfold countOf
  omega

namespace Tallied

theorem empty (limit : Nat) : Tallied limit [] {} where
  coloured_iff id := by
    constructor
    · rintro ⟨colour, painted⟩
      cases painted
    · rintro ⟨fragment, started, _⟩
      cases started
  palette _ _ painted := by cases painted
  runningOf_eq _ := rfl
  runningOf_le _ := Nat.zero_le _

variable {limit : Nat} (tallied : Tallied limit early sweep)
include tallied

theorem colour_le (id : FragmentId) : sweep.colouring.colour id ≤ sweep.opened := by
  unfold Colouring.colour
  cases painted : sweep.colouring.colours.get? id with
  | none => exact Nat.zero_le _
  | some colour => exact (tallied.palette id colour painted).2

/-- What has started has a colour. -/
theorem exists_colour (started : Event.starting fragment ∈ early) :
    ∃ colour, sweep.colouring.colours.get? fragment.id = some colour :=
  (tallied.coloured_iff _).mpr ⟨fragment, started, rfl⟩

/-- Nothing of a colour runs that has not been opened. -/
theorem runningOf_new : sweep.runningOf (sweep.opened + 1) = 0 := by
  rw [tallied.runningOf_eq, countOf, List.countP_eq_zero]
  intro fragment _ same
  have colour_le := tallied.colour_le fragment.id
  rw [of_decide_eq_true same] at colour_le
  exact Nat.lt_irrefl _ colour_le

/-- **A fragment that finishes has a colour, and is counted.** -/
theorem of_finishing (ordered : Event.Ordered (early ++ .finishing fragment :: late)) :
    ∃ colour, sweep.colouring.colours.get? fragment.id = some colour ∧
      0 < sweep.runningOf colour := by
  have started := ordered.started early fragment late rfl
  obtain ⟨colour, painted⟩ := tallied.exists_colour started
  refine ⟨colour, painted, ?_⟩
  rw [tallied.runningOf_eq, countOf, List.countP_pos_iff]
  refine ⟨fragment, (ordered.running.2 fragment).mpr ⟨started, ordered.new⟩, ?_⟩
  exact decide_eq_true (Colouring.colour_of_get? painted)

/-- **The inputs of a fragment that starts have colours.** -/
theorem of_starting (ordered : Event.Ordered (early ++ .starting fragment :: late))
    (input : id ∈ fragment.inputs) :
    ∃ colour, sweep.colouring.colours.get? id = some colour := by
  obtain ⟨other, finished, rfl⟩ := ordered.fed early fragment late rfl id input
  exact tallied.exists_colour (ordered.started_of_finished finished)

/-- A fragment finishes. -/
theorem finish (ordered : Event.Ordered (early ++ .finishing fragment :: late)) :
    Tallied limit (early ++ [.finishing fragment]) (sweep.finish fragment) where
  coloured_iff id := by
    refine (tallied.coloured_iff id).trans ?_
    simp
  palette := tallied.palette
  runningOf_eq colour := by
    have running : fragment ∈ Event.running early := (ordered.running.2 fragment).mpr
      ⟨ordered.started early fragment late rfl, ordered.new⟩
    rw [runningOf_finish, tallied.runningOf_eq, Event.running_concat, Event.track]
    exact (sweep.countOf_erase running colour).symm
  runningOf_le colour := by
    rw [runningOf_finish]
    exact Nat.le_trans (Nat.sub_le _ _) (tallied.runningOf_le colour)

/-- A fragment gets a colour that is not full. -/
theorem paint (ordered : Event.Ordered (early ++ .starting fragment :: late))
    (paints : sweep.Paints fragment.id colour after) (used : 1 ≤ colour ∧ colour ≤ after.opened)
    (opened : sweep.opened ≤ after.opened) (free : sweep.runningOf colour < limit) :
    Tallied limit (early ++ [.starting fragment]) after where
  coloured_iff id := by
    simp only [paints.get?_eq, List.mem_append, List.mem_singleton, Event.starting.injEq]
    split
    case isTrue same => exact iff_of_true ⟨colour, rfl⟩ ⟨fragment, .inr rfl, same⟩
    case isFalse differs =>
      rw [tallied.coloured_iff]
      refine exists_congr fun other => and_congr_left fun same => ?_
      refine (or_iff_left fun equal => ?_).symm
      exact differs (equal ▸ same)
  palette id other painted := by
    rw [paints.get?_eq] at painted
    split at painted
    case isTrue =>
      cases painted
      exact used
    case isFalse =>
      obtain ⟨least, greatest⟩ := tallied.palette id other painted
      exact ⟨least, Nat.le_trans greatest opened⟩
  runningOf_eq other := by
    have new : ∀ runs ∈ Event.running early, runs.id ≠ fragment.id := fun runs member =>
      ordered.id_ne_of_started ((ordered.running.2 runs).mp member).1
    rw [Event.running_concat, Event.track, paints.countOf_eq new, paints.runningOf_eq,
      tallied.runningOf_eq]
  runningOf_le other := by
    rw [paints.runningOf_eq]
    have runningOf_le := tallied.runningOf_le other
    split
    case isTrue same =>
      subst same
      exact free
    case isFalse => exact runningOf_le

/-- A fragment starts. The limit may be above the concurrency: a colour that is new counts one even
if the concurrency is zero. -/
theorem start (positive : 0 < limit) (within : maxConcurrency ≤ limit)
    (ordered : Event.Ordered (early ++ .starting fragment :: late)) :
    Tallied limit (early ++ [.starting fragment]) (sweep.start maxConcurrency fragment) := by
  have begins := sweep.begins_start maxConcurrency fragment
  generalize sweep.start maxConcurrency fragment = after at begins ⊢
  cases begins with
  | @joins colour shared free =>
    obtain ⟨consumes, same⟩ := Colouring.shared?_eq_some_iff.mp shared
    obtain ⟨first, input⟩ := List.exists_mem_of_ne_nil _ consumes
    obtain ⟨own, painted⟩ := tallied.of_starting ordered input
    have equal : own = colour := (Colouring.colour_of_get? painted).symm.trans (same first input)
    exact tallied.paint ordered (sweep.paints_join fragment colour)
      (equal ▸ tallied.palette first own painted) (Nat.le_refl _) (Nat.lt_of_lt_of_le free within)
  | opens forced =>
    have new := tallied.runningOf_new
    refine tallied.paint ordered (paints_openColour fragment new)
      ⟨Nat.le_add_left _ _, Nat.le_refl _⟩ (Nat.le_succ _) ?_
    rw [new]
    exact positive

end Tallied

/-- **The state of the sweep agrees with the events so far, at any of them.** -/
theorem tallied_within {limit : Nat} (positive : 0 < limit) (within : maxConcurrency ≤ limit)
    (ordered : Event.Ordered (early ++ late)) :
    Tallied limit early (Sweep.after maxConcurrency early) := by
  refine ordered.induction_on
    (motive := fun early => Tallied limit early (Sweep.after maxConcurrency early))
    (.empty limit) (fun ordered tallied => ?_) fun ordered tallied => ?_
  · rw [after_concat]
    exact tallied.finish ordered
  · rw [after_concat]
    exact tallied.start positive within ordered

theorem tallied_after (positive : 0 < maxConcurrency) (ordered : Event.Ordered (early ++ late)) :
    Tallied maxConcurrency early (Sweep.after maxConcurrency early) :=
  tallied_within positive (Nat.le_refl _) ordered

/-- A colour once given stays. -/
theorem get?_after (positive : 0 < maxConcurrency) (ordered : Event.Ordered (early ++ late))
    (painted : (Sweep.after maxConcurrency early).colouring.colours.get? id = some colour) :
    (Sweep.after maxConcurrency (early ++ late)).colouring.colours.get? id = some colour := by
  induction late generalizing early with
  | nil => rwa [List.append_nil]
  | cons event late ih =>
    have tallied := tallied_after positive ordered
    have original := ordered
    rw [List.append_cons] at ordered ⊢
    refine ih ordered ?_
    rw [after_concat]
    cases event with
    | finishing fragment => exact painted
    | starting fragment =>
      obtain ⟨other, started, rfl⟩ := (tallied.coloured_iff id).mp ⟨colour, painted⟩
      exact (get?_start _ _ _ (original.id_ne_of_started started).symm).trans painted

end Sweep

end ValueEngine
