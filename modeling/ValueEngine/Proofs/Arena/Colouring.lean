import ValueEngine.Proofs.Arena.Timing
import ValueEngine.Proofs.Fragment.Running

/-!
# Colouring in place

The sweep over an arena meets the events of the layout that it holds (`Arena.handle`). Its list of
counts has one place for each colour that has been opened and one more for fragments without a
colour (`Arena.Palette.Matches`). A fragment that finishes has been counted, and the inputs of one
that starts have colours that have been opened, so every count that is looked up is there and none
is lowered below zero. This does not depend on the concurrency, which may be zero.
-/

set_option autoImplicit false

namespace ValueEngine

/-- The counts of a palette are those of the sweep. -/
structure Arena.Palette.Matches (palette : Arena.Palette) (sweep : Sweep) : Prop where
  colouring_eq : palette.colouring = sweep.colouring
  /-- There is a place for each colour, and one more. -/
  length_eq : palette.running.length = sweep.opened + 1
  running_eq : ∀ colour ≤ sweep.opened, palette.running[colour]? = some (sweep.runningOf colour)

namespace Arena

/-- What the sweep over an arena does about an event. -/
def handle (arena : Arena) (maxConcurrency : Nat) (palette : Palette) : Event → Option Palette
  | .finishing fragment => arena.finish palette fragment.id
  | .starting fragment => arena.start maxConcurrency palette fragment.id

variable {arena : Arena} {layout : Layout} {maxConcurrency limit : Nat} {palette : Palette}
  {sweep : Sweep} {early late : List Event} {fragment : Fragment}

/-! ## Single events -/

/-- A fragment becomes a tail of others that are there. -/
theorem foldlM_addTail (tail : FragmentId) {ids : List FragmentId}
    (present : ∀ id ∈ ids, ∃ fragment, arena.fragment? id = some fragment) (palette : Palette) :
    ids.foldlM (arena.addTail tail) palette =
      some { palette with
        colouring := ids.foldl (Colouring.addTail tail) palette.colouring } := by
  induction ids generalizing palette with
  | nil => rfl
  | cons id rest ih =>
    obtain ⟨⟨fragment, found⟩, others⟩ := List.forall_mem_cons.mp present
    rw [List.foldlM_cons, Arena.addTail, found]
    exact ih others _

/-- A fragment finishes: it has been counted. -/
theorem Palette.Matches.finish (agrees : palette.Matches sweep)
    (found : arena.fragment? fragment.id = some fragment)
    (tallied : Sweep.Tallied limit early sweep)
    (ordered : Event.Ordered (early ++ .finishing fragment :: late)) :
    ∃ later, arena.finish palette fragment.id = some later ∧
      later.Matches (sweep.finish fragment) := by
  obtain ⟨own, painted, counted⟩ := tallied.of_finishing ordered
  have own_eq : palette.colouring.colour fragment.id = own := by
    rw [agrees.colouring_eq]
    exact Colouring.colour_of_get? painted
  have opened : own ≤ sweep.opened := (tallied.palette _ _ painted).2
  have count := agrees.running_eq own opened
  refine ⟨{ palette with running := palette.running.set own (sweep.runningOf own - 1) }, ?_,
    agrees.colouring_eq, List.length_set.trans agrees.length_eq, fun colour below => ?_⟩
  · rw [Arena.finish, Arena.colour, found]
    simp only [Option.bind_eq_bind, Option.bind_some, Option.pure_def, own_eq, count]
    exact if_neg (Nat.ne_of_gt counted)
  · rw [Sweep.runningOf_finish, ← agrees.colouring_eq, own_eq, List.getElem?_set]
    split
    case isTrue same =>
      subst same
      rw [if_pos (agrees.length_eq ▸ Nat.lt_succ_of_le opened)]
    case isFalse => exact agrees.running_eq colour below

/-- A fragment starts in a colour that some of its inputs have. -/
theorem Palette.Matches.join (agrees : palette.Matches sweep)
    (found : arena.fragment? fragment.id = some fragment)
    (present : ∀ id ∈ fragment.inputs, ∃ input, arena.fragment? id = some input)
    {colour : Nat} (opened : colour ≤ sweep.opened) :
    ∃ later, (do
        let painted ← arena.paint palette fragment.id colour
        fragment.inputs.toList.foldlM (arena.addTail fragment.id)
          { painted with running := painted.running.set colour (sweep.runningOf colour + 1) }) =
        some later ∧
      later.Matches (sweep.join fragment colour) := by
  let painted : Palette :=
    { colouring := palette.colouring.paint fragment.id colour
      running := palette.running.set colour (sweep.runningOf colour + 1) }
  refine ⟨{ painted with
    colouring := fragment.inputs.toList.foldl (Colouring.addTail fragment.id) painted.colouring },
    ?_, ?_⟩
  · rw [Arena.paint, found]
    exact foldlM_addTail fragment.id present painted
  · refine ⟨?_, List.length_set.trans agrees.length_eq, fun other below => ?_⟩
    · rw [Sweep.join, ← agrees.colouring_eq]
    · rw [(sweep.paints_join fragment colour).runningOf_eq, List.getElem?_set]
      split
      case isTrue same =>
        subst same
        rw [if_pos (agrees.length_eq ▸ Nat.lt_succ_of_le opened)]
      case isFalse => exact agrees.running_eq other below

/-- A fragment starts in a colour of its own. -/
theorem Palette.Matches.openColour (agrees : palette.Matches sweep)
    (found : arena.fragment? fragment.id = some fragment) :
    ∃ later, arena.openColour palette fragment.id = some later ∧
      later.Matches (sweep.openColour fragment) := by
  refine ⟨_, by rw [Arena.openColour, Arena.paint, found]; rfl, ?_, ?_, fun colour below => ?_⟩
  · rw [Sweep.openColour, agrees.colouring_eq, agrees.length_eq]
  · rw [List.length_append, agrees.length_eq]
    rfl
  · rw [Sweep.runningOf, Sweep.openColour, SortedMap.get?_insert]
    split
    case isTrue same =>
      rw [← same, ← agrees.length_eq]
      exact List.getElem?_concat_length
    case isFalse differs =>
      have inside : colour ≤ sweep.opened := by
        have bound : colour ≤ sweep.opened + 1 := below
        omega
      rw [List.getElem?_append_left (agrees.length_eq ▸ Nat.lt_succ_of_le inside)]
      exact agrees.running_eq colour inside

/-- A fragment starts. -/
theorem Palette.Matches.start (agrees : palette.Matches sweep)
    (found : arena.fragment? fragment.id = some fragment)
    (present : ∀ id ∈ fragment.inputs, ∃ input, arena.fragment? id = some input)
    (tallied : Sweep.Tallied limit early sweep) :
    ∃ later, arena.start maxConcurrency palette fragment.id = some later ∧
      later.Matches (sweep.start maxConcurrency fragment) := by
  have looked : arena.sharedColour palette fragment.inputs.toList =
      some (sweep.colouring.shared? fragment.inputs.toList) := by
    have each : fragment.inputs.toList.mapM arena.fragment? =
        some (fragment.inputs.toList.map fun id => (arena.fragment? id).getD default) := by
      refine mapM_eq_some_map fun id input => ?_
      obtain ⟨other, here⟩ := present id input
      rw [here, Option.getD_some]
    rw [Arena.sharedColour, each, agrees.colouring_eq]
    rfl
  rw [Arena.start, found]
  simp only [Option.bind_eq_bind, Option.bind_some, looked, Sweep.start]
  cases shared : sweep.colouring.shared? fragment.inputs.toList with
  | none => exact agrees.openColour found
  | some colour =>
    have opened : colour ≤ sweep.opened := by
      obtain ⟨consumes, same⟩ := Colouring.shared?_eq_some_iff.mp shared
      obtain ⟨first, input⟩ := List.exists_mem_of_ne_nil _ consumes
      exact same first input ▸ tallied.colour_le first
    simp only [agrees.running_eq colour opened, Option.bind_some]
    split
    · exact agrees.join found present opened
    · exact agrees.openColour found

/-! ## The sweep -/

theorem foldlM_flatMap {σ α β : Type} {step : σ → β → Option σ} {spread : α → List β}
    {list : List α} {start : σ} :
    (list.flatMap spread).foldlM step start =
      list.foldlM (fun state element => (spread element).foldlM step state) start := by
  induction list generalizing start with
  | nil => rfl
  | cons first rest ih =>
    rw [List.flatMap_cons, List.foldlM_append, List.foldlM_cons]
    exact congrArg _ (funext fun state => ih)

variable (holds : arena.Holds layout) (stratified : layout.Stratified)
include holds stratified

/-- Every event is handled, and the counts stay those of the sweep. -/
theorem Holds.exists_handled (maxConcurrency : Nat) :
    ∃ palette, layout.events.foldlM (arena.handle maxConcurrency) {} = some palette ∧
      palette.Matches (Sweep.after maxConcurrency layout.events) := by
  refine exists_foldlM
    (fun done (palette : Palette) => palette.Matches (Sweep.after maxConcurrency done))
    ⟨rfl, rfl, fun colour below => ?_⟩ fun done next rest palette split agrees => ?_
  · rw [Nat.le_zero.mp below]
    rfl
  · have ordered := split ▸ stratified.ordered
    have tallied : Sweep.Tallied (max maxConcurrency 1) done (Sweep.after maxConcurrency done) :=
      Sweep.tallied_within (Nat.lt_of_lt_of_le Nat.zero_lt_one (Nat.le_max_right _ _))
        (Nat.le_max_left _ _) ordered
    have inside : next ∈ layout.events := by simp [split]
    rw [Sweep.after_concat]
    cases next with
    | finishing fragment =>
      have member := stratified.finishing_mem_events.mp inside
      exact agrees.finish (holds.find (Layout.mem_all_of_mem member)) tallied ordered
    | starting fragment =>
      have member := stratified.starting_mem_events.mp inside
      refine agrees.start (holds.find (Layout.mem_all_of_mem member)) (fun id input => ?_) tallied
      obtain ⟨other, otherMember, rfl⟩ :=
        Layout.mem_ids_iff.mp (stratified.inputs_mem fragment member id input)
      exact ⟨other, holds.find (Layout.mem_all_of_mem otherMember)⟩

omit holds in
theorem mem_instants_iff {time : Nat} :
    time ∈ layout.schedule.instants ↔ ∃ fragment ∈ layout.fragments,
      time = layout.schedule.start fragment.id ∨ time = layout.schedule.finish fragment.id := by
  constructor
  · intro listed
    simp only [Schedule.instants, SortedSet.mem_toList, SortedSet.mem_ofList, List.mem_flatMap,
      List.mem_pair] at listed
    obtain ⟨span, value, own⟩ := listed
    obtain ⟨⟨id, _⟩, entry, rfl⟩ := List.mem_map.mp value
    have timed := SortedMap.get?_eq_some_iff.mpr entry
    obtain ⟨fragment, member, rfl⟩ := stratified.exists_of_get?_schedule timed
    refine ⟨fragment, member, ?_⟩
    rwa [Schedule.start_of_get? timed, Schedule.finish_of_get? timed]
  · rintro ⟨fragment, member, rfl | rfl⟩
    · exact (stratified.mem_instants member).1
    · exact (stratified.mem_instants member).2

/-- **The colours found in place are those of the layout.** -/
theorem Holds.assign (awaited : ∀ id ∈ layout.terminals, id ∈ layout.ids) (maxConcurrency : Nat) :
    arena.assign maxConcurrency = some (layout.colouring maxConcurrency) := by
  let spans := layout.fragments.map fun fragment => (fragment.id,
    (⟨layout.schedule.start fragment.id, layout.schedule.finish fragment.id⟩ : Span))
  have instants_eq : SortedSet.toList
      (SortedSet.ofList (spans.flatMap fun entry => [entry.2.start, entry.2.finish])) =
        layout.schedule.instants := by
    refine congrArg SortedSet.toList (SortedSet.ext_mem fun time => ?_)
    refine Iff.trans ?_ (mem_instants_iff stratified).symm
    simp [spans]
  have instant_eq : arena.instant maxConcurrency spans =
      fun palette time => (layout.eventsAt time).foldlM (arena.handle maxConcurrency) palette := by
    funext palette time
    simp only [Arena.instant, Layout.eventsAt, spans, List.foldlM_append, List.filter_map,
      List.map_map, List.foldlM_map]
    rfl
  obtain ⟨palette, handled, agrees⟩ := holds.exists_handled stratified maxConcurrency
  rw [Layout.events, foldlM_flatMap, ← instant_eq] at handled
  have spans_eq : arena.spans = some spans := holds.spans stratified awaited
  simp only [Arena.assign, spans_eq, Option.bind_eq_bind, Option.bind_some, instants_eq, handled]
  rw [Layout.colouring_eq, ← agrees.colouring_eq]
  rfl

end Arena

end ValueEngine
