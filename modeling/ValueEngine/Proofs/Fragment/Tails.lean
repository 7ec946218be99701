import ValueEngine.Proofs.Fragment.Running

/-!
# What the sweep records of tails

A fragment that starts in the colour of its inputs is made a tail of each of them, and any other one
opens a colour that no input has. So the tails of a fragment are those that consume it and have its
colour, and a fragment that has the colour of one input has the colour of all
(`Sweep.Trailed`). A colour is opened once, by a fragment that is a tail of nothing, and joined by
tails only (`Sweep.Led`).

Both are kept by each event: the fragment that starts is new, so it changes neither the colours of
those that have started nor those of their inputs, which have started before (`Paints.follows_iff`).
-/

set_option autoImplicit false

namespace ValueEngine

/-! ## Tails of a colouring -/

namespace Colouring

/-- A fragment consumes another one of the same colour. -/
def Follows (colouring : Colouring) (fragment : Fragment) (id : FragmentId) : Prop :=
  id ∈ fragment.inputs ∧ colouring.colour fragment.id = colouring.colour id

theorem tailsOf_addTail (tail : FragmentId) (colouring : Colouring) (id other : FragmentId) :
    (addTail tail colouring id).tailsOf other =
      colouring.tailsOf other ++ if id = other then [tail] else [] := by
  rw [tailsOf, addTail, SortedMap.get?_insert]
  split
  case isTrue same => rw [same, Option.getD_some]
  case isFalse => exact (List.append_nil _).symm

/-- Each of some fragments gets the tail once. -/
theorem tailsOf_foldl_addTail (tail : FragmentId) (colouring : Colouring) {ids : List FragmentId}
    (nodup : ids.Nodup) (id : FragmentId) :
    (ids.foldl (addTail tail) colouring).tailsOf id =
      colouring.tailsOf id ++ if id ∈ ids then [tail] else [] := by
  induction ids generalizing colouring with
  | nil => exact (List.append_nil _).symm
  | cons first rest ih =>
    obtain ⟨new, nodup⟩ := List.nodup_cons.mp nodup
    rw [List.foldl_cons, ih _ nodup, tailsOf_addTail, List.append_assoc]
    congr 1
    by_cases same : first = id
    · subst same
      simp [new]
    · simp [same, Ne.symm same]

end Colouring

/-! ## What has started -/

namespace Event

variable {early late : List Event} {fragment other : Fragment} {id : FragmentId}

/-- The inputs of what has started have started. -/
theorem Ordered.input_started (ordered : Ordered (early ++ late))
    (started : starting fragment ∈ early) (input : id ∈ fragment.inputs) :
    ∃ other, starting other ∈ early ∧ other.id = id := by
  obtain ⟨first, second, rfl⟩ := List.append_of_mem started
  rw [List.append_assoc, List.cons_append] at ordered
  obtain ⟨other, finished, same⟩ := ordered.fed first fragment (second ++ late) rfl id input
  exact ⟨other, List.mem_append_left _ (ordered.started_of_finished finished), same⟩

/-- What starts is none of its inputs. -/
theorem Ordered.input_ne (ordered : Ordered (early ++ starting fragment :: late))
    (input : id ∈ fragment.inputs) : id ≠ fragment.id := by
  obtain ⟨other, finished, rfl⟩ := ordered.fed early fragment late rfl id input
  exact ordered.id_ne_of_started (ordered.started_of_finished finished)

end Event

namespace Sweep

variable {maxConcurrency limit colour : Nat} {sweep after : Sweep} {fragment other : Fragment}
  {early late events : List Event} {id : FragmentId}

theorem Paints.colour_eq (paints : sweep.Paints fragment.id colour after) (id : FragmentId) :
    after.colouring.colour id =
      if fragment.id = id then colour else sweep.colouring.colour id := by
  rw [Colouring.colour, paints.get?_eq]
  split <;> rfl

/-- What has started follows the same fragments as before. -/
theorem Paints.follows_iff (paints : sweep.Paints fragment.id colour after)
    (ordered : Event.Ordered (early ++ .starting fragment :: late))
    (started : .starting other ∈ early) :
    after.colouring.Follows other id ↔ sweep.colouring.Follows other id := by
  refine and_congr_right fun input => ?_
  obtain ⟨before, beforeStarted, rfl⟩ := ordered.input_started started input
  rw [paints.colour_eq, paints.colour_eq, if_neg (ordered.id_ne_of_started started).symm,
    if_neg (ordered.id_ne_of_started beforeStarted).symm]

/-- A fragment that joins the colour of its inputs follows them all. -/
theorem follows_join (ordered : Event.Ordered (early ++ .starting fragment :: late))
    (shared : sweep.colouring.shared? fragment.inputs.toList = some colour) :
    (sweep.join fragment colour).colouring.Follows fragment id ↔ id ∈ fragment.inputs := by
  refine and_iff_left_of_imp fun input => ?_
  have paints := sweep.paints_join fragment colour
  rw [paints.colour_eq, paints.colour_eq, if_pos rfl, if_neg (ordered.input_ne input).symm]
  exact ((Colouring.shared?_eq_some_iff.mp shared).2 id input).symm

/-- A fragment that opens a colour follows nothing. -/
theorem Tallied.not_follows_openColour (tallied : Tallied limit early sweep)
    (ordered : Event.Ordered (early ++ .starting fragment :: late)) :
    ¬ (sweep.openColour fragment).colouring.Follows fragment id := by
  rintro ⟨input, same⟩
  have paints := paints_openColour fragment tallied.runningOf_new
  rw [paints.colour_eq, paints.colour_eq, if_pos rfl, if_neg (ordered.input_ne input).symm] at same
  exact Nat.not_succ_le_self _ (same ▸ tallied.colour_le id)

/-! ## Tails -/

/-- The tails that the sweep has recorded. -/
structure Trailed (events : List Event) (sweep : Sweep) : Prop where
  /-- The tails of a fragment are those that follow it. -/
  mem_tailsOf_iff : ∀ id tail, tail ∈ sweep.colouring.tailsOf id ↔
    ∃ fragment, .starting fragment ∈ events ∧ fragment.id = tail ∧
      sweep.colouring.Follows fragment id
  /-- None is recorded twice. -/
  tailsOf_nodup : ∀ id, (sweep.colouring.tailsOf id).Nodup
  /-- What follows one of its inputs follows all of them. -/
  follows_all : ∀ fragment, .starting fragment ∈ events → ∀ id,
    sweep.colouring.Follows fragment id → ∀ other ∈ fragment.inputs,
      sweep.colouring.Follows fragment other

namespace Trailed

theorem empty : Trailed [] {} where
  mem_tailsOf_iff id tail := by
    refine iff_of_false (List.not_mem_nil) ?_
    rintro ⟨fragment, started, _⟩
    cases started
  tailsOf_nodup _ := List.nodup_nil
  follows_all _ started := by cases started

/-- Only what has started and the colours and tails matter. -/
theorem finish (trailed : Trailed early sweep) (fragment : Fragment) :
    Trailed (early ++ [.finishing fragment]) (sweep.finish fragment) where
  mem_tailsOf_iff id tail := by
    refine (trailed.mem_tailsOf_iff id tail).trans ?_
    simp [Sweep.finish]
  tailsOf_nodup := trailed.tailsOf_nodup
  follows_all other started := by
    refine trailed.follows_all other ?_
    simpa using started

/-- **A fragment that gets a colour is made a tail of what it follows.** -/
theorem paint (trailed : Trailed early sweep)
    (ordered : Event.Ordered (early ++ .starting fragment :: late))
    (paints : sweep.Paints fragment.id colour after)
    (gains : ∀ id, after.colouring.tailsOf id = sweep.colouring.tailsOf id ++ [fragment.id] ∧
        after.colouring.Follows fragment id ∨
      after.colouring.tailsOf id = sweep.colouring.tailsOf id ∧
        ¬ after.colouring.Follows fragment id)
    (all : ∀ id, after.colouring.Follows fragment id → ∀ other ∈ fragment.inputs,
      after.colouring.Follows fragment other) :
    Trailed (early ++ [.starting fragment]) after := by
  have started_iff : ∀ {other}, .starting other ∈ early ++ [.starting fragment] ↔
      .starting other ∈ early ∨ other = fragment := by
    simp
  have recorded : ∀ id tail, tail ∈ sweep.colouring.tailsOf id ↔
      ∃ other, .starting other ∈ early ∧ other.id = tail ∧
        after.colouring.Follows other id := by
    intro id tail
    rw [trailed.mem_tailsOf_iff]
    refine exists_congr fun other => and_congr_right fun started => and_congr_right fun _ => ?_
    exact (paints.follows_iff ordered started).symm
  have new : ∀ id, fragment.id ∉ sweep.colouring.tailsOf id := by
    intro id member
    obtain ⟨other, started, same, _⟩ := (recorded id _).mp member
    exact ordered.id_ne_of_started started same
  refine ⟨fun id tail => ?mem, fun id => ?nodup, fun other started => ?all⟩
  case mem =>
    simp only [started_iff, or_and_right, exists_or, exists_eq_left, ← recorded]
    rcases gains id with ⟨tails_eq, follows⟩ | ⟨tails_eq, apart⟩
    · rw [tails_eq, List.mem_append, List.mem_singleton, and_iff_left follows, eq_comm]
    · rw [tails_eq, or_iff_left fun own => apart own.2]
  case nodup =>
    rcases gains id with ⟨tails_eq, _⟩ | ⟨tails_eq, _⟩
    · rw [tails_eq]
      exact List.nodup_append_comm.mp (List.nodup_cons.mpr ⟨new id, trailed.tailsOf_nodup id⟩)
    · rw [tails_eq]
      exact trailed.tailsOf_nodup id
  case all =>
    rcases started_iff.mp started with before | rfl
    · simp only [paints.follows_iff ordered before]
      exact trailed.follows_all other before
    · exact all

/-- A fragment starts. -/
theorem start (trailed : Trailed early sweep) (tallied : Tallied limit early sweep)
    (ordered : Event.Ordered (early ++ .starting fragment :: late)) :
    Trailed (early ++ [.starting fragment]) (sweep.start maxConcurrency fragment) := by
  have begins := sweep.begins_start maxConcurrency fragment
  generalize sweep.start maxConcurrency fragment = after at begins ⊢
  cases begins with
  | @joins colour shared =>
    have follows_iff : ∀ {id}, (sweep.join fragment colour).colouring.Follows fragment id ↔
        id ∈ fragment.inputs := follows_join ordered shared
    refine trailed.paint ordered (sweep.paints_join fragment colour) (fun id => ?_)
      fun _ _ other input => follows_iff.mpr input
    have tails_eq : (sweep.join fragment colour).colouring.tailsOf id =
        sweep.colouring.tailsOf id ++ if id ∈ fragment.inputs then [fragment.id] else [] :=
      Colouring.tailsOf_foldl_addTail fragment.id _ fragment.inputs.nodup id
    by_cases input : id ∈ fragment.inputs
    · rw [if_pos input] at tails_eq
      exact .inl ⟨tails_eq, follows_iff.mpr input⟩
    · rw [if_neg input, List.append_nil] at tails_eq
      exact .inr ⟨tails_eq, fun follows => input follows.1⟩
  | opens =>
    have apart : ∀ {id}, ¬ (sweep.openColour fragment).colouring.Follows fragment id :=
      tallied.not_follows_openColour ordered
    exact trailed.paint ordered (paints_openColour fragment tallied.runningOf_new)
      (fun id => .inr ⟨rfl, apart⟩) fun _ follows => absurd follows apart

end Trailed

/-! ## Who opens a colour -/

/-- A fragment has opened a colour: it has the colour and follows nothing. -/
structure Opener (events : List Event) (sweep : Sweep) (colour : Nat) (fragment : Fragment) :
    Prop where
  started : .starting fragment ∈ events
  colour_eq : sweep.colouring.colour fragment.id = colour
  leads : ∀ id, ¬ sweep.colouring.Follows fragment id

/-- Each colour has been opened once. -/
def Led (events : List Event) (sweep : Sweep) : Prop :=
  ∀ colour, 1 ≤ colour → colour ≤ sweep.opened → ∃! fragment, sweep.Opener events colour fragment

/-- What had opened a colour before has opened it still. -/
theorem Paints.opener_iff (paints : sweep.Paints fragment.id colour after)
    (ordered : Event.Ordered (early ++ .starting fragment :: late))
    (begun : .starting other ∈ early) (of : Nat) :
    after.Opener (early ++ [.starting fragment]) of other ↔ sweep.Opener early of other := by
  have colour_eq : after.colouring.colour other.id = sweep.colouring.colour other.id := by
    rw [paints.colour_eq, if_neg (ordered.id_ne_of_started begun).symm]
  constructor
  · rintro ⟨_, own, leads⟩
    refine ⟨begun, colour_eq ▸ own, fun id follows => leads id ?_⟩
    exact (paints.follows_iff ordered begun).mpr follows
  · rintro ⟨_, own, leads⟩
    refine ⟨List.mem_append_left _ begun, colour_eq.trans own, fun id follows => leads id ?_⟩
    exact (paints.follows_iff ordered begun).mp follows

/-- Another colour keeps its opener. -/
theorem Paints.existsUnique_opener (paints : sweep.Paints fragment.id colour after)
    (ordered : Event.Ordered (early ++ .starting fragment :: late)) {of : Nat}
    (other : ¬ after.Opener (early ++ [.starting fragment]) of fragment) :
    (∃! opener, after.Opener (early ++ [.starting fragment]) of opener) ↔
      ∃! opener, sweep.Opener early of opener := by
  refine existsUnique_congr fun opener => ?_
  by_cases begun : .starting opener ∈ early
  · exact paints.opener_iff ordered begun of
  · refine iff_of_false (fun opens => ?_) fun opens => begun opens.started
    rcases List.mem_append.mp opens.started with before | now
    · exact begun before
    · cases List.mem_singleton.mp now
      exact other opens

namespace Led

theorem empty : Led [] {} :=
  fun _ least greatest => absurd (Nat.le_trans least greatest) (by decide)

theorem finish (led : Led early sweep) (fragment : Fragment) :
    Led (early ++ [.finishing fragment]) (sweep.finish fragment) := by
  intro colour least greatest
  refine (existsUnique_congr fun opener => ?_).mp (led colour least greatest)
  constructor
  · exact fun opens => ⟨List.mem_append_left _ opens.started, opens.colour_eq, opens.leads⟩
  · refine fun opens => ⟨?_, opens.colour_eq, opens.leads⟩
    simpa using opens.started

/-- **A fragment that starts opens a colour that is new, or opens none.** -/
theorem start (led : Led early sweep) (tallied : Tallied limit early sweep)
    (ordered : Event.Ordered (early ++ .starting fragment :: late)) :
    Led (early ++ [.starting fragment]) (sweep.start maxConcurrency fragment) := by
  have begins := sweep.begins_start maxConcurrency fragment
  generalize sweep.start maxConcurrency fragment = after at begins ⊢
  intro of least greatest
  cases begins with
  | @joins colour shared =>
    refine ((sweep.paints_join fragment colour).existsUnique_opener ordered fun opens => ?_).mpr
      (led of least greatest)
    obtain ⟨id, input⟩ :=
      List.exists_mem_of_ne_nil _ (Colouring.shared?_eq_some_iff.mp shared).1
    exact opens.leads id ((follows_join ordered shared).mpr input)
  | opens =>
    have paints := paints_openColour fragment tallied.runningOf_new
    have own : (sweep.openColour fragment).colouring.colour fragment.id = sweep.opened + 1 := by
      rw [paints.colour_eq, if_pos rfl]
    rcases Nat.le_succ_iff.mp greatest with before | rfl
    · refine (paints.existsUnique_opener ordered fun opens => ?_).mpr (led of least before)
      exact Nat.not_succ_le_self _ (own ▸ opens.colour_eq ▸ before)
    · refine ⟨fragment, ⟨by simp, own, fun _ => tallied.not_follows_openColour ordered⟩, ?_⟩
      intro other opens
      rcases List.mem_append.mp opens.started with begun | now
      · -- What has started before has a colour that was open before.
        have colour_le := tallied.colour_le other.id
        rw [((paints.opener_iff ordered begun _).mp opens).colour_eq] at colour_le
        exact absurd colour_le (Nat.not_succ_le_self _)
      · exact Event.starting.inj (List.mem_singleton.mp now)

end Led

/-! ## The whole sweep -/

/-- **After any of the events the tails and the openers are as they should be.** -/
theorem trailed_after (positive : 0 < maxConcurrency) (ordered : Event.Ordered (early ++ late)) :
    Trailed early (Sweep.after maxConcurrency early) ∧
      Led early (Sweep.after maxConcurrency early) := by
  refine ordered.induction_on (motive := fun early =>
    Trailed early (Sweep.after maxConcurrency early) ∧ Led early (Sweep.after maxConcurrency early))
    ⟨.empty, .empty⟩ ?finish ?start
  case finish =>
    rintro early fragment late _ ⟨trailed, led⟩
    rw [after_concat]
    exact ⟨trailed.finish fragment, led.finish fragment⟩
  case start =>
    rintro early fragment late ordered ⟨trailed, led⟩
    have tallied := tallied_after positive ordered
    rw [after_concat]
    exact ⟨trailed.start tallied ordered, led.start tallied ordered⟩

/-- The colour that a fragment has once it has started is the one that it has in the end. -/
theorem colour_after (positive : 0 < maxConcurrency) (ordered : Event.Ordered (early ++ late))
    (started : .starting fragment ∈ early) :
    (Sweep.after maxConcurrency (early ++ late)).colouring.colour fragment.id =
      (Sweep.after maxConcurrency early).colouring.colour fragment.id := by
  obtain ⟨colour, painted⟩ := (tallied_after positive ordered).exists_colour started
  rw [Colouring.colour_of_get? painted]
  exact Colouring.colour_of_get? (get?_after positive ordered painted)

/-- **A fragment that does not take the colour of its inputs starts while this is full.** -/
theorem full_of_colour_ne (positive : 0 < maxConcurrency)
    (ordered : Event.Ordered (early ++ .starting fragment :: late))
    (consumes : fragment.inputs.toList ≠ [])
    (shared : ∀ id ∈ fragment.inputs,
      (Sweep.after maxConcurrency early).colouring.colour id = colour)
    (differs : ((Sweep.after maxConcurrency early).start maxConcurrency fragment).colouring.colour
      fragment.id ≠ colour) :
    maxConcurrency ≤ (Sweep.after maxConcurrency early).runningOf colour := by
  have tallied := tallied_after positive ordered
  have begins := (Sweep.after maxConcurrency early).begins_start maxConcurrency fragment
  generalize Sweep.after maxConcurrency early = sweep at *
  generalize sweep.start maxConcurrency fragment = after at begins differs
  have agreed := Colouring.shared?_eq_some_iff.mpr ⟨consumes, shared⟩
  cases begins with
  | @joins other also =>
    cases also.symm.trans agreed
    refine absurd ?_ differs
    rw [(sweep.paints_join fragment colour).colour_eq, if_pos rfl]
  | opens forced => exact forced colour agreed

end Sweep

end ValueEngine
