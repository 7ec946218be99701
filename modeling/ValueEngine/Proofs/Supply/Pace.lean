import ValueEngine.Proofs.Supply.Effects

/-!
# The pace of a subscription

A trace lists the calls that user code makes and the user code that is called, in
their order. Along a trace a subscription has received some candidates; some more
may be on their way, in the unfinished calls that hand them out. Together these are
the candidates that the subscription counts as delivered (`Pace`). A consumer that
never asks more often than it has received candidates has nothing on its way when it
asks, so that nothing can overtake anything.
-/

set_option autoImplicit false

namespace ValueEngine

/-! ## Traces -/

/-- What happens between a supply and the user code. -/
inductive Occurrence where
  | called (call : Supply.Call)
  | raised (event : SupplyEvent)
deriving DecidableEq

namespace Occurrence

/-- The candidate that a subscription is given. -/
def given? (number : SupplyId) : Occurrence → Option Candidate
  | raised (.resolved other value) => if other = number then some value else none
  | _ => none

/-- Whether a subscription is asked for more. -/
def asks (number : SupplyId) : Occurrence → Bool
  | called (.ask other) => decide (other = number)
  | _ => false

/-- Whether a subscription is told the end. -/
def fails (number : SupplyId) : Occurrence → Bool
  | raised (.failed other _) => decide (other = number)
  | _ => false

end Occurrence

/-- The candidates that a subscription has received, in their order. -/
def received (number : SupplyId) (trace : List Occurrence) : List Candidate :=
  trace.filterMap (Occurrence.given? number)

/-- How often a subscription was asked for more. -/
def asks (number : SupplyId) (trace : List Occurrence) : Nat :=
  trace.countP (Occurrence.asks number)

/-- How often a subscription was told the end. -/
def failures (number : SupplyId) (trace : List Occurrence) : Nat :=
  trace.countP (Occurrence.fails number)

section Traces

variable (number : SupplyId) (trace extra : List Occurrence)

@[simp] theorem received_append :
    received number (trace ++ extra) = received number trace ++ received number extra :=
  List.filterMap_append

@[simp] theorem asks_append :
    asks number (trace ++ extra) = asks number trace + asks number extra :=
  List.countP_append

@[simp] theorem failures_append :
    failures number (trace ++ extra) = failures number trace + failures number extra :=
  List.countP_append

@[simp] theorem received_resolved (value : Candidate) :
    received number [.raised (.resolved number value)] = [value] := by
  simp [received, Occurrence.given?]

@[simp] theorem failures_failed (failure : Option Failure) :
    failures number [.raised (.failed number failure)] = 1 := by
  simp [failures, Occurrence.fails]

end Traces

/-- Some occurrences do not concern a subscription. -/
structure Silent (number : SupplyId) (extra : List Occurrence) : Prop where
  received_eq : received number extra = []
  asks_eq : asks number extra = 0
  failures_eq : failures number extra = 0

/-- What is raised for other consumers, or for none, does not concern a subscription. -/
theorem silent_raised {number : SupplyId} {event : Option SupplyEvent}
    (elsewhere : event.bind SupplyEvent.consumer? ≠ some number) :
    Silent number (event.toList.map .raised) := by
  cases event with
  | none => exact ⟨rfl, rfl, rfl⟩
  | some event =>
    cases event with
    | resolved other value =>
      have different : other ≠ number := fun same => elsewhere (congrArg some same)
      exact ⟨by simp [received, Occurrence.given?, different], rfl, rfl⟩
    | failed other failure =>
      have different : other ≠ number := fun same => elsewhere (congrArg some same)
      exact ⟨rfl, rfl, by simp [failures, Occurrence.fails, different]⟩
    | sought id => exact ⟨rfl, rfl, rfl⟩
    | sourcing requirement => exact ⟨rfl, rfl, rfl⟩

theorem silent_of_quiet {number : SupplyId} {event : Option SupplyEvent}
    (quiet : event.bind SupplyEvent.consumer? = none) :
    Silent number (event.toList.map .raised) := by
  refine silent_raised fun found => ?_
  rw [quiet] at found
  cases found

/-- Whenever a subscription is told the end, something holds of the trace before. -/
def BeforeFailure (number : SupplyId) (trace : List Occurrence)
    (goal : List Occurrence → Prop) : Prop :=
  ∀ before failure, before ++ [.raised (.failed number failure)] <+: trace → goal before

theorem BeforeFailure.of_failures_eq {number : SupplyId} {trace : List Occurrence}
    {goal : List Occurrence → Prop} (never : failures number trace = 0) :
    BeforeFailure number trace goal := by
  rintro before failure ⟨after, rfl⟩
  rw [failures_append, failures_append, failures_failed] at never
  omega

/-- Occurrences without a failure make no difference. -/
theorem BeforeFailure.append {number : SupplyId} {trace extra : List Occurrence}
    {goal : List Occurrence → Prop} (earlier : BeforeFailure number trace goal)
    (never : failures number extra = 0) : BeforeFailure number (trace ++ extra) goal := by
  rintro before failure ⟨after, split⟩
  rcases List.append_eq_append_iff.mp split with ⟨middle, found, _⟩ | ⟨middle, found, later⟩
  · exact earlier before failure ⟨middle, found.symm⟩
  · rcases List.eq_nil_or_concat middle with rfl | ⟨start, last, rfl⟩
    · rw [List.append_nil] at found
      exact earlier before failure ⟨[], by rw [List.append_nil, found]⟩
    · rw [List.concat_eq_append, ← List.append_assoc] at found
      have same : Occurrence.raised (.failed number failure) = last :=
        (List.cons.inj (List.append_inj' found rfl).2).1
      rw [later, ← same, List.concat_eq_append, failures_append, failures_append,
        failures_failed] at never
      omega

/-- A failure now has all of the trace before it. -/
theorem BeforeFailure.snoc {number : SupplyId} {trace : List Occurrence}
    {goal : List Occurrence → Prop} (earlier : BeforeFailure number trace goal)
    (now : goal trace) (occurrence : Occurrence) :
    BeforeFailure number (trace ++ [occurrence]) goal := by
  intro before failure prior
  rcases List.prefix_concat_iff.mp prior with same | prior
  · rw [(List.append_inj' same rfl).1]
    exact now
  · exact earlier before failure prior

/-! ## The pace -/

/-- Where a subscription stands along the candidates that its producer offers. The last
two arguments are what is on its way: candidates, and how often it is still to be told
the end. -/
structure Pace (number : SupplyId) (trace : List Occurrence) (offer : Offer)
    (subscription : Subscription) (pending : List Candidate) (failing : Nat) : Prop where
  /-- What was received and what is on its way are the first candidates. -/
  given_eq : received number trace ++ pending = offer.results.take subscription.delivered
  /-- No more than there are. -/
  delivered_le : subscription.delivered ≤ offer.results.length
  /-- What the subscription knows has been offered. -/
  known : subscription.known <+: offer.results
  /-- The consumer asks at most once for each candidate it has received. -/
  asks_le : asks number trace ≤ (received number trace).length
  /-- Each candidate but the first was asked for, and so is what is waited for. -/
  owed_le : (received number trace).length + pending.length +
    (if number ∈ offer.waiting then 1 else 0) ≤ asks number trace + 1
  /-- A subscription that waits has been given everything. -/
  waits : number ∈ offer.waiting → subscription.closed = false ∧ offer.finished = false ∧
    subscription.delivered = offer.results.length
  /-- It is told the end once. -/
  once : failures number trace + failing ≤ 1
  /-- When it is told the end, it has received everything. -/
  ended : 0 < failures number trace + failing →
    offer.finished = true ∧ subscription.closed = true ∧ received number trace = offer.results
  /-- It had received everything before it was told. -/
  before_failure : BeforeFailure number trace fun before => received number before = offer.results

/-- A subscription has asked for one more than it has received, and nothing is on its
way. -/
structure Unserved (number : SupplyId) (trace : List Occurrence) (offer : Offer)
    (pending : List Candidate) : Prop where
  pending_eq : pending = []
  stopped : ¬ number ∈ offer.waiting
  owed : (received number trace).length ≤ asks number trace

namespace Pace

variable {number : SupplyId} {trace : List Occurrence} {offer : Offer}
  {subscription : Subscription} {pending : List Candidate} {failing : Nat}

/-- A subscription that is not closed has not been told the end. -/
theorem not_failed (pace : Pace number trace offer subscription pending failing)
    (opened : subscription.closed = false) : failures number trace + failing = 0 := by
  rcases Nat.eq_zero_or_pos (failures number trace + failing) with never | some
  · exact never
  · rw [(pace.ended some).2.1] at opened
    cases opened

/-- Neither has one whose producer is not finished. -/
theorem not_failed_of_unfinished (pace : Pace number trace offer subscription pending failing)
    (unfinished : offer.finished = false) : failures number trace + failing = 0 := by
  rcases Nat.eq_zero_or_pos (failures number trace + failing) with never | some
  · exact never
  · rw [(pace.ended some).1] at unfinished
    cases unfinished

/-- What waits has nothing on its way. -/
theorem pending_eq_nil_of_waits (pace : Pace number trace offer subscription pending failing)
    (waits : number ∈ offer.waiting) : pending = [] := by
  have owed := pace.owed_le
  have asked := pace.asks_le
  rw [if_pos waits] at owed
  exact List.eq_nil_of_length_eq_zero (by omega)

/-- What waits has asked for one more than it has received. -/
theorem received_le_of_waits (pace : Pace number trace offer subscription pending failing)
    (waits : number ∈ offer.waiting) : (received number trace).length ≤ asks number trace := by
  have owed := pace.owed_le
  rw [if_pos waits] at owed
  omega

/-- What has been given everything, with nothing on its way, has received everything. -/
theorem received_eq (pace : Pace number trace offer subscription [] failing)
    (all : offer.results.length ≤ subscription.delivered) :
    received number trace = offer.results := by
  have given := pace.given_eq
  rwa [List.append_nil, List.take_of_length_le all] at given

/-- Only some of what is offered matters. -/
theorem congr (pace : Pace number trace offer subscription pending failing) {other : Offer}
    (results : other.results = offer.results) (finished : other.finished = offer.finished)
    (waiting : number ∈ other.waiting ↔ number ∈ offer.waiting) :
    Pace number trace other subscription pending failing where
  given_eq := results ▸ pace.given_eq
  delivered_le := results ▸ pace.delivered_le
  known := results ▸ pace.known
  asks_le := pace.asks_le
  owed_le := by simpa only [waiting] using pace.owed_le
  waits := by simpa only [waiting, results, finished] using pace.waits
  once := pace.once
  ended := by simpa only [results, finished] using pace.ended
  before_failure := results ▸ pace.before_failure

/-- What does not concern a subscription makes no difference. -/
theorem silent (pace : Pace number trace offer subscription pending failing)
    {extra : List Occurrence} (silent : Silent number extra) :
    Pace number (trace ++ extra) offer subscription pending failing := by
  have received_eq : received number (trace ++ extra) = received number trace := by
    rw [received_append, silent.received_eq, List.append_nil]
  have asks_eq : asks number (trace ++ extra) = asks number trace := by
    rw [asks_append, silent.asks_eq, Nat.add_zero]
  have failures_eq : failures number (trace ++ extra) = failures number trace := by
    rw [failures_append, silent.failures_eq, Nat.add_zero]
  constructor
  case given_eq => exact received_eq ▸ pace.given_eq
  case delivered_le => exact pace.delivered_le
  case known => exact pace.known
  case asks_le => exact received_eq ▸ asks_eq ▸ pace.asks_le
  case owed_le => exact received_eq ▸ asks_eq ▸ pace.owed_le
  case waits => exact pace.waits
  case once => exact failures_eq ▸ pace.once
  case ended => exact received_eq ▸ failures_eq ▸ pace.ended
  case before_failure => exact pace.before_failure.append silent.failures_eq

/-- The consumer asks, in time. -/
theorem ask (pace : Pace number trace offer subscription pending failing)
    (modest : asks number trace < (received number trace).length) :
    Pace number (trace ++ [.called (.ask number)]) offer subscription pending failing := by
  have received_eq : received number [.called (.ask number)] = [] := rfl
  have asks_eq : asks number [.called (.ask number)] = 1 := by simp [asks, Occurrence.asks]
  have failures_eq : failures number [.called (.ask number)] = 0 := rfl
  have owed := pace.owed_le
  constructor
  case given_eq =>
    rw [received_append, received_eq, List.append_nil]
    exact pace.given_eq
  case delivered_le => exact pace.delivered_le
  case known => exact pace.known
  case asks_le =>
    rw [asks_append, asks_eq, received_append, received_eq, List.append_nil]
    exact modest
  case owed_le =>
    rw [asks_append, asks_eq, received_append, received_eq, List.append_nil]
    omega
  case waits => exact pace.waits
  case once =>
    rw [failures_append, failures_eq]
    exact pace.once
  case ended =>
    rw [failures_append, failures_eq, received_append, received_eq, List.append_nil]
    exact pace.ended
  case before_failure => exact pace.before_failure.append failures_eq

/-- A consumer that asks in time has nothing on its way. -/
theorem unserved (pace : Pace number trace offer subscription pending failing)
    (modest : asks number trace < (received number trace).length) :
    Unserved number (trace ++ [.called (.ask number)]) offer pending := by
  have asks_eq : asks number [.called (.ask number)] = 1 := by simp [asks, Occurrence.asks]
  have owed := pace.owed_le
  refine ⟨List.eq_nil_of_length_eq_zero (by omega), fun waits => ?_, ?_⟩
  · rw [if_pos waits] at owed
    omega
  · rw [asks_append, asks_eq, received_append]
    exact (List.append_nil (received number trace)).symm ▸ (by omega)

/-- A candidate that was on its way arrives. -/
theorem give {value : Candidate}
    (pace : Pace number trace offer subscription (value :: pending) failing) :
    Pace number (trace ++ [.raised (.resolved number value)]) offer subscription pending
      failing := by
  have failures_eq : failures number [.raised (.resolved number value)] = 0 := rfl
  have asks_eq : asks number [.raised (.resolved number value)] = 0 := rfl
  have owed := pace.owed_le
  constructor
  case given_eq =>
    rw [received_append, received_resolved, List.append_assoc]
    exact pace.given_eq
  case delivered_le => exact pace.delivered_le
  case known => exact pace.known
  case asks_le =>
    rw [asks_append, asks_eq, received_append, received_resolved, List.length_append]
    exact Nat.le_succ_of_le pace.asks_le
  case owed_le =>
    rw [asks_append, asks_eq, received_append, received_resolved, List.length_append]
    rw [List.length_cons] at owed
    simp only [List.length_singleton]
    omega
  case waits => exact pace.waits
  case once =>
    rw [failures_append, failures_eq]
    exact pace.once
  case ended =>
    rw [failures_append, failures_eq]
    intro some
    -- All of the candidates have been received, so that none can be on its way.
    have given := pace.given_eq
    rw [(pace.ended some).2.2] at given
    have long := congrArg List.length given
    rw [List.length_append, List.length_cons, List.length_take] at long
    omega
  case before_failure => exact pace.before_failure.append failures_eq

/-- The end that was to be told is told. -/
theorem tell {failure : Option Failure}
    (pace : Pace number trace offer subscription pending (failing + 1)) :
    Pace number (trace ++ [.raised (.failed number failure)]) offer subscription pending
      failing := by
  have received_eq : received number [.raised (.failed number failure)] = [] := rfl
  have asks_eq : asks number [.raised (.failed number failure)] = 0 := rfl
  have all := pace.ended (Nat.succ_pos _)
  constructor
  case given_eq =>
    rw [received_append, received_eq, List.append_nil]
    exact pace.given_eq
  case delivered_le => exact pace.delivered_le
  case known => exact pace.known
  case asks_le =>
    rw [asks_append, asks_eq, received_append, received_eq, List.append_nil]
    exact pace.asks_le
  case owed_le =>
    rw [asks_append, asks_eq, received_append, received_eq, List.append_nil]
    exact pace.owed_le
  case waits => exact pace.waits
  case once =>
    rw [failures_append, failures_failed, Nat.add_assoc, Nat.add_comm 1]
    exact pace.once
  case ended =>
    intro _
    rw [received_append, received_eq, List.append_nil]
    exact all
  case before_failure => exact pace.before_failure.snoc all.2.2 _

/-! ## Moves along the candidates -/

/-- The subscription looks at the candidates. -/
theorem look (pace : Pace number trace offer subscription pending failing)
    {known : List Candidate} (offered : known <+: offer.results) :
    Pace number trace offer { subscription with known } pending failing :=
  { pace with known := offered }

/-- The subscription does not wait any more; perhaps the producer is finished. -/
theorem stop (pace : Pace number trace offer subscription pending failing) {other : Offer}
    (results : other.results = offer.results)
    (finished : offer.finished = true → other.finished = true)
    (stopped : ¬ number ∈ other.waiting) :
    Pace number trace other subscription pending failing where
  given_eq := results ▸ pace.given_eq
  delivered_le := results ▸ pace.delivered_le
  known := results ▸ pace.known
  asks_le := pace.asks_le
  owed_le := by
    rw [if_neg stopped]
    exact Nat.le_trans (Nat.le_add_right _ _) pace.owed_le
  waits waits := absurd waits stopped
  once := pace.once
  ended some := by
    obtain ⟨before, closed, all⟩ := pace.ended some
    exact ⟨finished before, closed, all.trans results.symm⟩
  before_failure := results ▸ pace.before_failure

/-- The consumer is detached. -/
theorem close (pace : Pace number trace offer subscription pending failing)
    (stopped : ¬ number ∈ offer.waiting) :
    Pace number trace offer { subscription with closed := true } pending failing :=
  { pace with
    waits := fun waits => absurd waits stopped
    ended := fun some => ⟨(pace.ended some).1, rfl, (pace.ended some).2.2⟩ }

/-- There is a new candidate. -/
theorem grow (pace : Pace number trace offer subscription pending failing)
    (unfinished : offer.finished = false) {other : Offer} {value : Candidate}
    (results : other.results = offer.results ++ [value])
    (stopped : ¬ number ∈ other.waiting) :
    Pace number trace other subscription pending failing where
  given_eq := by
    rw [results, List.take_append_of_le_length pace.delivered_le]
    exact pace.given_eq
  delivered_le := by
    rw [results, List.length_append]
    exact Nat.le_add_right_of_le pace.delivered_le
  known := results ▸ pace.known.trans (List.prefix_append _ _)
  asks_le := pace.asks_le
  owed_le := by
    rw [if_neg stopped]
    exact Nat.le_trans (Nat.le_add_right _ _) pace.owed_le
  waits waits := absurd waits stopped
  once := pace.once
  ended some := absurd (pace.not_failed_of_unfinished unfinished) (Nat.ne_of_gt some)
  before_failure := .of_failures_eq
    (Nat.eq_zero_of_add_eq_zero_right (pace.not_failed_of_unfinished unfinished))

/-- The next candidate is on its way. -/
theorem send (pace : Pace number trace offer subscription [] failing) {value : Candidate}
    (next : offer.results[subscription.delivered]? = some value)
    (unserved : Unserved number trace offer []) :
    Pace number trace offer subscription.advance [value] failing where
  given_eq := by
    have given := pace.given_eq
    rw [List.append_nil] at given
    rw [given, Subscription.advance, List.take_add_one, next, Option.toList_some]
  delivered_le := (List.getElem?_eq_some_iff.mp next).1
  known := pace.known
  asks_le := pace.asks_le
  owed_le := by
    rw [if_neg unserved.stopped, List.length_singleton]
    exact Nat.succ_le_succ unserved.owed
  waits waits := absurd waits unserved.stopped
  once := pace.once
  ended := pace.ended
  before_failure := pace.before_failure

/-- The end is to be told. -/
theorem fail (pace : Pace number trace offer subscription [] failing)
    (finished : offer.finished = true) (opened : subscription.closed = false)
    (all : offer.results.length ≤ subscription.delivered)
    (stopped : ¬ number ∈ offer.waiting) :
    Pace number trace offer { subscription with closed := true } [] (failing + 1) :=
  { pace with
    waits := fun waits => absurd waits stopped
    once := Nat.succ_le_succ (Nat.le_of_eq (pace.not_failed opened))
    ended := fun _ => ⟨finished, rfl, pace.received_eq all⟩ }

/-- The subscription waits for the next candidate. -/
theorem wait (pace : Pace number trace offer subscription [] failing)
    (unfinished : offer.finished = false) (opened : subscription.closed = false)
    (all : offer.results.length ≤ subscription.delivered)
    (unserved : Unserved number trace offer [])
    {other : Offer} (results : other.results = offer.results)
    (finished : other.finished = offer.finished) :
    Pace number trace other subscription [] failing where
  given_eq := results ▸ pace.given_eq
  delivered_le := results ▸ pace.delivered_le
  known := results ▸ pace.known
  asks_le := pace.asks_le
  owed_le := by
    rw [List.length_nil, Nat.add_zero]
    split
    · exact Nat.succ_le_succ unserved.owed
    · exact Nat.le_succ_of_le unserved.owed
  waits _ := by
    rw [results, finished]
    exact ⟨opened, unfinished, Nat.le_antisymm pace.delivered_le all⟩
  once := pace.once
  ended some := by
    rw [results, finished]
    exact pace.ended some
  before_failure := results ▸ pace.before_failure

/-- A new subscription has received nothing. -/
theorem start (silent : Silent number trace) (stopped : ¬ number ∈ offer.waiting) :
    Pace number trace offer { id := number, producer := offer.id, known := offer.results }
      [] 0 where
  given_eq := by rw [silent.received_eq, List.append_nil, List.take_zero]
  delivered_le := Nat.zero_le _
  known := List.prefix_refl _
  asks_le := by
    rw [silent.asks_eq]
    exact Nat.zero_le _
  owed_le := by
    rw [silent.received_eq, if_neg stopped]
    exact Nat.zero_le _
  waits waits := absurd waits stopped
  once := by
    rw [silent.failures_eq]
    exact Nat.zero_le _
  ended some := absurd silent.failures_eq (Nat.ne_of_gt some)
  before_failure := .of_failures_eq silent.failures_eq

end Pace

variable {number : SupplyId} {trace : List Occurrence} {offer : Offer}
  {event : Option SupplyEvent} {waiting : SortedSet SupplyId} {subscription : Subscription}

/-- A subscription starts at its pace. -/
theorem Offer.Attached.pace (attached : offer.Attached number event waiting subscription)
    (silent : Silent number trace) (stopped : ¬ number ∈ offer.waiting) :
    Pace number (trace ++ event.toList.map .raised) { offer with waiting } subscription [] 0 := by
  have start := Pace.start silent stopped
  have unserved : Unserved number trace offer [] := by
    refine ⟨rfl, stopped, ?_⟩
    rw [silent.received_eq]
    exact Nat.zero_le _
  cases attached with
  | given first => exact (start.send first unserved).give
  | ended first finished =>
    exact (start.fail finished rfl (List.getElem?_eq_none_iff.mp first) stopped).tell
  | waits first unfinished =>
    have waits : Pace number trace { offer with waiting := offer.waiting.insert number }
        _ [] 0 :=
      start.wait unfinished rfl (List.getElem?_eq_none_iff.mp first) unserved rfl rfl
    exact waits.silent ⟨rfl, rfl, rfl⟩

/-- A subscription that is served keeps its pace. -/
theorem Offer.Asked.pace {before : Subscription} {failing : Nat}
    (asked : offer.Asked before event waiting subscription)
    (pace : Pace before.id trace offer before [] failing) (opened : before.closed = false)
    (unserved : Unserved before.id trace offer []) :
    Pace before.id (trace ++ event.toList.map .raised) { offer with waiting } subscription []
      failing := by
  cases asked with
  | @given known value source next =>
    have offered : known <+: offer.results := by
      rcases source with rfl | rfl
      · exact pace.known
      · exact List.prefix_refl _
    have further : offer.results[before.delivered]? = some value := by
      obtain ⟨rest, whole⟩ := offered
      rw [← whole, List.getElem?_append_left (List.getElem?_eq_some_iff.mp next).1]
      exact next
    exact ((pace.look offered).send further unserved).give
  | ended exhausted finished =>
    exact ((pace.look (List.prefix_refl _)).fail finished opened
      (List.getElem?_eq_none_iff.mp exhausted) unserved.stopped).tell
  | waits quiet exhausted unfinished =>
    have waits : Pace before.id trace { offer with waiting := offer.waiting.insert before.id }
        _ [] failing :=
      (pace.look (List.prefix_refl _)).wait unfinished opened
        (List.getElem?_eq_none_iff.mp exhausted) unserved rfl rfl
    exact waits.silent (silent_of_quiet quiet)

end ValueEngine
