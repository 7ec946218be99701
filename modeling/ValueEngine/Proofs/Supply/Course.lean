import Mathlib.Data.List.Induction
import ValueEngine.Proofs.Supply.Detached
import ValueEngine.Proofs.Supply.History

/-!
# Courses of a supply

A course lists all that user code does to a supply, step by step: it makes calls, and
returns from being called. Each step has the supply that it finds, so that what happens
at it can be told from the step alone.

A consumer that closes its subscription, or cancels it with success, is not quite left
alone then. A candidate that was pushed before goes to everybody who waited for it, one
after the other, and whoever detaches another consumer while it is given the candidate
comes too late. Nothing else reaches a consumer that is detached, unless it asks for
more although its producer is gone (`Supply.detached_gets_pending`).
-/

set_option autoImplicit false

namespace ValueEngine

/-! ## Steps -/

/-- What user code does next: it makes a call, or it returns. -/
inductive Move where
  | call (call : Supply.Call)
  | back
deriving DecidableEq

/-- What is seen of a move. -/
def Move.called : Move → List Occurrence
  | .call made => [.called made]
  | .back => []

/-- The subscription that a move asks for more. -/
def Move.asked? : Move → Option SupplyId
  | .call made => made.asked?
  | .back => none

/-- What the innermost call answers. -/
def Turn.answer? : Turn → Option Answer
  | .answer given _ => some given
  | _ => none

/-- Go on with a move of user code. -/
def Supply.act (supply : Supply) : Move → Turn
  | .call made => supply.perform made
  | .back => supply.resume

/-- Whether the producer of a subscription is still there. -/
def Supply.isServed (supply : Supply) (number : SupplyId) : Bool :=
  match supply.subscription? number with
  | none => false
  | some subscription => supply.isAlive subscription.producer

/-- A move and the supply that it finds. -/
structure Step where
  before : Supply
  move : Move

namespace Step

/-- Where a step ends. -/
def turn (step : Step) : Turn := step.before.act step.move

/-- The supply after a step. -/
def after (step : Step) : Supply := step.turn.supply

/-- What is seen of a step. -/
def occurrences (step : Step) : List Occurrence := step.move.called ++ step.turn.raised

/-- A step closes a consumer whose producer is there, or cancels it with success. -/
inductive Detaches (number : SupplyId) (step : Step) : Prop where
  | close (moved : step.move = .call (.close number)) (done : step.turn.answer? = some .done)
      (served : step.before.isServed number = true)
  | cancel (moved : step.move = .call (.cancel number))
      (done : step.turn.answer? = some (.flag true))

/-- A step that breaks no rule has one of the effects. -/
theorem effect {step : Step} (tidy : step.before.Tidy) (calm : step.turn.violation? = none) :
    step.before.Effect step.move.asked? step.turn.event? step.after := by
  obtain ⟨before, move⟩ := step
  cases move with
  | call made => exact (Supply.perform_effect tidy made).reached calm
  | back => exact (Supply.resume_effect tidy).reached calm

end Step

/-- All that is seen of some steps, in its order. -/
def traceOf (steps : List Step) : List Occurrence := steps.flatMap Step.occurrences

@[simp] theorem traceOf_append (steps later : List Step) :
    traceOf (steps ++ later) = traceOf steps ++ traceOf later :=
  List.flatMap_append

@[simp] theorem traceOf_singleton (step : Step) : traceOf [step] = step.occurrences := by
  simp [traceOf]

@[simp] theorem received_called (number : SupplyId) (move : Move) :
    received number move.called = [] := by
  cases move with
  | call made => rfl
  | back => rfl

namespace Supply

/-- The steps that lead from one supply to another. -/
inductive Course (first : Supply) : List Step → Supply → Prop where
  | start : Course first [] first
  | step {steps : List Step} {supply : Supply} (earlier : Course first steps supply)
      (move : Move) :
      Course first (steps ++ [⟨supply, move⟩]) (Step.after ⟨supply, move⟩)

/-- No step of a course breaks a rule. -/
def Calm (steps : List Step) : Prop := ∀ step ∈ steps, step.turn.violation? = none

variable {first supply : Supply} {steps later : List Step} {step : Step} {number : SupplyId}

theorem Calm.of_append (calm : Calm (steps ++ later)) : Calm steps ∧ Calm later :=
  List.forall_mem_append.mp calm

/-- A course can be cut at any of its steps. -/
theorem course_append_iff : Course first (steps ++ step :: later) supply ↔
    Course first steps step.before ∧ Course step.after later supply := by
  induction later using List.reverseRecOn generalizing supply with
  | nil =>
    constructor
    · intro course
      generalize whole : steps ++ [step] = all at course
      cases course with
      | start => simp at whole
      | step earlier move =>
        obtain ⟨rfl, same⟩ := List.append_inj' whole rfl
        cases same
        exact ⟨earlier, .start⟩
    · rintro ⟨earlier, ended⟩
      generalize none : ([] : List Step) = nothing at ended
      cases ended with
      | start => exact none ▸ earlier.step step.move
      | step _ move => simp at none
  | append_singleton later last ih =>
    rw [← List.cons_append, ← List.append_assoc]
    constructor
    · intro course
      generalize whole : steps ++ step :: later ++ [last] = all at course
      cases course with
      | start => simp at whole
      | step earlier move =>
        obtain ⟨rfl, same⟩ := List.append_inj' whole rfl
        cases same
        obtain ⟨opening, middle⟩ := ih.mp earlier
        exact ⟨opening, middle.step move⟩
    · rintro ⟨opening, course⟩
      generalize whole : later ++ [last] = all at course
      cases course with
      | start => simp at whole
      | step middle move =>
        obtain ⟨rfl, same⟩ := List.append_inj' whole rfl
        cases same
        exact (ih.mpr ⟨opening, middle⟩).step move

/-- The steps that some moves make. -/
def stepsOf (supply : Supply) : List Move → List Step
  | [] => []
  | move :: moves => ⟨supply, move⟩ :: stepsOf (Step.after ⟨supply, move⟩) moves

/-- Where they lead. -/
def endOf (supply : Supply) : List Move → Supply
  | [] => supply
  | move :: moves => endOf (Step.after ⟨supply, move⟩) moves

theorem course_stepsOf (supply : Supply) (moves : List Move) :
    Course supply (stepsOf supply moves) (endOf supply moves) := by
  induction moves generalizing supply with
  | nil => exact .start
  | cons move moves ih => exact course_append_iff.mpr ⟨.start, ih (Step.after ⟨supply, move⟩)⟩

/-! ## What holds along a course -/

theorem aligned_empty : Aligned {} where
  waits _ _ found := by cases found
  idle _ _ found := by cases found
  told _ member := by cases member

/-- Along a course that breaks no rule the supply stays tidy, and lists and flags stay
together. -/
theorem Course.aligned (course : Course {} steps supply) (calm : Calm steps) :
    supply.Tidy ∧ supply.Aligned := by
  induction course with
  | start => exact ⟨tidy_empty, aligned_empty⟩
  | @step steps before earlier move ih =>
    obtain ⟨calmBefore, calmNow⟩ := calm.of_append
    obtain ⟨tidy, aligned⟩ := ih calmBefore
    have effect := Step.effect tidy (calmNow ⟨before, move⟩ List.mem_cons_self)
    exact ⟨tidy.effect effect, aligned.effect tidy effect⟩

/-! ## Detaching -/

theorem exists_of_isServed (tidy : supply.Tidy) (served : supply.isServed number = true) :
    ∃ subscription producer, supply.subscription? number = some subscription ∧
      supply.producer? subscription.producer = some producer ∧
        supply.isAlive producer.id = true := by
  unfold isServed at served
  split at served
  case h_1 => cases served
  case h_2 subscription known =>
    obtain ⟨_, _, offer, offered⟩ := tidy.subscription_id number subscription known
    obtain ⟨producer, found, _⟩ := exists_producer?_of_offer? offered
    exact ⟨subscription, producer, known, found, tidy.id_of_producer? found ▸ served⟩

/-- Whoever closes its subscription to a producer that is there is detached. -/
theorem shut_close (tidy : supply.Tidy) (aligned : supply.Aligned)
    (served : supply.isServed number = true) (calm : (supply.close number).violation? = none) :
    (supply.close number).supply.Shut number := by
  obtain ⟨subscription, producer, known, found, alive⟩ := exists_of_isServed tidy served
  have leaving := tidy.leaves known found fun _ => .done
  unfold close at calm ⊢
  simp only [known, found, if_pos alive] at calm ⊢
  split at calm
  case isTrue => cases calm
  case isFalse opened =>
    rw [if_neg opened]
    exact Shut.of_leaves tidy aligned known (Bool.eq_false_iff.mpr opened) (leaving.reached calm)

/-- Whoever cancels with success is detached. -/
theorem shut_cancel (tidy : supply.Tidy) (aligned : supply.Aligned)
    (calm : (supply.cancel number).violation? = none)
    (done : (supply.cancel number).answer? = some (.flag true)) :
    (supply.cancel number).supply.Shut number := by
  unfold cancel at calm done ⊢
  split at calm
  case h_1 => cases calm
  case h_2 subscription known =>
    simp only [known] at calm done ⊢
    split at calm
    case h_1 => cases calm
    case h_2 producer found =>
      simp only [found] at calm done ⊢
      split at calm
      case isFalse still =>
        rw [if_neg still] at done
        cases done
      case isTrue waits =>
        rw [if_pos waits]
        have member := of_decide_eq_true (Bool.and_eq_true_iff.mp waits).2
        have opened := aligned.waits _ _ (tidy.offered found) number member subscription known
        have leaving := tidy.leaves known found fun _ => .flag true
        exact Shut.of_leaves tidy aligned known opened (leaving.reached calm)

/-- A step that detaches a consumer leaves it detached. -/
theorem shut_of_detaches (tidy : step.before.Tidy) (aligned : step.before.Aligned)
    (calm : step.turn.violation? = none) (detaches : step.Detaches number) :
    step.after.Shut number := by
  obtain ⟨before, move⟩ := step
  cases detaches with
  | close moved done served =>
    cases moved
    exact shut_close tidy aligned served calm
  | cancel moved done =>
    cases moved
    exact shut_cancel tidy aligned calm done

/-- What reaches a detached consumer along the rest of a course. -/
structure Pending (number : SupplyId) (supply : Supply) (later : List Step) (after : Supply) :
    Prop where
  /-- The candidates that it is given are those that were on their way, the first one first. -/
  received_eq : received number (traceOf later) ++ valuesFor number after.deliveries =
    valuesFor number supply.deliveries
  /-- It is told that there is none only if it asks although its producer is gone. -/
  abandoned : ∀ step ∈ later, ∀ failure,
    step.turn.event? = some (.failed number failure) →
      step.move = .call (.ask number) ∧ step.before.isServed number = false

/-- A detached consumer is given what was on its way. -/
theorem Shut.pending (shut : supply.Shut number) (tidy : supply.Tidy) (aligned : supply.Aligned)
    {after : Supply} (course : Course supply later after) (calm : Calm later) :
    after.Shut number ∧ Pending number supply later after := by
  suffices all : after.Tidy ∧ after.Aligned ∧ after.Shut number ∧
      Pending number supply later after from ⟨all.2.2.1, all.2.2.2⟩
  induction course with
  | start => exact ⟨tidy, aligned, shut, rfl, nofun⟩
  | @step steps before earlier move ih =>
    obtain ⟨calmBefore, calmNow⟩ := calm.of_append
    obtain ⟨tidyNow, alignedNow, shutNow, pending⟩ := ih calmBefore
    have effect := Step.effect tidyNow (calmNow ⟨before, move⟩ List.mem_cons_self)
    obtain ⟨shutAfter, received_eq, abandoned⟩ := shutNow.effect tidyNow alignedNow effect
    refine ⟨tidyNow.effect effect, alignedNow.effect tidyNow effect, shutAfter, ?_, ?_⟩
    · rw [traceOf_append, received_append, List.append_assoc, traceOf_singleton, Step.occurrences,
        received_append, received_called, List.nil_append, Turn.raised, received_eq,
        pending.received_eq]
    · intro step member failure raised
      rcases List.mem_append.mp member with earlier | now
      · exact pending.abandoned step earlier failure raised
      · obtain rfl := List.mem_singleton.mp now
        obtain ⟨asked, rfl, subscription, known, gone⟩ := abandoned failure raised
        refine ⟨?_, ?_⟩
        · cases move with
          | call made => exact congrArg Move.call (asked?_eq_some_iff.mp asked)
          | back => cases asked
        · unfold isServed
          rw [known]
          exact gone

/-- **A detached consumer is given only what was on its way.** From the step that detaches it
on, a consumer is given exactly the candidates that unfinished calls were giving it at that
moment, and is told that there is none only if it asks although its producer is gone. -/
theorem detached_gets_pending (course : Course {} (steps ++ step :: later) supply)
    (calm : Calm (steps ++ step :: later)) (detaches : step.Detaches number) :
    Pending number step.after later supply := by
  obtain ⟨before, after⟩ := course_append_iff.mp course
  obtain ⟨calmBefore, calmAfter⟩ := calm.of_append
  obtain ⟨tidy, aligned⟩ := before.aligned calmBefore
  have now := calmAfter step List.mem_cons_self
  have effect := Step.effect tidy now
  have shut := shut_of_detaches tidy aligned now detaches
  exact (shut.pending (tidy.effect effect) (aligned.effect tidy effect) after
    fun other member => calmAfter other (List.mem_cons_of_mem _ member)).2

/-- Two consumers wait for a quote; while the first one is given it, it closes the other. -/
def meddling : List Move :=
  [.call (.create price), .call (.subscribe 0), .call (.subscribe 0),
    .call (.push 0 (quote "spot"))]

/-- Being detached is not the same as being left alone: the consumer that was closed is still
given the quote. -/
theorem given_after_close :
    ∃ (steps : List Step) (step : Step) (later : List Step) (supply : Supply),
      Course {} (steps ++ step :: later) supply ∧ Calm (steps ++ step :: later) ∧
        step.Detaches 2 ∧ received 2 (traceOf later) = [quote "spot"] := by
  let step : Step := ⟨endOf {} meddling, .call (.close 2)⟩
  refine ⟨stepsOf {} meddling, step, stepsOf step.after [.back], endOf step.after [.back],
    course_append_iff.mpr ⟨course_stepsOf _ _, course_stepsOf _ _⟩, ?_, ?_, ?_⟩
  · unfold Calm
    decide +kernel
  · exact .close rfl (by decide +kernel) (by decide +kernel)
  · decide +kernel

theorem detached_gets_pending_meddling :
    ∃ (steps : List Step) (step : Step) (later : List Step) (supply : Supply),
      Course {} (steps ++ step :: later) supply ∧ Calm (steps ++ step :: later) ∧
        step.Detaches 2 ∧ valuesFor 2 step.after.deliveries = [quote "spot"] ∧
          Pending 2 step.after later supply := by
  let step : Step := ⟨endOf {} meddling, .call (.close 2)⟩
  have course : Course {} (stepsOf {} meddling ++ step :: stepsOf step.after [.back])
      (endOf step.after [.back]) :=
    course_append_iff.mpr ⟨course_stepsOf _ _, course_stepsOf _ _⟩
  have calm : Calm (stepsOf {} meddling ++ step :: stepsOf step.after [.back]) := by
    unfold Calm
    decide +kernel
  have detaches : step.Detaches 2 := .close rfl (by decide +kernel) (by decide +kernel)
  exact ⟨_, step, _, _, course, calm, detaches, by decide +kernel,
    detached_gets_pending course calm detaches⟩

end Supply

end ValueEngine
