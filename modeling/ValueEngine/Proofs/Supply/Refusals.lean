import ValueEngine.Proofs.Supply.Violations

/-!
# Calls that are refused

A call that breaks a rule is refused before anything is done about it, or after something has been
done that makes no difference. So it leaves no trace, except that the unfinished calls are given up;
this holds in every state that a usage leads to, those included that are reached after a rule has
been broken (`Supply.refusals_harmless`).
-/

set_option autoImplicit false

namespace ValueEngine

namespace Supply

variable {supply after : Supply} {steps : List Step} {number id : SupplyId} {producer : Producer}
  {subscription : Subscription}

/-! ## The calls -/

theorem releaseThen_of_spent (found : supply.producer? id = some producer)
    (spent : producer.references = 0) (answer : Nat → Answer) :
    supply.releaseThen id answer = supply.breaks (.releaseOfReleased producer) := by
  unfold releaseThen
  rw [found]
  exact if_pos spent

/-- A consumer that waits asks in vain. -/
theorem ask_of_waits (orderly : supply.Orderly)
    (serves : supply.Serves producer number subscription) (waits : number ∈ producer.waiting) :
    supply.ask number = supply.breaks (.askWhileWaiting number) := by
  have offered := offer?_of_producer? serves.found
  obtain ⟨_, exhausted⟩ := orderly.sated _ _ offered number waits subscription serves.known
  have opened := orderly.aligned.waits _ _ offered number waits subscription serves.known
  have unfinished : ¬ producer.finished = true := by
    intro finished
    have nobody : producer.waiting = ∅ := orderly.aligned.idle _ _ offered finished
    rw [nobody] at waits
    exact SortedSet.not_mem_empty number waits
  simp only [ask, serves.known, serves.found, if_pos serves.alive, opened, Bool.false_eq_true,
    if_false, exhausted, orderly.refresh_eq_self serves waits, if_neg unfinished, if_pos waits]
  rw [← orderly.refresh_eq_self serves waits, orderly.put_refresh_eq_self serves waits]

theorem ask_of_closed (serves : supply.Serves producer number subscription)
    (closed : subscription.closed = true) :
    supply.ask number = supply.breaks (.askAfterClosing number) := by
  simp only [ask, serves.known, serves.found, if_pos serves.alive, if_pos closed]

/-- What closing a consumer depends on. -/
theorem Serves.close_eq (serves : supply.Serves producer number subscription) :
    supply.close number =
      if subscription.closed then supply.breaks (.closeOfClosed number)
      else
        ((supply.putSubscription { subscription with closed := true }).putProducer
          { producer with waiting := producer.waiting.erase number }).releaseThen producer.id
            fun _ => .done := by
  simp only [close, serves.known, serves.found, if_pos serves.alive]

theorem releaseRegistered_of_spent {requirement : Requirement} (filed : supply.Filed)
    (registered : supply.registered? requirement = some id)
    (found : supply.producer? id = some producer) (spent : producer.references = 0) :
    supply.releaseRegistered requirement = supply.breaks (.releaseOfReleased producer) := by
  obtain rfl := (filed id producer found).1
  unfold releaseRegistered
  rw [registered, Option.bind_some, found]
  dsimp only
  rw [spent]
  exact releaseThen_of_spent found spent _

/-- **A call that is refused changes nothing**, except that the unfinished calls are given up. -/
theorem Refuses.perform_eq (orderly : supply.Orderly) {call : Call} {violation : Violation}
    (refuses : supply.Refuses call violation) :
    supply.perform call = .violation violation { supply with agenda := [] } := by
  cases refuses with
  | waits serves waits => exact ask_of_waits orderly serves waits
  | asks serves closed => exact ask_of_closed serves closed
  | closes serves closed => exact serves.close_eq.trans (if_pos closed)
  | unsatisfying found unmet => simp [perform, push, found, unmet, Supply.breaks]
  | late found met finished => simp [perform, push, found, met, finished, Supply.breaks]
  | twice found finished => simp [perform, finish, found, finished, Supply.breaks]
  | early found unfinished => simp [perform, results, found, unfinished, Supply.breaks]
  | adds found spent => simp [perform, addReference, found, spent, Supply.breaks]
  | subscribes found spent => simp [perform, subscribe, found, spent, Supply.breaks]
  | releases found spent => exact releaseThen_of_spent found spent _
  | returns registered found spent =>
    exact releaseRegistered_of_spent orderly.filed registered found spent

/-- A candidate that is known already changes nothing. -/
theorem eq_of_push_false (supply : Supply) (id : SupplyId) (value : Candidate)
    (answered : supply.push id value = .answer (.flag false) after) : after = supply := by
  unfold push at answered
  split at answered
  case h_1 => cases answered
  case h_2 producer found =>
    split at answered
    case isTrue => cases answered
    case isFalse =>
      split at answered
      case isTrue => cases answered
      case isFalse =>
        split at answered
        case isTrue =>
          cases answered
          rfl
        case isFalse =>
          dsimp only at answered
          unfold deliver at answered
          split at answered <;> cases answered

/-! ## Along a usage -/

/-- What calls that are refused do to a supply. -/
structure Harmless (supply : Supply) : Prop where
  /-- A refused call calls nobody and changes neither a producer nor a subscription. -/
  refused : ∀ call violation, supply.Refuses call violation →
    supply.perform call = .violation violation { supply with agenda := [] }
  /-- A candidate that is turned down, as one like it is known, changes nothing. -/
  repeated : ∀ id value after,
    supply.perform (.push id value) = .answer (.flag false) after → after = supply
  /-- A call that breaks a rule is refused, or is about nothing, or mixes causes of failure, or
  detaches a consumer whose reference is missing. -/
  broken : ∀ call violation after,
    supply.perform call = .violation violation after → supply.Breaks call violation after

/-- **Refused calls do no harm.** However a supply has been used, and whatever rules have been
broken before, a call that is refused leaves all producers and subscriptions as they are and calls
nobody. So does declaring a candidate that is known already. -/
theorem refusals_harmless (usage : Usage steps supply) : Harmless supply where
  refused _ _ refuses := refuses.perform_eq usage.orderly
  repeated id value _ answered := eq_of_push_false supply id value answered
  broken call violation after answered := by
    have blames := perform_blames usage.orderly call
    rwa [answered] at blames

/-- A consumer asks although it waits, is given a quote nevertheless, and waits again. -/
def impatient : List Move :=
  [.call (.create price), .call (.subscribe 0), .call (.ask 1), .call (.push 0 (quote "spot")),
    .back, .call (.ask 1), .back]

theorem refusals_harmless_impatient :
    ∃ (steps : List Step) (supply : Supply), Usage steps supply ∧ ¬ Calm steps ∧
      supply.Refuses (.ask 1) (.askWhileWaiting 1) ∧
        (supply.push 0 (quote "spot")).answer? = some (.flag false) ∧ Harmless supply := by
  have usage : Usage (stepsOf {} impatient) (endOf {} impatient) :=
    (course_stepsOf {} impatient).usage
  refine ⟨stepsOf {} impatient, endOf {} impatient, usage, ?broken, ?waits, ?known,
    refusals_harmless usage⟩
  case broken =>
    unfold Calm
    decide +kernel
  case waits =>
    exact .waits ⟨rfl, rfl, by decide +kernel⟩ (by decide +kernel)
  case known => decide +kernel

end Supply

end ValueEngine
