import ValueEngine.Proofs.Supply.Registry

/-!
# Broken rules

A call may break a rule of the supply: a consumer asks while it waits or after it has been
detached, a source declares a candidate that does not meet the requirement or comes after the
end, references are taken on a producer that all references were given back of
(`Supply.Refuses`). What else can go wrong is listed along with what is left then
(`Supply.Breaks`).

One of the checks comes late. A consumer that asks is shown the candidates of its producer, and is
found to wait only afterwards. That nothing changes even so is because a consumer that waits has
been shown all candidates before (`Supply.Sated`). Every usage leads to a supply in which this holds
and which is in order otherwise, whatever rules are broken on the way (`Supply.Usage.orderly`).
-/

set_option autoImplicit false

namespace ValueEngine

/-- If a rule was broken, the turn reaches the goal. -/
def Turn.Blames (goal : Violation → Supply → Prop) : Turn → Prop
  | .violation broken supply => goal broken supply
  | _ => True

theorem Turn.Blames.mono {goal further : Violation → Supply → Prop} {turn : Turn}
    (blames : turn.Blames goal)
    (weaken : ∀ violation supply, goal violation supply → further violation supply) :
    turn.Blames further := by
  cases turn with
  | answer answer supply => exact trivial
  | event event supply => exact trivial
  | violation violation supply => exact weaken _ _ blames

theorem Turn.Blames.reached {goal : Violation → Supply → Prop} {turn : Turn}
    {violation : Violation} (blames : turn.Blames goal)
    (broken : turn.violation? = some violation) : goal violation turn.supply := by
  cases turn with
  | answer answer supply => cases broken
  | event event supply => cases broken
  | violation blamed supply =>
    cases broken
    exact blames

namespace Supply

/-! ## Consumers that wait -/

/-- Who waits has been shown all candidates, and there is none left for it. -/
def Sated (supply : Supply) : Prop :=
  supply.OfWaiting fun results subscription =>
    subscription.known = results ∧ subscription.next? = none

variable {supply after : Supply} {offer : Offer} {waiting : SortedSet SupplyId}
  {subscription : Subscription} {event : Option SupplyEvent} {number id : SupplyId}
  {producer : Producer} {steps : List Step} {step : Step}

namespace Sated

/-- A consumer subscribes. -/
theorem attaches (sated : supply.Sated) (tidy : supply.Tidy)
    (attached : offer.Attached supply.nextId event waiting subscription)
    (moves : supply.Moves offer waiting subscription after) : after.Sated := by
  have new : supply.nextId ∉ offer.waiting := by
    intro member
    obtain ⟨before, found, _⟩ := tidy.waits _ offer moves.offered _ member
    exact absurd (tidy.subscription_id _ before found).2.1 (Nat.lt_irrefl _)
  refine OfWaiting.moves sated tidy moves fun member => ?_
  cases attached with
  | given first => exact absurd member new
  | ended first finished => exact absurd member new
  | waits first unfinished => exact ⟨rfl, first⟩

/-- A consumer asks and is served. -/
theorem serves (sated : supply.Sated) (tidy : supply.Tidy) (aligned : supply.Aligned)
    {before : Subscription} (known : supply.subscription? number = some before)
    (asked : offer.Asked before event waiting subscription)
    (moves : supply.Moves offer waiting subscription after) : after.Sated := by
  obtain rfl := tidy.id_of_subscription? known
  refine OfWaiting.moves sated tidy moves fun member => ?_
  cases asked with
  | @given shown value source next =>
    -- There is no candidate left for a consumer that waits.
    obtain ⟨seen, exhausted⟩ := sated _ offer moves.offered before.id member before known
    have same : shown = before.known := source.elim id fun all => all.trans seen.symm
    rw [same] at next
    cases exhausted.symm.trans next
  | ended exhausted finished =>
    rw [aligned.idle _ offer moves.offered finished] at member
    exact absurd member (SortedSet.not_mem_empty _)
  | waits quiet exhausted unfinished => exact ⟨rfl, exhausted⟩

/-- A consumer is detached. -/
theorem leaves (sated : supply.Sated) (tidy : supply.Tidy)
    (leaves : supply.Leaves number event after) : after.Sated := by
  obtain ⟨before, offer, middle, known, moves, kept, _⟩ := leaves
  refine (OfWaiting.moves sated tidy moves fun member => ?_).kept kept
  exact absurd (tidy.id_of_subscription? known) (SortedSet.mem_erase.mp member).2

/-- **Who waits has been shown all candidates**, whatever the effect. -/
theorem effect (sated : supply.Sated) (tidy : supply.Tidy) (aligned : supply.Aligned)
    {asked : Option SupplyId} (effect : supply.Effect asked event after) : after.Sated := by
  cases effect with
  | aside kept => exact OfWaiting.kept sated kept.1
  | attaches attached moves => exact sated.attaches tidy attached moves
  | serves known opened asked moves => exact sated.serves tidy aligned known asked moves
  | abandons known gone kept => exact OfWaiting.kept sated kept
  | leaves leaves => exact sated.leaves tidy leaves
  | pushes pushes hands => exact (OfWaiting.announces sated tidy pushes.toAnnounces).hands hands
  | ends ends hands => exact (OfWaiting.announces sated tidy ends.toAnnounces).hands hands
  | hands kept hands => exact (OfWaiting.kept sated kept).hands hands

end Sated

/-! ## Calls that break a rule -/

/-- A consumer has a subscription to a producer that is still there. -/
structure Serves (supply : Supply) (producer : Producer) (number : SupplyId)
    (subscription : Subscription) : Prop where
  known : supply.subscription? number = some subscription
  found : supply.producer? subscription.producer = some producer
  alive : supply.isAlive producer.id = true

/-- The calls that are refused, and why. -/
inductive Refuses (supply : Supply) : Call → Violation → Prop where
  /-- A consumer that waits asks. -/
  | waits {number : SupplyId} {subscription : Subscription} {producer : Producer}
      (serves : supply.Serves producer number subscription) (waits : number ∈ producer.waiting) :
      Refuses supply (.ask number) (.askWhileWaiting number)
  /-- A detached consumer asks. -/
  | asks {number : SupplyId} {subscription : Subscription} {producer : Producer}
      (serves : supply.Serves producer number subscription)
      (closed : subscription.closed = true) :
      Refuses supply (.ask number) (.askAfterClosing number)
  /-- A detached consumer is detached. -/
  | closes {number : SupplyId} {subscription : Subscription} {producer : Producer}
      (serves : supply.Serves producer number subscription)
      (closed : subscription.closed = true) :
      Refuses supply (.close number) (.closeOfClosed number)
  /-- A candidate does not meet the requirement. -/
  | unsatisfying {id : SupplyId} {producer : Producer} {value : Candidate}
      (found : supply.producer? id = some producer)
      (unmet : producer.requirement.satisfiedBy value.specification = false) :
      Refuses supply (.push id value) (.unsatisfying value.specification producer.requirement)
  /-- A candidate is declared after the end. -/
  | late {id : SupplyId} {producer : Producer} {value : Candidate}
      (found : supply.producer? id = some producer)
      (met : producer.requirement.satisfiedBy value.specification = true)
      (finished : producer.finished = true) :
      Refuses supply (.push id value) (.pushAfterFinish producer)
  /-- The end is declared twice. -/
  | twice {id : SupplyId} {producer : Producer} (found : supply.producer? id = some producer)
      (finished : producer.finished = true) : Refuses supply (.finish id) (.finishedTwice producer)
  /-- All candidates are asked for before the end. -/
  | early {id : SupplyId} {producer : Producer} (found : supply.producer? id = some producer)
      (unfinished : producer.finished = false) :
      Refuses supply (.results id) (.resultsBeforeFinish producer)
  /-- A reference is taken although all have been given back. -/
  | adds {id : SupplyId} {producer : Producer} (found : supply.producer? id = some producer)
      (spent : producer.references = 0) :
      Refuses supply (.addReference id) (.referenceToReleased producer)
  /-- A consumer subscribes although all have been given back. -/
  | subscribes {id : SupplyId} {producer : Producer} (found : supply.producer? id = some producer)
      (spent : producer.references = 0) :
      Refuses supply (.subscribe id) (.referenceToReleased producer)
  /-- A reference is given back although all have been. -/
  | releases {id : SupplyId} {producer : Producer} (found : supply.producer? id = some producer)
      (spent : producer.references = 0) : Refuses supply (.release id) (.releaseOfReleased producer)
  /-- So it is by requirement. -/
  | returns {requirement : Requirement} {id : SupplyId} {producer : Producer}
      (registered : supply.registered? requirement = some id)
      (found : supply.producer? id = some producer) (spent : producer.references = 0) :
      Refuses supply (.releaseRegistered requirement) (.releaseOfReleased producer)

/-- What a call that breaks a rule leaves. The unfinished calls are given up in any case. -/
inductive Breaks (supply : Supply) : Call → Violation → Supply → Prop where
  /-- It is refused. -/
  | refused {call : Call} {violation : Violation} (refuses : supply.Refuses call violation) :
      Breaks supply call violation { supply with agenda := [] }
  /-- It is about a number that no producer has, or no subscription. -/
  | unknown {call : Call} {id : SupplyId}
      (absent : supply.producer? id = none ∨ supply.subscription? id = none) :
      Breaks supply call (.unknown id) { supply with agenda := [] }
  /-- A cause of failure is refused after the candidates have been recorded. -/
  | mixed {id : SupplyId} {cause : Failure} {producer : Producer}
      {mixed : Failure.MixedRequirements} (found : supply.producer? id = some producer)
      (recorded : (producer.recordFailure cause).2 = some mixed) :
      Breaks supply (.recordFailure id cause) (.mixedFailures mixed)
        { supply.putProducer (producer.recordFailure cause).1 with agenda := [] }
  /-- A consumer is detached whose reference somebody else has given back. -/
  | missing {call : Call} {number : SupplyId} {subscription : Subscription} {producer : Producer}
      (detaches : call = .close number ∨ call = .cancel number)
      (serves : supply.Serves producer number subscription) (spent : producer.references = 0) :
      Breaks supply call
        (.releaseOfReleased { producer with waiting := producer.waiting.erase number })
        { (supply.putSubscription { subscription with closed := true }).putProducer
            { producer with waiting := producer.waiting.erase number } with agenda := [] }

/-! ## A supply in order -/

/-- A supply is tidy, lists and flags go together, and who waits has been shown all candidates. -/
structure Orderly (supply : Supply) : Prop where
  tidy : supply.Tidy
  aligned : supply.Aligned
  sated : supply.Sated

namespace Orderly

theorem filed (orderly : supply.Orderly) : supply.Filed := fun id producer found =>
  orderly.tidy.producer_id id producer.offer (offer?_of_producer? found)

theorem effect (orderly : supply.Orderly) {asked : Option SupplyId}
    (effect : supply.Effect asked event after) : after.Orderly where
  tidy := orderly.tidy.effect effect
  aligned := orderly.aligned.effect orderly.tidy effect
  sated := orderly.sated.effect orderly.tidy orderly.aligned effect

theorem kept (orderly : supply.Orderly) (kept : supply.Kept after) : after.Orderly := by
  have aside : supply.KeptAside none after := ⟨kept, rfl⟩
  exact orderly.effect (.aside aside)

/-- Nothing is told any more when the unfinished calls are given up. -/
theorem giveUp (orderly : supply.Orderly) : Orderly { supply with agenda := [] } where
  tidy := ⟨orderly.tidy.producer_id, orderly.tidy.subscription_id, orderly.tidy.waits,
    orderly.tidy.genuine⟩
  aligned := ⟨orderly.aligned.waits, orderly.aligned.idle, nofun⟩
  sated := orderly.sated

/-- A consumer is detached. -/
theorem detach (orderly : supply.Orderly) (serves : supply.Serves producer number subscription) :
    Orderly ((supply.putSubscription { subscription with closed := true }).putProducer
      { producer with waiting := producer.waiting.erase number }) := by
  have tidy := orderly.tidy
  have moves : supply.Moves producer.offer (producer.waiting.erase number)
      { subscription with closed := true } _ :=
    tidy.moves_known serves.known serves.found rfl rfl fun other different =>
      SortedSet.mem_erase.trans (and_iff_left fun same =>
        different ((tidy.id_of_subscription? serves.known).trans same.symm))
  have leaves : supply.Leaves number none _ :=
    ⟨subscription, producer.offer, _, serves.known, moves, Kept.refl _, rfl⟩
  exact orderly.effect (.leaves leaves)

/-- Showing the candidates to a consumer that waits changes nothing. -/
theorem refresh_eq_self (orderly : supply.Orderly)
    (serves : supply.Serves producer number subscription) (waits : number ∈ producer.waiting) :
    subscription.refresh producer.results = subscription := by
  obtain ⟨seen, _⟩ := orderly.sated _ _ (offer?_of_producer? serves.found) number waits
    subscription serves.known
  have shown : producer.results = subscription.known := seen.symm
  rw [Subscription.refresh, shown]

theorem put_refresh_eq_self (orderly : supply.Orderly)
    (serves : supply.Serves producer number subscription) (waits : number ∈ producer.waiting) :
    supply.putSubscription (subscription.refresh producer.results) = supply := by
  rw [orderly.refresh_eq_self serves waits]
  refine putSubscription_eq_self ?_
  rw [orderly.tidy.id_of_subscription? serves.known]
  exact serves.known

/-- A broken rule leaves a supply in order. -/
theorem breaks (orderly : supply.Orderly) {call : Call} {violation : Violation}
    (breaks : supply.Breaks call violation after) : after.Orderly := by
  cases breaks with
  | refused refuses => exact orderly.giveUp
  | unknown absent => exact orderly.giveUp
  | @mixed id cause producer mixed found recorded =>
    have kept := orderly.tidy.kept_putProducer found (producer.offer_recordFailure cause)
    exact (orderly.kept kept).giveUp
  | missing detaches serves spent => exact (orderly.detach serves).giveUp

end Orderly

/-! ## The checks of calls -/

/-- A reference that nobody holds is not given back. -/
theorem releaseThen_blames (supply : Supply) (id : SupplyId) (answer : Nat → Answer) :
    (supply.releaseThen id answer).Blames fun violation after =>
      after = { supply with agenda := [] } ∧
        (supply.producer? id = none ∧ violation = .unknown id ∨
          ∃ producer, supply.producer? id = some producer ∧ producer.references = 0 ∧
            violation = .releaseOfReleased producer) := by
  unfold releaseThen
  split
  case h_1 absent => exact ⟨rfl, .inl ⟨absent, rfl⟩⟩
  case h_2 producer found =>
    split
    case isTrue spent => exact ⟨rfl, .inr ⟨producer, found, spent, rfl⟩⟩
    case isFalse => exact trivial

theorem subscribe_blames (supply : Supply) (id : SupplyId) :
    (supply.subscribe id).Blames (supply.Breaks (.subscribe id)) := by
  unfold subscribe
  split
  case h_1 absent => exact .unknown (.inl absent)
  case h_2 producer found =>
    split
    case isTrue spent => exact .refused (.subscribes found spent)
    case isFalse =>
      dsimp only
      split
      case h_1 => exact trivial
      case h_2 => split <;> exact trivial

/-- A consumer that waits is refused after it has been shown the candidates, but knows them. -/
theorem ask_blames (orderly : supply.Orderly) (number : SupplyId) :
    (supply.ask number).Blames (supply.Breaks (.ask number)) := by
  unfold ask
  split
  case h_1 absent => exact .unknown (.inr absent)
  case h_2 subscription known =>
    split
    case h_1 absent => exact .unknown (.inl absent)
    case h_2 producer found =>
      split
      case isFalse => exact trivial
      case isTrue alive =>
        have serves : supply.Serves producer number subscription := ⟨known, found, alive⟩
        dsimp only
        split
        case isTrue closed => exact .refused (.asks serves closed)
        case isFalse =>
          split
          case h_1 => exact trivial
          case h_2 =>
            split
            case h_1 => exact trivial
            case h_2 =>
              split
              case isTrue => exact trivial
              case isFalse =>
                split
                case isFalse => split <;> exact trivial
                case isTrue waits =>
                  rw [orderly.put_refresh_eq_self serves waits]
                  exact .refused (.waits serves waits)

/-- Detaching a consumer whose reference somebody else has given back. -/
theorem Serves.blames (serves : supply.Serves producer number subscription) {call : Call}
    (detaches : call = .close number ∨ call = .cancel number) (answer : Nat → Answer) :
    (((supply.putSubscription { subscription with closed := true }).putProducer
      { producer with waiting := producer.waiting.erase number }).releaseThen producer.id
        answer).Blames (supply.Breaks call) := by
  refine (releaseThen_blames _ producer.id answer).mono ?_
  rintro violation after ⟨rfl, ⟨absent, rfl⟩ | ⟨changed, found, spent, rfl⟩⟩
  · rw [producer?_putProducer, if_pos rfl] at absent
    cases absent
  · rw [producer?_putProducer, if_pos rfl] at found
    cases found
    exact .missing detaches serves spent

theorem close_blames (supply : Supply) (number : SupplyId) :
    (supply.close number).Blames (supply.Breaks (.close number)) := by
  unfold close
  split
  case h_1 absent => exact .unknown (.inr absent)
  case h_2 subscription known =>
    split
    case h_1 absent => exact .unknown (.inl absent)
    case h_2 producer found =>
      split
      case isFalse => exact trivial
      case isTrue alive =>
        have serves : supply.Serves producer number subscription := ⟨known, found, alive⟩
        split
        case isTrue closed => exact .refused (.closes serves closed)
        case isFalse => exact serves.blames (.inl rfl) _

theorem cancel_blames (supply : Supply) (number : SupplyId) :
    (supply.cancel number).Blames (supply.Breaks (.cancel number)) := by
  unfold cancel
  split
  case h_1 absent => exact .unknown (.inr absent)
  case h_2 subscription known =>
    split
    case h_1 absent => exact .unknown (.inl absent)
    case h_2 producer found =>
      split
      case isFalse => exact trivial
      case isTrue waits =>
        exact Serves.blames ⟨known, found, (Bool.and_eq_true_iff.mp waits).1⟩ (.inr rfl) _

/-- A candidate that is declared is refused or handed out. -/
theorem push_blames (supply : Supply) (id : SupplyId) (value : Candidate) :
    (supply.push id value).Blames (supply.Breaks (.push id value)) := by
  unfold push
  split
  case h_1 absent => exact .unknown (.inl absent)
  case h_2 producer found =>
    split
    case isTrue unmet => exact .refused (.unsatisfying found (by simpa using unmet))
    case isFalse met =>
      split
      case isTrue finished => exact .refused (.late found (by simpa using met) finished)
      case isFalse =>
        split
        case isTrue => exact trivial
        case isFalse =>
          dsimp only
          unfold deliver
          split <;> exact trivial

theorem finish_blames (supply : Supply) (id : SupplyId) :
    (supply.finish id).Blames (supply.Breaks (.finish id)) := by
  unfold finish
  split
  case h_1 absent => exact .unknown (.inl absent)
  case h_2 producer found =>
    split
    case isTrue finished => exact .refused (.twice found finished)
    case isFalse =>
      dsimp only
      unfold tellEnd
      split <;> exact trivial

theorem recordFailure_blames (supply : Supply) (id : SupplyId) (cause : Failure) :
    (supply.recordFailure id cause).Blames (supply.Breaks (.recordFailure id cause)) := by
  unfold recordFailure
  split
  case h_1 absent => exact .unknown (.inl absent)
  case h_2 producer found =>
    split
    case h_1 => exact trivial
    case h_2 changed mixed recorded =>
      have breaks := Breaks.mixed found (congrArg Prod.snd recorded)
      rw [recorded] at breaks
      exact breaks

theorem addReference_blames (supply : Supply) (id : SupplyId) :
    (supply.addReference id).Blames (supply.Breaks (.addReference id)) := by
  unfold addReference
  split
  case h_1 absent => exact .unknown (.inl absent)
  case h_2 producer found =>
    split
    case isTrue spent => exact .refused (.adds found spent)
    case isFalse => exact trivial

theorem release_blames (supply : Supply) (id : SupplyId) :
    (supply.release id).Blames (supply.Breaks (.release id)) := by
  refine (releaseThen_blames supply id _).mono ?_
  rintro violation after ⟨rfl, ⟨absent, rfl⟩ | ⟨producer, found, spent, rfl⟩⟩
  · exact .unknown (.inl absent)
  · exact .refused (.releases found spent)

theorem releaseRegistered_blames (filed : supply.Filed) (requirement : Requirement) :
    (supply.releaseRegistered requirement).Blames
      (supply.Breaks (.releaseRegistered requirement)) := by
  unfold releaseRegistered
  split
  case h_1 => exact trivial
  case h_2 producer looked =>
    obtain ⟨id, registered, found⟩ := Option.bind_eq_some_iff.mp looked
    obtain rfl := (filed id producer found).1
    dsimp only
    split
    case isTrue last =>
      -- The last reference can be given back.
      have held : producer.references ≠ 0 := by
        rw [of_decide_eq_true (Bool.and_eq_true_iff.mp last).1]
        exact Nat.one_ne_zero
      have there : Supply.producer? { supply with registry := supply.registry.erase requirement }
          producer.id = some producer := found
      rw [releaseThen_of_held there held]
      exact trivial
    case isFalse =>
      refine (releaseThen_blames supply producer.id _).mono ?_
      rintro violation after ⟨rfl, ⟨absent, rfl⟩ | ⟨same, present, spent, rfl⟩⟩
      · cases absent.symm.trans found
      · cases found.symm.trans present
        exact .refused (.returns registered found spent)

theorem results_blames (supply : Supply) (id : SupplyId) :
    (supply.results id).Blames (supply.Breaks (.results id)) := by
  unfold results
  split
  case h_1 absent => exact .unknown (.inl absent)
  case h_2 producer found =>
    split
    case isTrue => exact trivial
    case isFalse unfinished => exact .refused (.early found (Bool.eq_false_iff.mpr unfinished))

theorem obtain_blames (supply : Supply) (requirement : Requirement) :
    (supply.obtain requirement).Blames (supply.Breaks (.obtain requirement)) := by
  unfold Supply.obtain
  split <;> exact trivial

/-- **A call that breaks a rule does so in one of these ways.** -/
theorem perform_blames (orderly : supply.Orderly) (call : Call) :
    (supply.perform call).Blames (supply.Breaks call) := by
  cases call with
  | create requirement => exact trivial
  | obtain requirement => exact obtain_blames supply requirement
  | releaseRegistered requirement => exact releaseRegistered_blames orderly.filed requirement
  | purge => exact trivial
  | disown id => exact trivial
  | subscribe id => exact subscribe_blames supply id
  | ask number => exact ask_blames orderly number
  | cancel number => exact cancel_blames supply number
  | close number => exact close_blames supply number
  | push id value => exact push_blames supply id value
  | finish id => exact finish_blames supply id
  | recordFailure id cause => exact recordFailure_blames supply id cause
  | addReference id => exact addReference_blames supply id
  | release id => exact release_blames supply id
  | results id => exact results_blames supply id
  | seek id => exact trivial

/-- A call that goes on breaks a rule only if it finds a reference missing, and leaves all as it
is then. -/
theorem resume_blames (supply : Supply) :
    supply.resume.Blames fun _ after => after = { supply with agenda := [] } := by
  unfold resume
  split
  case h_1 => exact trivial
  case h_2 frame outer agenda =>
    cases frame with
    | answering producer answer => exact trivial
    | releasing id answer => exact (releaseThen_blames _ id _).mono fun _ _ blamed => blamed.1
    | delivering id deliveries => cases deliveries <;> exact trivial
    | failing id failure numbers =>
      dsimp only
      have blames := releaseThen_blames { supply with agenda := outer } id fun _ => .done
      split
      case h_1 => cases numbers <;> exact trivial
      case h_2 => exact blames.mono fun _ _ blamed => blamed.1
    | installing requirement =>
      dsimp only
      unfold install
      split <;> exact trivial

/-! ## Along a usage -/

theorem orderly_empty : Orderly {} := ⟨tidy_empty, aligned_empty, fun _ _ found => by cases found⟩

/-- A step that breaks a rule keeps a supply in order. -/
theorem Orderly.blames (orderly : step.before.Orderly) :
    step.turn.Blames fun _ after => after.Orderly := by
  obtain ⟨before, move⟩ := step
  cases move with
  | call made => exact (perform_blames orderly made).mono fun _ _ => orderly.breaks
  | back => exact (resume_blames before).mono fun _ _ same => same ▸ orderly.giveUp

/-- So does every other step. -/
theorem Orderly.next (orderly : step.before.Orderly) : step.after.Orderly := by
  cases broken : step.turn.violation? with
  | none => exact orderly.effect (Step.effect orderly.tidy broken)
  | some violation => exact orderly.blames.reached broken

/-- **Every usage leads to a supply in order**, whatever rules it breaks. -/
theorem Usage.orderly (usage : Usage steps supply) : supply.Orderly := by
  induction usage with
  | start => exact orderly_empty
  | step _ move ih => exact ih.next
  | fetch _ requirement ih => exact ih.kept (kept_fetch _ requirement)

end Supply

end ValueEngine
