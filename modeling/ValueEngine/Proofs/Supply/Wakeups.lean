import ValueEngine.Proofs.Supply.Received

/-!
# No wake-up is lost

Only a consumer that finds nobody waiting has the source asked for more (`Supply.Queues`). The
others rely on it, and so does whoever waits from the start, although nobody has asked then. None of
them is forgotten all the same: a candidate that is accepted is given to everybody who waits, so
that nobody waits any more, and a consumer that subscribes later does not wait. So if somebody waits
although there are candidates, the first who did so since the last of them was accepted has had the
source asked (`Supply.Usage.exists_wakes`).

When a source is asked it is because of a single consumer, the one that has just asked, or because
user code says so (`Step.seeks_of_sought`).
-/

set_option autoImplicit false

namespace ValueEngine

/-- What goes on is not a call, so only a call to ask is one. -/
theorem Move.eq_ask_of_asked? {move : Move} {number : SupplyId}
    (asks : move.asked? = some number) : move = .call (.ask number) := by
  cases move with
  | call made => exact congrArg Move.call (Supply.asked?_eq_some_iff.mp asks)
  | back => cases asks

/-- The producer whose source is asked at a turn. -/
def Turn.sought? : Turn → Option SupplyId
  | .event (.sought id) _ => some id
  | _ => none

namespace Step

/-- At a step a consumer asks for more, and the source of a producer is asked for it. -/
structure Wakes (step : Step) (id : SupplyId) : Prop where
  asked : ∃ number, step.move = .call (.ask number)
  sought : step.turn.sought? = some id

/-- At a step a candidate is declared and not refused. -/
structure Accepts (step : Step) (id : SupplyId) : Prop where
  pushed : ∃ value, step.move = .call (.push id value)
  taken : step.turn.answer? ≠ some (.flag false)

end Step

namespace Supply

variable {supply after : Supply} {event : Option SupplyEvent} {number id : SupplyId}

/-! ## Asking the source -/

/-- What becomes of those that wait when a consumer asks. -/
inductive Queues (supply : Supply) (number : SupplyId) : Turn → Prop where
  /-- Nobody else waits, and no source is asked. -/
  | stays {turn : Turn} (offer_eq : ∀ id, turn.supply.offer? id = supply.offer? id)
      (unsought : turn.sought? = none) : Queues supply number turn
  /-- The consumer waits, and the source is asked if nobody waited before. -/
  | joins {turn : Turn} {producer : Producer}
      (found : supply.producer? producer.id = some producer)
      (unfinished : producer.finished = false)
      (offer_eq : ∀ id, turn.supply.offer? id =
        if producer.id = id then
          some { producer.offer with waiting := producer.waiting.insert number }
        else supply.offer? id)
      (sought : turn.sought? = if producer.waiting.isEmpty then some producer.id else none) :
      Queues supply number turn

/-- **A consumer that asks has the source asked if it is the first to wait.** -/
theorem ask_queues (tidy : supply.Tidy) (number : SupplyId) :
    supply.Queues number (supply.ask number) := by
  unfold ask
  split
  case h_1 => exact .stays (fun _ => rfl) rfl
  case h_2 before known =>
    split
    case h_1 => exact .stays (fun _ => rfl) rfl
    case h_2 producer found =>
      split
      case isFalse => exact .stays (fun _ => rfl) rfl
      case isTrue =>
        dsimp only
        split
        case isTrue => exact .stays (fun _ => rfl) rfl
        case isFalse =>
          split
          case h_1 => exact .stays (fun _ => rfl) rfl
          case h_2 =>
            split
            case h_1 => exact .stays (fun _ => rfl) rfl
            case h_2 =>
              split
              case isTrue => exact .stays (fun _ => rfl) rfl
              case isFalse unfinished =>
                split
                case isTrue => exact .stays (fun _ => rfl) rfl
                case isFalse =>
                  have own := tidy.id_of_producer? found
                  have offer_eq := offer?_putProducer
                    (supply.putSubscription (before.refresh producer.results))
                    { producer with waiting := producer.waiting.insert number }
                  refine .joins (own.symm ▸ found) (Bool.eq_false_iff.mpr unfinished)
                    (fun id => ?_) ?_
                  · split <;> exact offer_eq id
                  · split <;> rfl

theorem sought?_releaseThen (supply : Supply) (id : SupplyId) (answer : Nat → Answer) :
    (supply.releaseThen id answer).sought? = none := by
  unfold releaseThen
  split
  · rfl
  · split <;> rfl

theorem sought?_deliver (supply : Supply) (id : SupplyId)
    (deliveries : List (SupplyId × Candidate)) : (supply.deliver id deliveries).sought? = none := by
  cases deliveries <;> rfl

theorem sought?_tellEnd (supply : Supply) (id : SupplyId) (failure : Option Failure)
    (numbers : List SupplyId) : (supply.tellEnd id failure numbers).sought? = none := by
  cases numbers <;> rfl

theorem sought?_obtain (supply : Supply) (requirement : Requirement) :
    (supply.obtain requirement).sought? = none := by
  unfold obtain
  split <;> rfl

theorem sought?_releaseRegistered (supply : Supply) (requirement : Requirement) :
    (supply.releaseRegistered requirement).sought? = none := by
  unfold releaseRegistered
  split
  case h_1 => rfl
  case h_2 => exact sought?_releaseThen _ _ _

theorem sought?_addReference (supply : Supply) (id : SupplyId) :
    (supply.addReference id).sought? = none := by
  unfold addReference
  split
  case h_1 => rfl
  case h_2 => split <;> rfl

theorem sought?_subscribe (supply : Supply) (id : SupplyId) :
    (supply.subscribe id).sought? = none := by
  unfold subscribe
  split
  case h_1 => rfl
  case h_2 =>
    split
    case isTrue => rfl
    case isFalse =>
      dsimp only
      split
      case h_1 => rfl
      case h_2 => split <;> rfl

theorem sought?_cancel (supply : Supply) (number : SupplyId) :
    (supply.cancel number).sought? = none := by
  unfold cancel
  split
  case h_1 => rfl
  case h_2 =>
    split
    case h_1 => rfl
    case h_2 =>
      split
      case isTrue => exact sought?_releaseThen _ _ _
      case isFalse => rfl

theorem sought?_close (supply : Supply) (number : SupplyId) :
    (supply.close number).sought? = none := by
  unfold close
  split
  case h_1 => rfl
  case h_2 =>
    split
    case h_1 => rfl
    case h_2 =>
      split
      case isTrue =>
        split
        case isTrue => rfl
        case isFalse => exact sought?_releaseThen _ _ _
      case isFalse => rfl

theorem sought?_push (supply : Supply) (id : SupplyId) (value : Candidate) :
    (supply.push id value).sought? = none := by
  unfold push
  split
  case h_1 => rfl
  case h_2 =>
    split
    case isTrue => rfl
    case isFalse =>
      split
      case isTrue => rfl
      case isFalse =>
        split
        case isTrue => rfl
        case isFalse => exact sought?_deliver _ _ _

theorem sought?_finish (supply : Supply) (id : SupplyId) : (supply.finish id).sought? = none := by
  unfold finish
  split
  case h_1 => rfl
  case h_2 =>
    split
    case isTrue => rfl
    case isFalse => exact sought?_tellEnd _ _ _ _

theorem sought?_recordFailure (supply : Supply) (id : SupplyId) (cause : Failure) :
    (supply.recordFailure id cause).sought? = none := by
  unfold recordFailure
  split
  case h_1 => rfl
  case h_2 => split <;> rfl

theorem sought?_results (supply : Supply) (id : SupplyId) : (supply.results id).sought? = none := by
  unfold results
  split
  case h_1 => rfl
  case h_2 => split <;> rfl

/-- **Other calls do not have a source asked**, unless they are for that. -/
theorem sought?_perform (supply : Supply) {call : Call} (unasked : call.asked? = none)
    (unsought : ∀ id, call ≠ .seek id) : (supply.perform call).sought? = none := by
  cases call with
  | ask number => cases unasked
  | seek id => exact absurd rfl (unsought id)
  | create requirement => rfl
  | purge => rfl
  | disown id => rfl
  | obtain requirement => exact sought?_obtain supply requirement
  | releaseRegistered requirement => exact sought?_releaseRegistered supply requirement
  | addReference id => exact sought?_addReference supply id
  | release id => exact sought?_releaseThen supply id _
  | subscribe id => exact sought?_subscribe supply id
  | cancel number => exact sought?_cancel supply number
  | close number => exact sought?_close supply number
  | push id value => exact sought?_push supply id value
  | finish id => exact sought?_finish supply id
  | recordFailure id cause => exact sought?_recordFailure supply id cause
  | results id => exact sought?_results supply id

/-- Nor do calls that go on. -/
theorem sought?_resume (supply : Supply) : supply.resume.sought? = none := by
  unfold resume
  split
  · rfl
  · dsimp only
    split
    case h_1 => rfl
    case h_2 => exact sought?_releaseThen _ _ _
    case h_3 => exact sought?_deliver _ _ _
    case h_4 failure numbers =>
      split
      · exact sought?_tellEnd _ _ _ _
      · exact sought?_releaseThen _ _ _
    case h_5 requirement =>
      rw [install]
      split <;> rfl

/-! ## Somebody waits although there are candidates -/

/-- A producer has candidates, and somebody waits for another one. -/
def IsWanted (supply : Supply) (id : SupplyId) : Prop :=
  ∃ offer, supply.offer? id = some offer ∧ offer.results ≠ [] ∧ offer.waiting ≠ ∅

namespace IsWanted

theorem of_kept (wanted : after.IsWanted id) (kept : supply.Kept after) : supply.IsWanted id := by
  obtain ⟨offer, found, candidates, waits⟩ := wanted
  rcases kept.offer_eq id with same | ⟨_, _, requirement, new⟩
  · exact ⟨offer, same.symm.trans found, candidates, waits⟩
  · cases found.symm.trans new
    exact absurd rfl candidates

theorem of_hands (wanted : after.IsWanted id) (hands : supply.Hands event after) :
    supply.IsWanted id := by
  obtain ⟨offer, found, candidates, waits⟩ := wanted
  exact ⟨offer, (hands.offer_eq id).symm.trans found, candidates, waits⟩

/-- The move of one consumer that lets nobody wait where nobody did. -/
theorem of_moves (wanted : after.IsWanted id) {offer : Offer} {waiting : SortedSet SupplyId}
    {subscription : Subscription} (moves : supply.Moves offer waiting subscription after)
    (waited : offer.results ≠ [] → waiting ≠ ∅ → offer.waiting ≠ ∅) : supply.IsWanted id := by
  obtain ⟨now, found, candidates, waits⟩ := wanted
  rw [moves.offer_eq] at found
  split at found
  case isTrue same =>
    cases found
    exact ⟨offer, same ▸ moves.offered, candidates, waited candidates waits⟩
  case isFalse => exact ⟨now, found, candidates, waits⟩

/-- An announcement goes to everybody who waits. -/
theorem of_announces (wanted : after.IsWanted id) {offer changed : Offer}
    {change : Subscription → Subscription}
    (announces : supply.Announces offer changed change after) : supply.IsWanted id := by
  obtain ⟨now, found, candidates, waits⟩ := wanted
  rw [announces.offer_eq] at found
  split at found
  case isTrue =>
    cases found
    exact absurd announces.waiting_eq waits
  case isFalse => exact ⟨now, found, candidates, waits⟩

/-- **Only a consumer that asks can be the first to wait for another candidate.** Who subscribes
when there are candidates does not wait. -/
theorem of_effect (wanted : after.IsWanted id) (effect : supply.Effect none event after) :
    supply.IsWanted id := by
  cases effect with
  | aside kept => exact wanted.of_kept kept.1
  | attaches attached moves =>
    refine wanted.of_moves moves fun candidates waits => ?_
    cases attached with
    | given first => exact waits
    | ended first finished => exact waits
    | waits first unfinished =>
      have none := Nat.le_zero.mp (List.getElem?_eq_none_iff.mp first)
      exact absurd (List.length_eq_zero_iff.mp none) candidates
  | leaves leaves =>
    obtain ⟨before, offer, middle, known, moves, kept, _⟩ := leaves
    refine (wanted.of_kept kept).of_moves moves fun _ waits none => waits ?_
    refine SortedSet.eq_empty_iff.mpr fun other member => ?_
    exact SortedSet.eq_empty_iff.mp none other (SortedSet.mem_erase.mp member).1
  | pushes pushes hands => exact (wanted.of_hands hands).of_announces pushes.toAnnounces
  | ends ends hands => exact (wanted.of_hands hands).of_announces ends.toAnnounces
  | hands kept hands => exact (wanted.of_hands hands).of_kept kept

end IsWanted

/-- A candidate that is not refused is announced. -/
theorem push_taken (tidy : supply.Tidy) {value : Candidate}
    (taken : (supply.push id value).answer? ≠ some (.flag false)) :
    (supply.push id value).Ensures fun event after =>
      ∃ offer pushed, offer.id = id ∧ supply.Pushes offer value pushed ∧
        pushed.Hands event after := by
  unfold push
  split
  case h_1 => exact trivial
  case h_2 producer found =>
    split
    case isTrue => exact trivial
    case isFalse satisfies =>
      split
      case isTrue => exact trivial
      case isFalse unfinished =>
        split
        case isTrue known =>
          refine absurd ?_ taken
          rw [push, found]
          simp only [if_neg satisfies, if_neg unfinished, if_pos known]
          rfl
        case isFalse new =>
          refine (deliver_ensures _ id _).mono fun event after hands =>
            ⟨producer.offer, _, tidy.id_of_producer? found, ?_, hands⟩
          exact tidy.pushes found (Bool.eq_false_iff.mpr unfinished) (by simpa using satisfies)
            (Bool.eq_false_iff.mpr new) rfl

end Supply

namespace Step

open Supply

variable {step : Step} {id : SupplyId}

/-- **Who waits first for another candidate has the source asked.** -/
theorem wakes_or_isWanted (tidy : step.before.Tidy) (calm : step.turn.violation? = none)
    (wanted : step.after.IsWanted id) : step.Wakes id ∨ step.before.IsWanted id := by
  have effect := Step.effect tidy calm
  cases asks : step.move.asked? with
  | none =>
    rw [asks] at effect
    exact .inr (wanted.of_effect effect)
  | some number =>
    have moved := Move.eq_ask_of_asked? asks
    have queues := ask_queues tidy number
    have turn_eq : step.before.ask number = step.turn := by
      rw [turn, moved]
      rfl
    rw [turn_eq] at queues
    obtain ⟨now, found, candidates, waits⟩ := wanted
    cases queues with
    | stays offer_eq unsought =>
      exact .inr ⟨now, (offer_eq id).symm.trans found, candidates, waits⟩
    | @joins producer present unfinished offer_eq sought =>
      change step.turn.supply.offer? id = _ at found
      rw [offer_eq] at found
      split at found
      case isFalse => exact .inr ⟨now, found, candidates, waits⟩
      case isTrue same =>
        cases found
        subst same
        by_cases nobody : producer.waiting.isEmpty = true
        · rw [if_pos nobody] at sought
          exact .inl ⟨⟨number, moved⟩, sought⟩
        · have offered := offer?_of_producer? present
          refine .inr ⟨producer.offer, offered, candidates, fun none => nobody ?_⟩
          exact SortedSet.isEmpty_iff.mpr (SortedSet.eq_empty_iff.mp none)

/-- **When a candidate is accepted nobody waits any more.** -/
theorem Accepts.not_isWanted (accepts : step.Accepts id) (tidy : step.before.Tidy)
    (calm : step.turn.violation? = none) : ¬ step.after.IsWanted id := by
  obtain ⟨before, move⟩ := step
  obtain ⟨⟨value, rfl⟩, taken⟩ := accepts
  rintro ⟨now, found, _, waits⟩
  obtain ⟨offer, pushed, rfl, pushes, hands⟩ := (push_taken tidy taken).reached calm
  have offered := (hands.offer_eq offer.id).symm.trans found
  rw [pushes.offer_eq, if_pos rfl] at offered
  cases offered
  exact waits rfl

/-- The source of a producer is asked because of a consumer that has asked for more. The producer is
not finished, and nobody else waits. -/
structure Seeks (step : Step) (id number : SupplyId) : Prop where
  moved : step.move = .call (.ask number)
  unfinished : ∃ producer, step.after.producer? id = some producer ∧ producer.finished = false ∧
    ∀ other, other ∈ producer.waiting ↔ other = number

/-- **When the source of a producer is asked only the consumer that has just asked waits**, unless
it is user code that asks the source. -/
theorem seeks_of_sought (tidy : step.before.Tidy) (sought : step.turn.sought? = some id) :
    step.move = .call (.seek id) ∨ ∃ number, step.Seeks id number := by
  obtain ⟨before, move⟩ := step
  cases move with
  | back => cases (sought?_resume before).symm.trans sought
  | call made =>
    cases asks : made.asked? with
    | none =>
      by_cases seeks : ∃ other, made = .seek other
      · obtain ⟨other, rfl⟩ := seeks
        cases sought
        exact .inl rfl
      · have unsought := sought?_perform before asks fun other same => seeks ⟨other, same⟩
        cases unsought.symm.trans sought
    | some number =>
      obtain rfl := asked?_eq_some_iff.mp asks
      refine .inr ⟨number, rfl, ?_⟩
      cases ask_queues tidy number with
      | stays offer_eq unsought => cases unsought.symm.trans sought
      | @joins producer present unfinished offer_eq sought_eq =>
        have asked : (before.ask number).sought? = some id := sought
        rw [sought_eq] at asked
        split at asked
        case isFalse => cases asked
        case isTrue nobody =>
          cases asked
          obtain ⟨now, found, same⟩ :=
            exists_producer?_of_offer? ((offer_eq producer.id).trans (if_pos rfl))
          refine ⟨now, found, (congrArg Offer.finished same).trans unfinished, fun other => ?_⟩
          rw [show now.waiting = producer.waiting.insert number from congrArg Offer.waiting same,
            SortedSet.mem_insert]
          exact or_iff_left (SortedSet.isEmpty_iff.mp nobody other)

end Step

namespace Supply

variable {supply : Supply} {steps : List Step} {id : SupplyId}

/-- **No wake-up is lost.** If somebody waits although there are candidates, the source has been
asked by a consumer since the last of them was accepted. -/
theorem Usage.exists_wakes (usage : Usage steps supply) (calm : Calm steps)
    (wanted : supply.IsWanted id) :
    ∃ opening step rest, steps = opening ++ step :: rest ∧ step.Wakes id ∧
      ∀ later ∈ rest, ¬ later.Accepts id := by
  induction usage with
  | start =>
    obtain ⟨offer, found, _⟩ := wanted
    cases found
  | fetch earlier requirement ih => exact ih calm (wanted.of_kept (kept_fetch _ requirement))
  | @step steps before earlier move ih =>
    obtain ⟨calmBefore, calmNow⟩ := calm.of_append
    have tidy := (earlier.aligned calmBefore).1
    have now := calmNow ⟨before, move⟩ List.mem_cons_self
    rcases Step.wakes_or_isWanted tidy now wanted with wakes | wantedBefore
    · exact ⟨steps, _, [], rfl, wakes, nofun⟩
    · obtain ⟨opening, step, rest, rfl, wakes, refused⟩ := ih calmBefore wantedBefore
      refine ⟨opening, step, rest ++ [⟨before, move⟩], by simp, wakes, ?_⟩
      refine List.forall_mem_append.mpr ⟨refused, List.forall_mem_singleton.mpr fun accepts => ?_⟩
      exact accepts.not_isWanted tidy now wanted

/-- What a step of a usage finds is what the usage up to it has led to. -/
theorem Usage.exists_prefix (usage : Usage steps supply) {step : Step} (member : step ∈ steps) :
    ∃ opening, opening <+: steps ∧ Usage opening step.before := by
  induction usage with
  | start => cases member
  | fetch earlier requirement ih => exact ih member
  | @step steps before earlier move ih =>
    rcases List.mem_append.mp member with early | last
    · obtain ⟨opening, cut, used⟩ := ih early
      exact ⟨opening, cut.trans (List.prefix_append steps _), used⟩
    · obtain rfl := List.mem_singleton.mp last
      exact ⟨steps, List.prefix_append steps _, earlier⟩

/-- Who waits for a producer is looked after. -/
structure Attended (steps : List Step) (supply : Supply) (producer : Producer) : Prop where
  /-- Who waits is not detached. -/
  attached : ∀ number ∈ producer.waiting, ∃ subscription,
    supply.subscription? number = some subscription ∧ subscription.producer = producer.id ∧
      subscription.closed = false
  /-- When no call is unfinished, who waits has been given all candidates, each of them once. -/
  served : supply.agenda = [] → ∀ number ∈ producer.waiting,
    (received number (traceOf steps)).Perm producer.results
  /-- Nobody waits when there will be no more candidates. -/
  idle : producer.finished = true → producer.waiting = ∅
  /-- If somebody waits although there are candidates, the source has been asked by a consumer since
  the last of them was accepted. -/
  woken : producer.results ≠ [] → producer.waiting ≠ ∅ →
    ∃ opening step rest, steps = opening ++ step :: rest ∧ step.Wakes producer.id ∧
      ∀ later ∈ rest, ¬ later.Accepts producer.id

/-- **Who waits is looked after.** However a supply is used, also by callbacks and sources while
other calls are unfinished, as long as no rule is broken: who waits for a producer is attached to it
and has been given what there is, and no wake-up is lost. The source is asked, unless user code asks
it itself, when exactly one consumer waits, which has just asked, and there may be more. -/
theorem waiting_attended (usage : Usage steps supply) (calm : Calm steps) (id : SupplyId) :
    (∀ producer, supply.producer? id = some producer → supply.Attended steps producer) ∧
      ∀ step ∈ steps, step.turn.sought? = some id →
        step.move = .call (.seek id) ∨ ∃ number, step.Seeks id number := by
  constructor
  · intro producer found
    obtain ⟨tidy, aligned⟩ := usage.aligned calm
    have offered := offer?_of_producer? found
    obtain rfl := tidy.id_of_producer? found
    exact {
      attached := fun number waits => by
        obtain ⟨subscription, known, own⟩ := tidy.waits _ _ offered number waits
        exact ⟨subscription, known, own, aligned.waits _ _ offered number waits _ known⟩
      served := fun returned number waits => usage.received_perm calm returned found waits
      idle := aligned.idle _ _ offered
      woken := fun candidates waits =>
        usage.exists_wakes calm ⟨_, offered, candidates, waits⟩ }
  · intro step member sought
    obtain ⟨opening, cut, used⟩ := usage.exists_prefix member
    exact step.seeks_of_sought (used.aligned fun early among => calm early (cut.subset among)).1
      sought

/-- Two consumers wait for the price, and the first to be given it asks for another one at once, the
second later. So the source is asked while the call that declares the price goes on. -/
def nesting : List Move :=
  [.call (.create price), .call (.subscribe 0), .call (.subscribe 0),
    .call (.push 0 (quote "spot")), .call (.ask 1), .back, .back, .call (.ask 2), .back]

theorem waiting_attended_nesting :
    ∃ (steps : List Step) (supply : Supply) (producer : Producer), Usage steps supply ∧
      Calm steps ∧ supply.agenda = [] ∧ supply.producer? 0 = some producer ∧
        producer.results = [quote "spot"] ∧ producer.waiting = .ofList [1, 2] ∧
          supply.Attended steps producer ∧ ∃ step ∈ steps, ∃ number, step.Seeks 0 number := by
  let producer : Producer :=
    { id := 0, requirement := price, results := [quote "spot"], waiting := .ofList [1, 2],
      references := 3 }
  let step : Step := ⟨endOf {} (nesting.take 4), .call (.ask 1)⟩
  have usage := (course_stepsOf {} nesting).usage
  have calm : Calm (stepsOf {} nesting) := by
    unfold Calm
    decide +kernel
  have returned : (endOf {} nesting).agenda = [] := by decide +kernel
  have found : (endOf {} nesting).producer? 0 = some producer := by decide +kernel
  have member : step ∈ stepsOf {} nesting := List.mem_of_getElem? (i := 4) rfl
  have sought : step.turn.sought? = some 0 := by decide +kernel
  obtain ⟨attended, seeks⟩ := waiting_attended usage calm 0
  exact ⟨_, _, producer, usage, calm, returned, found, rfl, rfl, attended producer found, step,
    member, (seeks step member sought).resolve_left nofun⟩

end Supply

end ValueEngine
