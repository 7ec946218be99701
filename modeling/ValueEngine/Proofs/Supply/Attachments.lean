import ValueEngine.Proofs.Supply.Entries

/-!
# What consumers enter into the books

A consumer takes a reference on its producer when it subscribes, and gives it back when it
detaches: at once if it does so by a call, and when its code returns if it is told the
end. With that every step is entered (`Step.enters`).
-/

set_option autoImplicit false

namespace ValueEngine

namespace Supply

open Move

variable {supply after : Supply} {id number : SupplyId} {producer : Producer}
  {before subscription : Subscription}

/-! ## Flags -/

/-- Writing down a subscription with the flag that its consumer has changes no flag. -/
theorem isClosed_keep (id_eq : subscription.id = number)
    (same : subscription.closed = supply.isClosed number) (other : SupplyId) :
    (supply.putSubscription subscription).isClosed other = supply.isClosed other := by
  rw [isClosed_putSubscription, id_eq]
  split
  case isTrue equal => rw [same, equal]
  case isFalse => rfl

/-- Writing down a subscription as closed detaches its consumer. -/
theorem isClosed_shut (id_eq : subscription.id = number)
    (opened : supply.isClosed number = false) (closed : subscription.closed = true)
    (other : SupplyId) :
    ((supply.putSubscription subscription).isClosed other).toNat =
      (supply.isClosed other).toNat + [number].count other := by
  rw [isClosed_putSubscription, id_eq]
  by_cases same : number = other
  · subst same
    simp [opened, closed]
  · simp [same]

/-! ## Subscribing -/

theorem owner?_nextId (tidy : supply.Tidy) : supply.owner? supply.nextId = none := by
  unfold owner?
  cases known : supply.subscription? supply.nextId with
  | none => rfl
  | some before => exact absurd (tidy.subscription_id _ before known).2.1 (Nat.lt_irrefl _)

theorem isClosed_nextId (tidy : supply.Tidy) : supply.isClosed supply.nextId = false := by
  unfold isClosed
  cases known : supply.subscription? supply.nextId with
  | none => rfl
  | some before => exact absurd (tidy.subscription_id _ before known).2.1 (Nat.lt_irrefl _)

/-- The supply when a consumer has subscribed, before it is told anything. -/
def withConsumer (supply : Supply) (producer : Producer) (waiting : SortedSet SupplyId)
    (subscription : Subscription) : Supply :=
  ({ supply with nextId := supply.nextId + 1 }.putProducer
    { producer with references := producer.references + 1, waiting }).putSubscription subscription

section Joining

variable (waiting : SortedSet SupplyId)

theorem references_withConsumer (found : supply.producer? id = some producer)
    (own : producer.id = id) (other : SupplyId) :
    (supply.withConsumer producer waiting subscription).references other =
      supply.references other + [id].count other := by
  rw [withConsumer, references_putSubscription, references_putProducer, own]
  by_cases same : id = other
  · subst same
    simp [references_of_found found]
  · simp [same]
    rfl

theorem owner_withConsumer (new : subscription.id = supply.nextId) (tidy : supply.Tidy)
    (producer_eq : subscription.producer = id)
    (number other : SupplyId) :
    (supply.withConsumer producer waiting subscription).owner? number = some other ↔
      supply.owner? number = some other ∨
        some (Attachment.mk supply.nextId id) = some ⟨number, other⟩ := by
  rw [withConsumer, owner?_putSubscription, new, producer_eq]
  by_cases same : supply.nextId = number
  · subst same
    simp [owner?_nextId tidy]
  · have elsewhere : ({ supply with nextId := supply.nextId + 1 }.putProducer
        { producer with references := producer.references + 1, waiting }).owner? number =
          supply.owner? number := rfl
    simp [same, elsewhere]

end Joining

/-- A consumer subscribes and stays: it is given a value, or it waits. -/
theorem Booked.joins (tidy : supply.Tidy) (found : supply.producer? id = some producer)
    (waiting : SortedSet SupplyId) (new : subscription.id = supply.nextId)
    (producer_eq : subscription.producer = id) (opened : subscription.closed = false) :
    supply.Booked (.call (.subscribe id)) (.answer (.subscription (some supply.nextId))
        (supply.withConsumer producer waiting subscription)) ∧
      ∀ value, supply.Booked (.call (.subscribe id)) (.event (.resolved supply.nextId value)
        ((supply.withConsumer producer waiting subscription).pushFrame
          (.answering (some id) (.subscription (some supply.nextId))))) := by
  have references_eq := @references_withConsumer supply id producer subscription waiting found
    (tidy.id_of_producer? found)
  have owner_iff := @owner_withConsumer supply id producer _ waiting new tidy producer_eq
  have closed_eq : ∀ other, (supply.withConsumer producer waiting subscription).isClosed other =
      supply.isClosed other :=
    isClosed_keep new (opened.trans (isClosed_nextId tidy).symm)
  constructor
  · refine ⟨references_eq, owner_iff, fun number => ?_, fun _ => rfl,
      fun raises => absurd rfl raises⟩
    exact congrArg (fun flag => flag.toNat + supply.told.count number) (closed_eq number)
  · intro value
    refine ⟨references_eq, owner_iff, fun number => ?_, nofun, fun _ => ⟨_, rfl, rfl, rfl⟩⟩
    exact congrArg (fun flag => flag.toNat + supply.told.count number) (closed_eq number)

/-- A consumer subscribes, and is told at once that there will be nothing. -/
theorem Booked.joins_ended (tidy : supply.Tidy) (found : supply.producer? id = some producer)
    (new : subscription.id = supply.nextId) (producer_eq : subscription.producer = id)
    (closed : subscription.closed = true) (failure : Option Failure) :
    supply.Booked (.call (.subscribe id)) (.event (.failed supply.nextId failure)
      ((supply.withConsumer producer producer.waiting subscription).pushFrame
        (.releasing id (.subscription none)))) := by
  have references_eq := @references_withConsumer supply id producer subscription producer.waiting
    found (tidy.id_of_producer? found)
  have owner_iff := @owner_withConsumer supply id producer _ producer.waiting new tidy producer_eq
  have closed_eq := isClosed_shut new (isClosed_nextId tidy) closed
  have departs : (Move.call (.subscribe id)).departs? (.event (.failed supply.nextId failure)
      ((supply.withConsumer producer producer.waiting subscription).pushFrame
        (.releasing id (.subscription none)))) = some ⟨supply.nextId, id⟩ := by
    refine departs?_eq_some rfl ?_ (isAlive_pushFrame_of_eq rfl)
    exact (owner_iff supply.nextId id).mpr (Or.inr rfl)
  refine ⟨references_eq, owner_iff, fun number => ?_, nofun, fun _ => ⟨_, rfl, ?_, rfl⟩⟩
  · rw [departs]
    change ((supply.withConsumer producer producer.waiting subscription).isClosed number).toNat +
      supply.told.count number = _ + supply.told.count number + [supply.nextId].count number
    have closed_now := closed_eq number
    change ((supply.withConsumer producer producer.waiting subscription).isClosed number).toNat =
      _ at closed_now
    omega
  · rw [departs]
    rfl

theorem enters_subscribe (tidy : supply.Tidy) (id : SupplyId) :
    supply.Enters (.call (.subscribe id)) (supply.subscribe id) := by
  unfold subscribe
  split
  case h_1 => exact trivial
  case h_2 producer found =>
    split
    case isTrue => exact trivial
    case isFalse =>
      dsimp only
      split
      case h_1 value next => exact (Booked.joins tidy found producer.waiting rfl rfl rfl).2 value
      case h_2 =>
        split
        case isTrue => exact Booked.joins_ended tidy found rfl rfl rfl producer.failure
        case isFalse => exact (Booked.joins tidy found _ rfl rfl rfl).1

/-! ## Asking -/

theorem owner?_replace (known : supply.subscription? number = some before)
    (id_eq : subscription.id = number) (producer_eq : subscription.producer = before.producer)
    (other : SupplyId) :
    (supply.putSubscription subscription).owner? other = supply.owner? other := by
  rw [owner?_putSubscription, id_eq]
  split
  case isTrue same => rw [← same, owner?_of_known known, producer_eq]
  case isFalse => rfl

theorem references_waiting (found : supply.producer? id = some producer) (own : producer.id = id)
    (waiting : SortedSet SupplyId) (other : SupplyId) :
    (supply.putProducer { producer with waiting }).references other = supply.references other := by
  rw [references_putProducer, own]
  split
  case isTrue same => rw [← same, references_of_found found]
  case isFalse => rfl

section Asking

variable (known : supply.subscription? number = some before) (subscription : Subscription)
  (id_eq : subscription.id = number) (producer_eq : subscription.producer = before.producer)
include known id_eq producer_eq

/-- A consumer asks and is given a value. -/
theorem Booked.serves (closed_eq : subscription.closed = before.closed) (producer : SupplyId)
    (value : Candidate) :
    supply.Booked (.call (.ask number)) (.event (.resolved number value)
      ((supply.putSubscription subscription).pushFrame (.answering (some producer) .done))) :=
  .called (departs?_eq_none rfl) rfl (owner?_replace known id_eq producer_eq)
    (isClosed_keep id_eq (closed_eq.trans (isClosed_of_known known).symm)) rfl rfl rfl rfl
      fun _ => rfl

/-- A consumer asks and waits; the source may be asked. -/
theorem Booked.waits (closed_eq : subscription.closed = before.closed)
    (found : supply.producer? id = some producer) (own : producer.id = id)
    (waiting : SortedSet SupplyId) :
    supply.Booked (.call (.ask number)) (.answer .done
        ((supply.putSubscription subscription).putProducer { producer with waiting })) ∧
      supply.Booked (.call (.ask number)) (.event (.sought producer.id)
        (((supply.putSubscription subscription).putProducer { producer with waiting }).pushFrame
          (.answering (some producer.id) .done))) := by
  have references_eq : ∀ other, ((supply.putSubscription subscription).putProducer
      { producer with waiting }).references other = supply.references other :=
    references_waiting found own waiting
  have owner_eq := owner?_replace known id_eq producer_eq
  have closed_eq := isClosed_keep id_eq (closed_eq.trans (isClosed_of_known known).symm)
  constructor
  · exact .answered (departs?_eq_none rfl) rfl owner_eq closed_eq rfl rfl references_eq
  · exact .called (departs?_eq_none rfl) rfl owner_eq closed_eq rfl rfl rfl rfl references_eq

/-- A consumer asks and is told that there will be nothing more. -/
theorem Booked.ends (opened : before.closed = false) (closed : subscription.closed = true)
    (failure : Option Failure) :
    supply.Booked (.call (.ask number)) (.event (.failed number failure)
      ((supply.putSubscription subscription).pushFrame (.releasing before.producer .done))) := by
  have departs : (Move.call (.ask number)).departs? (.event (.failed number failure)
      ((supply.putSubscription subscription).pushFrame (.releasing before.producer .done))) =
        some ⟨number, before.producer⟩ := by
    refine departs?_eq_some rfl ?_ (isAlive_pushFrame_of_eq rfl)
    exact (owner?_replace known id_eq producer_eq number).trans (owner?_of_known known)
  refine ⟨fun _ => rfl, fun other id => ?_, fun other => ?_, nofun, fun _ => ⟨_, rfl, ?_, rfl⟩⟩
  · change (supply.putSubscription subscription).owner? other = some id ↔ _
    rw [owner?_replace known id_eq producer_eq]
    simp [joins?]
  · rw [departs]
    change ((supply.putSubscription subscription).isClosed other).toNat + supply.told.count other =
      _ + supply.told.count other + [number].count other
    rw [isClosed_shut id_eq ((isClosed_of_known known).trans opened) closed]
    omega
  · rw [departs]
    rfl

end Asking

/-- A consumer asks although its producer is gone. -/
theorem Booked.abandons (known : supply.subscription? number = some before)
    (gone : supply.isAlive before.producer = false) :
    supply.Booked (.call (.ask number)) (.event (.failed number none)
      (supply.pushFrame (.answering none .done))) := by
  refine .called (departs?_eq_none_of_gone rfl (owner?_of_known known) ?_) rfl (fun _ => rfl)
    (fun _ => rfl) rfl rfl rfl rfl fun _ => rfl
  exact (isAlive_pushFrame_of_none rfl).trans gone

theorem enters_ask (tidy : supply.Tidy) (number : SupplyId) :
    supply.Enters (.call (.ask number)) (supply.ask number) := by
  unfold ask
  split
  case h_1 => exact trivial
  case h_2 before known =>
    have number_eq := tidy.id_of_subscription? known
    split
    case h_1 => exact trivial
    case h_2 producer found =>
      have own := tidy.id_of_producer? found
      split
      case isTrue alive =>
        dsimp only
        split
        case isTrue => exact trivial
        case isFalse opened =>
          split
          case h_1 value next =>
            exact Booked.serves known before.advance number_eq rfl rfl producer.id value
          case h_2 =>
            split
            case h_1 value next =>
              exact Booked.serves known (before.refresh producer.results).advance number_eq rfl rfl
                producer.id value
            case h_2 =>
              split
              case isTrue =>
                rw [own]
                exact Booked.ends known { before.refresh producer.results with closed := true }
                  number_eq rfl (Bool.eq_false_iff.mpr opened) rfl producer.failure
              case isFalse =>
                split
                case isTrue => exact trivial
                case isFalse =>
                  have waits := Booked.waits known (before.refresh producer.results) number_eq rfl
                    rfl found own (producer.waiting.insert number)
                  split
                  case isTrue => exact waits.2
                  case isFalse => exact waits.1
      case isFalse gone =>
        rw [own] at gone
        exact Booked.abandons known (Bool.eq_false_iff.mpr gone)

/-! ## Detaching -/

/-- Whoever is detached by a call gives its reference back at once. -/
theorem enters_leaves (tidy : supply.Tidy) (known : supply.subscription? number = some before)
    (found : supply.producer? before.producer = some producer)
    (alive : supply.isAlive producer.id = true) (opened : before.closed = false) {made : Call}
    {answer : Nat → Answer} (gives : (Move.call made).gives? supply = none)
    (joins : (Move.call made).joins? supply = none)
    (parts : ∀ remaining after,
      (Move.call made).parts? (.answer (answer remaining) after) = some number)
    (takes : ∀ remaining after, (Move.call made).takes? (.answer (answer remaining) after) = none) :
    supply.Enters (.call made) (((supply.putSubscription { before with closed := true }).putProducer
      { producer with waiting := producer.waiting.erase number }).releaseThen producer.id
        answer) := by
  have own := tidy.id_of_producer? found
  have number_eq := tidy.id_of_subscription? known
  let shut : Subscription := { before with closed := true }
  have shut_id : shut.id = number := number_eq
  let middle := (supply.putSubscription shut).putProducer
    { producer with waiting := producer.waiting.erase number }
  have same : ∀ changed, middle.producer? producer.id = some changed →
      changed = { producer with waiting := producer.waiting.erase number } := by
    intro changed foundChanged
    rw [producer?_putProducer, if_pos rfl] at foundChanged
    exact (Option.some.inj foundChanged).symm
  refine releaseThen_enters producer.id answer (fun changed foundChanged none => ?_)
    fun changed foundChanged held => ?_
  · obtain rfl := same changed foundChanged
    refine ⟨?_, .leaves ?_ ((isClosed_of_known known).trans opened)⟩
    · have there : supply.producer? producer.id = some producer := by rwa [own]
      exact (references_of_found there).trans none
    · exact (owner?_of_known known).trans (congrArg some own.symm)
  let after := middle.putProducer { changed with references := changed.references - 1 }
  have owner_eq : ∀ other, after.owner? other = supply.owner? other :=
    owner?_replace known shut_id rfl
  have departs : (Move.call made).departs? (.answer (answer (changed.references - 1)) after) =
      some ⟨number, before.producer⟩ := by
    refine departs?_eq_some (parts _ _) ?_ (own ▸ alive)
    exact (owner_eq number).trans (owner?_of_known known)
  have references_eq : ∀ other, after.references other + [before.producer].count other =
      supply.references other := by
    intro other
    have own_changed : changed.id = before.producer := by
      rw [same changed foundChanged]
      exact own
    refine (references_spend (own ▸ foundChanged) own_changed held other).trans ?_
    exact references_waiting found own _ other
  refine ⟨fun other => ?_, fun other id => ?_, fun other => ?_, fun _ => rfl, nofun⟩
  · rw [returns?_of_answer, departs, gives, joins, takes]
    exact references_eq other
  · change after.owner? other = some id ↔ _
    rw [owner_eq, joins]
    simp
  · rw [departs]
    have closed_eq : (after.isClosed other).toNat =
        (supply.isClosed other).toNat + [number].count other :=
      isClosed_shut shut_id ((isClosed_of_known known).trans opened) rfl other
    change (after.isClosed other).toNat + supply.told.count other =
      _ + supply.told.count other + [number].count other
    omega

theorem enters_close (tidy : supply.Tidy) (number : SupplyId) :
    supply.Enters (.call (.close number)) (supply.close number) := by
  unfold close
  split
  case h_1 => exact trivial
  case h_2 before known =>
    split
    case h_1 => exact trivial
    case h_2 producer found =>
      split
      case isTrue alive =>
        split
        case isTrue => exact trivial
        case isFalse opened =>
          exact enters_leaves tidy known found alive (Bool.eq_false_iff.mpr opened) rfl rfl
            (fun _ _ => rfl) fun _ _ => rfl
      case isFalse gone =>
        rw [tidy.id_of_producer? found] at gone
        have stays : (Move.call (.close number)).departs? (.answer .done supply) = none :=
          departs?_eq_none_of_gone rfl (owner?_of_known known) (Bool.eq_false_iff.mpr gone)
        refine .answered stays rfl (fun _ => rfl) (fun _ => rfl) rfl rfl fun other => ?_
        rw [returns?_of_answer, stays]
        rfl

theorem enters_cancel (tidy : supply.Tidy) (aligned : supply.Aligned) (number : SupplyId) :
    supply.Enters (.call (.cancel number)) (supply.cancel number) := by
  unfold cancel
  split
  case h_1 => exact trivial
  case h_2 before known =>
    split
    case h_1 => exact trivial
    case h_2 producer found =>
      split
      case isTrue waits =>
        obtain ⟨alive, member⟩ := Bool.and_eq_true_iff.mp waits
        have opened := aligned.waits _ _ (tidy.offered found) number (of_decide_eq_true member)
          before known
        exact enters_leaves tidy known found alive opened rfl rfl (fun _ _ => rfl) fun _ _ => rfl
      case isFalse =>
        exact .aside rfl rfl rfl rfl fun _ => rfl

/-! ## All steps -/

/-- Every call is entered. -/
theorem perform_enters (tidy : supply.Tidy) (aligned : supply.Aligned) (made : Call) :
    supply.Enters (.call made) (supply.perform made) := by
  cases made with
  | create requirement => exact enters_create tidy requirement
  | obtain requirement => exact enters_obtain tidy requirement
  | releaseRegistered requirement => exact enters_releaseRegistered tidy requirement
  | purge => exact enters_purge supply
  | disown id => exact enters_disown supply id
  | subscribe id => exact enters_subscribe tidy id
  | ask number => exact enters_ask tidy number
  | cancel number => exact enters_cancel tidy aligned number
  | close number => exact enters_close tidy number
  | push id value => exact enters_push tidy id value
  | finish id => exact enters_finish tidy aligned id
  | recordFailure id cause => exact enters_recordFailure tidy id cause
  | addReference id => exact enters_addReference tidy id
  | release id => exact enters_release tidy id
  | results id => exact enters_results supply id
  | seek id => exact enters_seek supply id

/-- An unfinished call finds no reference to give back. -/
theorem Tidy.overspent_of_frame (tidy : supply.Tidy) {frame : Frame}
    (owes : frame.owes? = some id) (found : supply.producer? id = some producer)
    (none : producer.references = 0) :
    (supply.pushFrame frame).references producer.id = 0 ∧
      (supply.pushFrame frame).Repays producer.id .back := by
  rw [tidy.id_of_producer? found]
  exact ⟨(references_of_found found).trans none, .owes rfl owes⟩

/-- What is left of a call is entered when it goes on. -/
theorem resume_pushFrame_enters (tidy : supply.Tidy) (frame : Frame)
    (fits : (supply.pushFrame frame).Fits frame) :
    (supply.pushFrame frame).Enters .back (supply.pushFrame frame).resume := by
  cases frame with
  | answering producer answer => exact (Opened.of_resume supply _ rfl).answers fits
  | releasing id answer =>
    refine releaseThen_enters id (fun _ => answer) (fun producer found none => ?_)
      fun producer found held => ?_
    · exact tidy.overspent_of_frame rfl found none
    · exact (Opened.of_resume_spent tidy (.releasing id answer) rfl found held).answers fits
  | delivering id deliveries => exact (Opened.of_resume supply _ rfl).deliver id deliveries
  | failing id failure numbers =>
    unfold resume releaseThen
    dsimp only [pushFrame]
    cases found : supply.producer? id with
    | none => exact trivial
    | some producer =>
      dsimp only
      by_cases none : producer.references = 0
      · rw [if_pos none]
        exact tidy.overspent_of_frame rfl found none
      · rw [if_neg none]
        exact (Opened.of_resume_spent tidy (.failing id failure numbers) rfl found none).tellEnd
          fits failure
  | installing requirement => exact (Opened.of_resume supply _ rfl).install tidy requirement

/-- So is every call that goes on. -/
theorem resume_enters (tidy : supply.Tidy) (fits : ∀ frame ∈ supply.agenda, supply.Fits frame) :
    supply.Enters .back supply.resume := by
  cases agenda : supply.agenda with
  | nil =>
    rw [resume, agenda]
    refine .answered (departs?_eq_none rfl) rfl (fun _ => rfl) (fun _ => rfl) rfl ?_ fun id => ?_
    · rw [agenda]
      rfl
    · simp [gives?, returns?, takes?, Turn.answer?, Answer.producer?, agenda]
  | cons frame outer =>
    have whole : { supply with agenda := outer }.pushFrame frame = supply := by
      rw [pushFrame, ← agenda]
    have fit := fits frame (agenda ▸ List.mem_cons_self)
    have rest : Tidy { supply with agenda := outer } :=
      ⟨tidy.producer_id, tidy.subscription_id, tidy.waits, tidy.genuine⟩
    rw [← whole] at fit ⊢
    exact resume_pushFrame_enters rest frame fit

end Supply

/-- **Every step is entered.** -/
theorem Step.enters {step : Step} (tidy : step.before.Tidy) (aligned : step.before.Aligned)
    (fits : ∀ frame ∈ step.before.agenda, step.before.Fits frame) :
    step.before.Enters step.move step.turn := by
  obtain ⟨before, move⟩ := step
  cases move with
  | call made => exact Supply.perform_enters tidy aligned made
  | back => exact Supply.resume_enters tidy fits

end ValueEngine
