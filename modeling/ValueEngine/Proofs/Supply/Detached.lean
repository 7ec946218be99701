import ValueEngine.Proofs.Supply.Pace

/-!
# Detached consumers

A consumer that waits is not detached, nobody waits for a producer that is finished, and
whoever is to be told the end is detached already (`Supply.Aligned`). So a consumer that
detaches itself is not going to be told the end. Candidates that a call was about to
give it then are another matter: the call goes on and gives them. That is all that can
reach the consumer, unless it asks although its producer is gone
(`Supply.Shut.effect`).
-/

set_option autoImplicit false

namespace ValueEngine.Supply

/-! ## Who waits -/

/-- Something holds of the candidates and the subscription of everybody who waits. -/
def OfWaiting (holds : List Candidate → Subscription → Prop) (supply : Supply) : Prop :=
  ∀ id offer, supply.offer? id = some offer → ∀ number ∈ offer.waiting,
    ∀ subscription, supply.subscription? number = some subscription →
      holds offer.results subscription

namespace OfWaiting

variable {holds : List Candidate → Subscription → Prop} {supply after : Supply}
  {offer changed : Offer} {waiting : SortedSet SupplyId} {subscription : Subscription}
  {event : Option SupplyEvent}

/-- It goes on holding as long as everything is kept. -/
theorem kept (before : supply.OfWaiting holds) (kept : supply.Kept after) :
    after.OfWaiting holds := by
  intro id offer found number member subscription known
  rw [kept.subscription_eq] at known
  rcases kept.offer_eq id with same | ⟨_, _, requirement, new⟩
  · exact before id offer (same.symm.trans found) number member subscription known
  · cases found.symm.trans new
    exact absurd member (SortedSet.not_mem_empty number)

/-- A consumer moves. It has to hold of that one. -/
theorem moves (before : supply.OfWaiting holds) (tidy : supply.Tidy)
    (moves : supply.Moves offer waiting subscription after)
    (mine : subscription.id ∈ waiting → holds offer.results subscription) :
    after.OfWaiting holds := by
  intro id now found number member other known
  rw [moves.offer_eq] at found
  rw [moves.subscription_eq] at known
  split at found
  case isTrue same =>
    cases found
    split at known
    case isTrue own =>
      cases known
      exact mine (own ▸ member)
    case isFalse different =>
      exact before offer.id offer moves.offered number
        ((moves.waiting_iff number different).mp member) other known
  case isFalse elsewhere =>
    split at known
    case isTrue own =>
      obtain ⟨earlier, present, producer⟩ := tidy.waits id now found number member
      exact absurd ((moves.producer_before earlier (own ▸ present)).symm.trans producer) elsewhere
    case isFalse => exact before id now found number member other known

/-- A producer announces something. Nobody waits for it any more. -/
theorem announces (before : supply.OfWaiting holds) (tidy : supply.Tidy)
    {change : Subscription → Subscription}
    (announces : supply.Announces offer changed change after) : after.OfWaiting holds := by
  intro id now found number member subscription known
  rw [announces.offer_eq] at found
  split at found
  case isTrue =>
    cases found
    rw [announces.waiting_eq] at member
    exact absurd member (SortedSet.not_mem_empty number)
  case isFalse elsewhere =>
    obtain ⟨earlier, present, producer⟩ := tidy.waits id now found number member
    have idle : number ∉ offer.waiting := fun waits => by
      obtain ⟨_, same, owner⟩ := tidy.waits _ offer announces.offered number waits
      cases present.symm.trans same
      exact elsewhere (owner.symm.trans producer)
    rw [announces.subscription_eq, if_neg idle] at known
    exact before id now found number member subscription known

theorem hands (before : supply.OfWaiting holds) (hands : supply.Hands event after) :
    after.OfWaiting holds := by
  intro id offer found number member subscription known
  exact before id offer ((hands.offer_eq id).symm.trans found) number member subscription
    ((hands.subscription_eq number).symm.trans known)

end OfWaiting

/-! ## Lists and flags -/

/-- Who waits, who is to be told the end and who is detached go together. -/
structure Aligned (supply : Supply) : Prop where
  /-- Who waits is not detached. -/
  waits : ∀ id offer, supply.offer? id = some offer → ∀ number ∈ offer.waiting,
    ∀ subscription, supply.subscription? number = some subscription → subscription.closed = false
  /-- Nobody waits for a producer that is finished. -/
  idle : ∀ id offer, supply.offer? id = some offer → offer.finished = true → offer.waiting = ∅
  /-- Who is to be told the end is detached. -/
  told : ∀ number ∈ supply.told,
    ∃ subscription, supply.subscription? number = some subscription ∧ subscription.closed = true

namespace Aligned

variable {supply after : Supply} {offer changed : Offer} {waiting : SortedSet SupplyId}
  {subscription : Subscription} {event : Option SupplyEvent}

theorem opened (aligned : supply.Aligned) :
    supply.OfWaiting fun _ subscription => subscription.closed = false := aligned.waits

/-- What keeps everything keeps lists and flags together. -/
theorem kept (aligned : supply.Aligned) (kept : supply.Kept after) : after.Aligned where
  waits := aligned.opened.kept kept
  idle id offer found finished := by
    rcases kept.offer_eq id with same | ⟨_, _, requirement, new⟩
    · exact aligned.idle id offer (same.symm.trans found) finished
    · cases found.symm.trans new
      cases finished
  told number member := by
    rw [kept.subscription_eq]
    exact aligned.told number (kept.told_eq ▸ member)

/-- A consumer moves. -/
theorem moves (aligned : supply.Aligned) (tidy : supply.Tidy)
    (moves : supply.Moves offer waiting subscription after)
    (opened : subscription.id ∈ waiting → subscription.closed = false)
    (idle : offer.finished = true → waiting = ∅)
    (stays : ∀ before, supply.subscription? subscription.id = some before →
      before.closed = true → subscription.closed = true) : after.Aligned where
  waits := aligned.opened.moves tidy moves opened
  idle id now found finished := by
    rw [moves.offer_eq] at found
    split at found
    case isTrue =>
      cases found
      exact idle finished
    case isFalse => exact aligned.idle id now found finished
  told number member := by
    rw [moves.told_eq] at member
    obtain ⟨before, known, closed⟩ := aligned.told number member
    rw [moves.subscription_eq]
    split
    case isTrue own => exact ⟨subscription, rfl, stays before (own ▸ known) closed⟩
    case isFalse => exact ⟨before, known, closed⟩

/-- A consumer subscribes. -/
theorem attaches (aligned : supply.Aligned) (tidy : supply.Tidy)
    (attached : offer.Attached supply.nextId event waiting subscription)
    (moves : supply.Moves offer waiting subscription after) : after.Aligned := by
  have new : ∀ before, supply.subscription? supply.nextId ≠ some before := fun before found =>
    absurd (tidy.subscription_id _ before found).2.1 (Nat.lt_irrefl _)
  refine aligned.moves tidy moves (fun member => ?_) (fun finished => ?_) fun before found => ?_
  · cases attached with
    | given first => rfl
    | ended first finished =>
      obtain ⟨before, found, _⟩ := tidy.waits _ offer moves.offered _ member
      exact absurd found (new before)
    | waits first unfinished => rfl
  · cases attached with
    | given first => exact aligned.idle _ offer moves.offered finished
    | ended first _ => exact aligned.idle _ offer moves.offered finished
    | waits first unfinished => cases finished.symm.trans unfinished
  · rw [attached.id_eq] at found
    exact absurd found (new before)

/-- A consumer asks and is served. -/
theorem serves (aligned : supply.Aligned) (tidy : supply.Tidy) {number : SupplyId}
    {before : Subscription} (known : supply.subscription? number = some before)
    (opened : before.closed = false) (asked : offer.Asked before event waiting subscription)
    (moves : supply.Moves offer waiting subscription after) : after.Aligned := by
  obtain rfl := tidy.id_of_subscription? known
  refine aligned.moves tidy moves (fun member => ?_) (fun finished => ?_)
    fun earlier found closed => ?_
  · cases asked with
    | given source next => exact opened
    | ended exhausted finished =>
      rw [aligned.idle _ offer moves.offered finished] at member
      exact absurd member (SortedSet.not_mem_empty _)
    | waits quiet exhausted unfinished => exact opened
  · cases asked with
    | given source next => exact aligned.idle _ offer moves.offered finished
    | ended exhausted _ => exact aligned.idle _ offer moves.offered finished
    | waits quiet exhausted unfinished => cases finished.symm.trans unfinished
  · rw [asked.id_eq] at found
    cases known.symm.trans found
    cases opened.symm.trans closed

/-- A consumer is detached. -/
theorem leaves (aligned : supply.Aligned) (tidy : supply.Tidy) {number : SupplyId}
    (leaves : supply.Leaves number event after) : after.Aligned := by
  obtain ⟨before, offer, middle, known, moves, kept, _⟩ := leaves
  refine (aligned.moves tidy moves (fun member => ?_) (fun finished => ?_)
    fun _ _ _ => rfl).kept kept
  · exact absurd (tidy.id_of_subscription? known) (SortedSet.mem_erase.mp member).2
  · refine SortedSet.eq_empty_iff.mpr fun other member => ?_
    have waited := (SortedSet.mem_erase.mp member).1
    rw [aligned.idle _ offer moves.offered finished] at waited
    exact SortedSet.not_mem_empty other waited

/-- A producer announces something to all that wait. -/
theorem announces (aligned : supply.Aligned) (tidy : supply.Tidy)
    {change : Subscription → Subscription}
    (announces : supply.Announces offer changed change after)
    (stays : ∀ before, before.closed = true → (change before).closed = true)
    (told : ∀ number ∈ after.told, number ∈ supply.told ∨
      number ∈ offer.waiting ∧ ∀ before, (change before).closed = true) : after.Aligned where
  waits := aligned.opened.announces tidy announces
  idle id now found finished := by
    rw [announces.offer_eq] at found
    split at found
    case isTrue =>
      cases found
      exact announces.waiting_eq
    case isFalse => exact aligned.idle id now found finished
  told number member := by
    rw [announces.subscription_eq]
    rcases told number member with earlier | ⟨waits, shuts⟩
    · obtain ⟨before, known, closed⟩ := aligned.told number earlier
      split
      case isTrue => exact ⟨change before, by rw [known, Option.map_some], stays before closed⟩
      case isFalse => exact ⟨before, known, closed⟩
    · obtain ⟨before, known, _⟩ := tidy.waits _ offer announces.offered number waits
      rw [if_pos waits, known]
      exact ⟨change before, rfl, shuts before⟩

/-- Handing out tells nobody who was not to be told. -/
theorem hands (aligned : supply.Aligned) (hands : supply.Hands event after) : after.Aligned where
  waits := aligned.opened.hands hands
  idle id offer found := aligned.idle id offer ((hands.offer_eq id).symm.trans found)
  told number member := by
    rw [hands.subscription_eq]
    refine aligned.told number ?_
    cases hands.handed with
    | nothing deliveries_eq told_eq => exact told_eq ▸ member
    | given due told_eq => exact told_eq ▸ member
    | told due deliveries_eq => exact due ▸ List.mem_cons_of_mem _ member

/-- **Lists and flags stay together**, whatever the effect. -/
theorem effect (aligned : supply.Aligned) (tidy : supply.Tidy) {asked : Option SupplyId}
    (effect : supply.Effect asked event after) : after.Aligned := by
  cases effect with
  | aside kept => exact aligned.kept kept.1
  | attaches attached moves => exact aligned.attaches tidy attached moves
  | serves known opened asked moves => exact aligned.serves tidy known opened asked moves
  | abandons known gone kept => exact aligned.kept kept
  | leaves leaves => exact aligned.leaves tidy leaves
  | pushes pushes hands =>
    refine (aligned.announces tidy pushes.toAnnounces (fun before closed => ?_)
      fun number member => Or.inl (pushes.told_eq ▸ member)).hands hands
    rwa [Subscription.shown_closed]
  | ends ends hands =>
    refine (aligned.announces tidy ends.toAnnounces (fun _ _ => rfl) fun number member => ?_).hands
      hands
    rw [ends.told_eq] at member
    exact (List.mem_append.mp member).symm.imp_right fun waits => ⟨waits, fun _ => rfl⟩
  | hands kept hands => exact (aligned.kept kept).hands hands

end Aligned

/-! ## What reaches a detached consumer -/

/-- A consumer is detached, and is not to be told the end. -/
structure Shut (number : SupplyId) (supply : Supply) : Prop where
  closed : ∃ subscription, supply.subscription? number = some subscription ∧
    subscription.closed = true
  untold : number ∉ supply.told

/-- What an effect may bring to a detached consumer: a candidate that was on its way, or the
news that its producer is gone when it asks. -/
structure Reaches (number : SupplyId) (supply : Supply) (asked : Option SupplyId)
    (event : Option SupplyEvent) (after : Supply) : Prop where
  shut : after.Shut number
  received_eq : received number (event.toList.map .raised) ++ valuesFor number after.deliveries =
    valuesFor number supply.deliveries
  abandoned : ∀ failure, event = some (.failed number failure) → asked = some number ∧
    failure = none ∧ ∃ subscription, supply.subscription? number = some subscription ∧
      supply.isAlive subscription.producer = false

namespace Shut

variable {number : SupplyId} {supply after middle : Supply} {offer : Offer}
  {waiting : SortedSet SupplyId} {subscription : Subscription} {asked : Option SupplyId}
  {event : Option SupplyEvent}

/-- Nothing reaches a consumer when the event is not for it. -/
theorem reaches_of_elsewhere (shut : after.Shut number)
    (elsewhere : event.bind SupplyEvent.consumer? ≠ some number)
    (deliveries_eq : valuesFor number after.deliveries = valuesFor number supply.deliveries) :
    Reaches number supply asked event after where
  shut := shut
  received_eq := by
    rw [(silent_raised elsewhere).received_eq, List.nil_append, deliveries_eq]
  abandoned failure raised := by
    subst raised
    exact absurd rfl elsewhere

theorem kept (shut : supply.Shut number) (kept : supply.Kept after) : after.Shut number where
  closed := by
    rw [kept.subscription_eq]
    exact shut.closed
  untold := kept.told_eq ▸ shut.untold

/-- Another consumer moves. -/
theorem moves (shut : supply.Shut number)
    (moves : supply.Moves offer waiting subscription after)
    (other : subscription.id = number → subscription.closed = true) : after.Shut number where
  closed := by
    rw [moves.subscription_eq]
    split
    case isTrue own => exact ⟨subscription, rfl, other own⟩
    case isFalse => exact shut.closed
  untold := moves.told_eq ▸ shut.untold

/-- A detached consumer does not wait. -/
theorem idle (shut : supply.Shut number) (aligned : supply.Aligned) {id : SupplyId}
    (found : supply.offer? id = some offer) : number ∉ offer.waiting := by
  intro member
  obtain ⟨subscription, known, closed⟩ := shut.closed
  cases (aligned.waits id offer found number member subscription known).symm.trans closed

/-- What is handed out to a detached consumer is a candidate that was on its way. -/
theorem hands (shut : middle.Shut number)
    (same : valuesFor number middle.deliveries = valuesFor number supply.deliveries)
    (hands : middle.Hands event after) : Reaches number supply asked event after := by
  have closed : ∃ subscription, after.subscription? number = some subscription ∧
      subscription.closed = true := by
    rw [hands.subscription_eq]
    exact shut.closed
  cases hands.handed with
  | nothing deliveries_eq told_eq =>
    exact reaches_of_elsewhere ⟨closed, told_eq ▸ shut.untold⟩ nofun (by rw [deliveries_eq, same])
  | @given other value due told_eq =>
    refine ⟨⟨closed, told_eq ▸ shut.untold⟩, ?_, nofun⟩
    rw [← same, due]
    by_cases mine : other = number
    · subst mine
      rw [valuesFor_cons_self]
      exact congrArg (· ++ _) (received_resolved other value)
    · have elsewhere : (some (SupplyEvent.resolved other value)).bind SupplyEvent.consumer? ≠
          some number := fun found => mine (Option.some.inj found)
      rw [valuesFor_cons_of_ne mine, (silent_raised elsewhere).received_eq, List.nil_append]
  | @told other failure due deliveries_eq =>
    have mine : other ≠ number := fun same => shut.untold (due ▸ same ▸ List.mem_cons_self)
    refine reaches_of_elsewhere ⟨closed, fun member => ?_⟩
      (fun found => mine (Option.some.inj found)) (by rw [deliveries_eq, same])
    exact shut.untold (due ▸ List.mem_cons_of_mem _ member)

/-- An announcement does not concern a consumer that does not wait. -/
theorem announces (shut : supply.Shut number) {changed : Offer}
    {change : Subscription → Subscription}
    (announces : supply.Announces offer changed change after) (idle : number ∉ offer.waiting)
    (untold : number ∉ after.told) : after.Shut number where
  closed := by
    rw [announces.subscription_eq, if_neg idle]
    exact shut.closed
  untold := untold

/-- A consumer that is detached while it is attached is not to be told the end. -/
theorem of_leaves (tidy : supply.Tidy) (aligned : supply.Aligned)
    (known : supply.subscription? number = some subscription) (opened : subscription.closed = false)
    (leaves : supply.Leaves number event after) : after.Shut number := by
  obtain ⟨before, offer, middle, found, moves, kept, _⟩ := leaves
  obtain rfl := tidy.id_of_subscription? found
  refine Shut.kept ⟨⟨{ before with closed := true }, ?_, rfl⟩, fun member => ?_⟩ kept
  · rw [moves.subscription_eq, if_pos rfl]
  · obtain ⟨other, same, closed⟩ := aligned.told before.id (moves.told_eq ▸ member)
    cases known.symm.trans same
    cases opened.symm.trans closed

/-- **Only what was on its way reaches a detached consumer**, unless it asks although its
producer is gone. -/
theorem effect (shut : supply.Shut number) (tidy : supply.Tidy) (aligned : supply.Aligned)
    (effect : supply.Effect asked event after) : Reaches number supply asked event after := by
  obtain ⟨mine, known, closed⟩ := shut.closed
  cases effect with
  | aside kept =>
    refine reaches_of_elsewhere (shut.kept kept.1) (fun found => ?_) (by rw [kept.1.deliveries_eq])
    rw [kept.2] at found
    cases found
  | @attaches _ _ _ _ subscription attached moves =>
    have other : subscription.id ≠ number := fun same => by
      have below := (tidy.subscription_id number mine known).2.1
      rw [← same, attached.id_eq] at below
      exact Nat.lt_irrefl _ below
    refine reaches_of_elsewhere (shut.moves moves fun same => absurd same other) (fun found => ?_)
      (by rw [moves.deliveries_eq])
    exact other (attached.id_eq.trans (attached.consumer_eq found))
  | @serves asking before _ _ _ _ subscription found opened asked moves =>
    have other : before.id ≠ number := fun same => by
      rw [tidy.id_of_subscription? found] at same
      subst same
      cases known.symm.trans found
      cases opened.symm.trans closed
    refine reaches_of_elsewhere (shut.moves moves fun same => ?_) (fun raised => ?_)
      (by rw [moves.deliveries_eq])
    · exact absurd (asked.id_eq.symm.trans same) other
    · exact other (asked.consumer_eq raised)
  | @abandons asking before _ found gone kept =>
    refine ⟨shut.kept kept, ?_, fun failure raised => ?_⟩
    · rw [kept.deliveries_eq]
      rfl
    · cases raised
      exact ⟨rfl, rfl, before, found, gone⟩
  | @leaves leaving _ _ leaves =>
    obtain ⟨before, offer, middle, found, moves, kept, quiet⟩ := leaves
    refine reaches_of_elsewhere ((shut.moves moves fun _ => rfl).kept kept) (fun raised => ?_)
      (by rw [kept.deliveries_eq, moves.deliveries_eq])
    rw [quiet] at raised
    cases raised
  | @pushes _ _ pushed offer _ pushes hands =>
    have idle := shut.idle aligned pushes.offered
    refine (shut.announces pushes.toAnnounces idle (pushes.told_eq ▸ shut.untold)).hands ?_ hands
    rw [pushes.values_eq, if_neg idle, List.nil_append]
  | @ends _ _ ended offer ends hands =>
    have idle := shut.idle aligned ends.offered
    have untold : number ∉ ended.told := by
      rw [ends.told_eq]
      exact fun member => (List.mem_append.mp member).elim idle shut.untold
    exact (shut.announces ends.toAnnounces idle untold).hands (by rw [ends.deliveries_eq]) hands
  | hands kept hands => exact (shut.kept kept).hands (by rw [kept.deliveries_eq]) hands

end Shut

end ValueEngine.Supply
