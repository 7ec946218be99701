import ValueEngine.Proofs.Supply.Tidy

/-!
# What consumers do

A consumer subscribes, asks, and is detached. Each of these calls changes one
subscription and who waits for its producer (`Supply.Moves`); what else it does
depends on the candidates that are known (`Offer.Attached`, `Offer.Asked`).
-/

set_option autoImplicit false

namespace ValueEngine

namespace Supply

/-- One subscription changes, and perhaps whether it waits. -/
structure Moves (supply : Supply) (offer : Offer) (waiting : SortedSet SupplyId)
    (subscription : Subscription) (after : Supply) : Prop where
  offered : supply.offer? offer.id = some offer
  producer_eq : subscription.producer = offer.id
  producer_before : ∀ before, supply.subscription? subscription.id = some before →
    before.producer = offer.id
  id_lt : subscription.id < after.nextId
  next_le : supply.nextId ≤ after.nextId
  offer_eq : ∀ id, after.offer? id =
    if offer.id = id then some { offer with waiting } else supply.offer? id
  subscription_eq : ∀ number, after.subscription? number =
    if subscription.id = number then some subscription else supply.subscription? number
  waiting_iff : ∀ number, subscription.id ≠ number →
    (number ∈ waiting ↔ number ∈ offer.waiting)
  deliveries_eq : after.deliveries = supply.deliveries
  told_eq : after.told = supply.told

variable {supply after : Supply} {offer : Offer} {waiting : SortedSet SupplyId}
  {subscription : Subscription}

/-- A subscription is still there after a move, with the same producer. -/
theorem Moves.exists_subscription (moves : supply.Moves offer waiting subscription after)
    {number : SupplyId} {before : Subscription}
    (found : supply.subscription? number = some before) :
    ∃ now, after.subscription? number = some now ∧ now.producer = before.producer := by
  rw [moves.subscription_eq]
  split
  case isTrue own =>
    exact ⟨subscription, rfl, moves.producer_eq.trans
      (moves.producer_before before (own ▸ found)).symm⟩
  case isFalse => exact ⟨before, found, rfl⟩

/-- A producer is still there after a move. -/
theorem Moves.exists_offer (moves : supply.Moves offer waiting subscription after)
    {id : SupplyId} {before : Offer} (found : supply.offer? id = some before) :
    ∃ now, after.offer? id = some now := by
  rw [moves.offer_eq]
  split
  case isTrue => exact ⟨_, rfl⟩
  case isFalse => exact ⟨before, found⟩

/-- What waits for the producer after a move is the subscription or waited before. -/
theorem Moves.exists_waiting (moves : supply.Moves offer waiting subscription after)
    (tidy : supply.Tidy) {number : SupplyId} (member : number ∈ waiting) :
    ∃ now, after.subscription? number = some now ∧ now.producer = offer.id := by
  by_cases mine : subscription.id = number
  · refine ⟨subscription, ?_, moves.producer_eq⟩
    rw [moves.subscription_eq, if_pos mine]
  · obtain ⟨before, known, same⟩ :=
      tidy.waits _ offer moves.offered number ((moves.waiting_iff number mine).mp member)
    obtain ⟨now, found, stays⟩ := moves.exists_subscription known
    exact ⟨now, found, stays.trans same⟩

/-- A move keeps the supply tidy. -/
theorem Tidy.moves (tidy : supply.Tidy)
    (moves : supply.Moves offer waiting subscription after) : after.Tidy where
  producer_id id now found := by
    rw [moves.offer_eq] at found
    split at found
    case isTrue own =>
      cases found
      exact ⟨own, own ▸ Nat.lt_of_lt_of_le
        (tidy.producer_id _ offer moves.offered).2 moves.next_le⟩
    case isFalse =>
      obtain ⟨own, below⟩ := tidy.producer_id id now found
      exact ⟨own, Nat.lt_of_lt_of_le below moves.next_le⟩
  subscription_id number now found := by
    rw [moves.subscription_eq] at found
    split at found
    case isTrue own =>
      cases found
      exact ⟨own, own ▸ moves.id_lt, moves.exists_offer (moves.producer_eq ▸ moves.offered)⟩
    case isFalse =>
      obtain ⟨own, below, before, offered⟩ := tidy.subscription_id number now found
      exact ⟨own, Nat.lt_of_lt_of_le below moves.next_le, moves.exists_offer offered⟩
  waits id now found number member := by
    rw [moves.offer_eq] at found
    split at found
    case isTrue own =>
      cases found
      obtain ⟨later, present, same⟩ := moves.exists_waiting tidy member
      exact ⟨later, present, same.trans own⟩
    case isFalse =>
      obtain ⟨before, known, same⟩ := tidy.waits id now found number member
      obtain ⟨later, present, stays⟩ := moves.exists_subscription known
      exact ⟨later, present, stays.trans same⟩
  genuine id now found := by
    rw [moves.offer_eq] at found
    split at found
    case isTrue =>
      cases found
      have before := tidy.genuine _ offer moves.offered
      exact ⟨before.distinct, before.satisfying⟩
    case isFalse => exact tidy.genuine id now found

/-- A frame that owes nothing makes no difference. -/
theorem Moves.pushFrame (moves : supply.Moves offer waiting subscription after) {frame : Frame}
    (given : frame.deliveries = []) (told : frame.told = []) :
    supply.Moves offer waiting subscription (after.pushFrame frame) := by
  have kept := kept_pushFrame after given told
  exact ⟨moves.offered, moves.producer_eq, moves.producer_before, moves.id_lt, moves.next_le,
    moves.offer_eq, moves.subscription_eq, moves.waiting_iff,
    kept.deliveries_eq.trans moves.deliveries_eq, kept.told_eq.trans moves.told_eq⟩

variable {id number next references : Nat} {producer : Producer}

/-- Writing down a producer and a subscription is a move. -/
theorem Tidy.moves_put (tidy : supply.Tidy) (found : supply.producer? id = some producer)
    (producer_eq : subscription.producer = producer.id)
    (producer_before : ∀ before, supply.subscription? subscription.id = some before →
      before.producer = producer.id)
    (next_le : supply.nextId ≤ next) (id_lt : subscription.id < next)
    (waiting_iff : ∀ number, subscription.id ≠ number →
      (number ∈ waiting ↔ number ∈ producer.waiting)) :
    supply.Moves producer.offer waiting subscription
      (({ supply with nextId := next }.putProducer
        { producer with references, waiting }).putSubscription subscription) where
  offered := tidy.offered found
  producer_eq := producer_eq
  producer_before := producer_before
  id_lt := id_lt
  next_le := next_le
  offer_eq := offer?_putProducer supply { producer with references, waiting }
  subscription_eq := subscription?_putSubscription supply subscription
  waiting_iff := waiting_iff
  deliveries_eq := rfl
  told_eq := rfl

/-- So it is for a subscription that is known. -/
theorem Tidy.moves_known (tidy : supply.Tidy) {before : Subscription}
    (known : supply.subscription? number = some before)
    (found : supply.producer? before.producer = some producer)
    (id_eq : subscription.id = before.id) (producer_eq : subscription.producer = before.producer)
    (waiting_iff : ∀ number, before.id ≠ number →
      (number ∈ waiting ↔ number ∈ producer.waiting)) :
    supply.Moves producer.offer waiting subscription
      ((supply.putSubscription subscription).putProducer { producer with waiting }) := by
  obtain ⟨own, below, _⟩ := tidy.subscription_id number before known
  refine tidy.moves_put found (producer_eq.trans (tidy.id_of_producer? found).symm) ?_
    (Nat.le_refl _) ?_ (id_eq ▸ waiting_iff)
  · intro earlier present
    rw [id_eq, own, known, Option.some.injEq] at present
    exact present ▸ (tidy.id_of_producer? found).symm
  · rw [id_eq, own]
    exact below

/-- Writing down a subscription alone is a move. -/
theorem Tidy.moves_putSubscription (tidy : supply.Tidy) {before : Subscription}
    (known : supply.subscription? number = some before)
    (found : supply.producer? before.producer = some producer) (subscription : Subscription)
    (id_eq : subscription.id = before.id) (producer_eq : subscription.producer = before.producer) :
    supply.Moves producer.offer producer.waiting subscription
      (supply.putSubscription subscription) := by
  have moves := tidy.moves_known known found id_eq producer_eq fun _ _ => Iff.rfl
  refine { moves with offer_eq := fun id => ?_ }
  rw [offer?_putSubscription]
  split
  case isTrue own => exact own ▸ tidy.offered found
  case isFalse => rfl

end Supply

/-! ## Subscribing -/

/-- How a subscription starts. -/
inductive Offer.Attached (offer : Offer) (number : SupplyId) :
    Option SupplyEvent → SortedSet SupplyId → Subscription → Prop where
  /-- It is given the first candidate. -/
  | given {value : Candidate} (first : offer.results[0]? = some value) :
      Attached offer number (some (.resolved number value)) offer.waiting
        { id := number, producer := offer.id, known := offer.results, delivered := 1 }
  /-- There is no candidate and will be none. -/
  | ended {failure : Option Failure} (first : offer.results[0]? = none)
      (finished : offer.finished = true) :
      Attached offer number (some (.failed number failure)) offer.waiting
        { id := number, producer := offer.id, known := offer.results, closed := true }
  /-- It waits for the first candidate. -/
  | waits (first : offer.results[0]? = none) (unfinished : offer.finished = false) :
      Attached offer number none (offer.waiting.insert number)
        { id := number, producer := offer.id, known := offer.results }

section Attached

variable {offer : Offer} {number : SupplyId} {event : Option SupplyEvent}
  {waiting : SortedSet SupplyId} {subscription : Subscription}

theorem Offer.Attached.id_eq (attached : offer.Attached number event waiting subscription) :
    subscription.id = number := by
  cases attached <;> rfl

/-- No other consumer is called. -/
theorem Offer.Attached.consumer_eq
    (attached : offer.Attached number event waiting subscription) {other : SupplyId}
    (found : event.bind SupplyEvent.consumer? = some other) : number = other := by
  cases attached with
  | given first => exact Option.some.inj found
  | ended first finished => exact Option.some.inj found
  | waits first unfinished => cases found

end Attached

namespace Supply

variable {supply after : Supply}

/-- A new subscription starts on the offer of its producer. -/
theorem subscribe_ensures (tidy : supply.Tidy) (id : SupplyId) :
    (supply.subscribe id).Ensures fun event after =>
      ∃ offer waiting subscription, offer.Attached supply.nextId event waiting subscription ∧
        supply.Moves offer waiting subscription after := by
  have new : ∀ (producer : Producer) (before : Subscription),
      supply.subscription? supply.nextId = some before → before.producer = producer.id :=
    fun _ before found =>
      absurd (tidy.subscription_id _ before found).2.1 (Nat.lt_irrefl _)
  unfold Supply.subscribe
  split
  case h_1 => exact trivial
  case h_2 producer found =>
    obtain rfl := tidy.id_of_producer? found
    split
    case isTrue => exact trivial
    case isFalse =>
      dsimp only
      split
      case h_1 value first =>
        exact ⟨producer.offer, _, _, .given first,
          (tidy.moves_put found rfl (new producer) (Nat.le_succ _) (Nat.lt_succ_self _)
            fun _ _ => Iff.rfl).pushFrame rfl rfl⟩
      case h_2 first =>
        split
        case isTrue finished =>
          exact ⟨producer.offer, _, _, .ended first finished,
            (tidy.moves_put found rfl (new producer) (Nat.le_succ _) (Nat.lt_succ_self _)
              fun _ _ => Iff.rfl).pushFrame rfl rfl⟩
        case isFalse unfinished =>
          refine ⟨producer.offer, _, _, .waits first (Bool.eq_false_iff.mpr unfinished),
            tidy.moves_put found rfl (new producer) (Nat.le_succ _) (Nat.lt_succ_self _) ?_⟩
          intro number different
          exact SortedSet.mem_insert.trans (or_iff_right (Ne.symm different))

end Supply

/-! ## Asking -/

/-- How a subscription goes on when its consumer asks for more. -/
inductive Offer.Asked (offer : Offer) (before : Subscription) :
    Option SupplyEvent → SortedSet SupplyId → Subscription → Prop where
  /-- The next candidate is known, perhaps only since the offer was looked at again. -/
  | given {known : List Candidate} {value : Candidate}
      (source : known = before.known ∨ known = offer.results)
      (next : known[before.delivered]? = some value) :
      Asked offer before (some (.resolved before.id value)) offer.waiting
        { before with known, delivered := before.delivered + 1 }
  /-- There is no further candidate and will be none. -/
  | ended {failure : Option Failure} (exhausted : offer.results[before.delivered]? = none)
      (finished : offer.finished = true) :
      Asked offer before (some (.failed before.id failure)) offer.waiting
        { before with known := offer.results, closed := true }
  /-- It waits; the source may be asked for more. -/
  | waits {event : Option SupplyEvent} (quiet : event.bind SupplyEvent.consumer? = none)
      (exhausted : offer.results[before.delivered]? = none)
      (unfinished : offer.finished = false) :
      Asked offer before event (offer.waiting.insert before.id)
        { before with known := offer.results }

section Asked

variable {offer : Offer} {before subscription : Subscription} {event : Option SupplyEvent}
  {waiting : SortedSet SupplyId}

theorem Offer.Asked.id_eq (asked : offer.Asked before event waiting subscription) :
    subscription.id = before.id := by
  cases asked <;> rfl

/-- No other consumer is called. -/
theorem Offer.Asked.consumer_eq (asked : offer.Asked before event waiting subscription)
    {other : SupplyId} (found : event.bind SupplyEvent.consumer? = some other) :
    before.id = other := by
  cases asked with
  | given source next => exact Option.some.inj found
  | ended exhausted finished => exact Option.some.inj found
  | waits quiet exhausted unfinished =>
    rw [quiet] at found
    cases found

end Asked

namespace Supply

variable {supply after : Supply}

/-- A consumer that asks is served from the offer of its producer, unless nobody holds
the producer any more. -/
theorem ask_ensures (tidy : supply.Tidy) (number : SupplyId) :
    (supply.ask number).Ensures fun event after =>
      ∃ before, supply.subscription? number = some before ∧
        ((before.closed = false ∧ ∃ offer waiting subscription,
            offer.Asked before event waiting subscription ∧
              supply.Moves offer waiting subscription after) ∨
          (supply.isAlive before.producer = false ∧ event = some (.failed number none) ∧
            supply.Kept after)) := by
  unfold ask
  split
  case h_1 => exact trivial
  case h_2 before known =>
    obtain rfl := tidy.id_of_subscription? known
    split
    case h_1 => exact trivial
    case h_2 producer found =>
      have own := tidy.id_of_producer? found
      split
      case isFalse gone =>
        exact ⟨before, known, Or.inr ⟨Bool.eq_false_iff.mpr (own ▸ gone), rfl,
          kept_pushFrame supply rfl rfl⟩⟩
      case isTrue =>
        dsimp only
        split
        case isTrue => exact trivial
        case isFalse opened =>
          have unclosed := Bool.eq_false_iff.mpr opened
          split
          case h_1 value next =>
            exact ⟨before, known, Or.inl ⟨unclosed, producer.offer, _, _,
              .given (Or.inl rfl) next,
              (tidy.moves_putSubscription known found before.advance rfl rfl).pushFrame rfl rfl⟩⟩
          case h_2 =>
            split
            case h_1 value next =>
              exact ⟨before, known, Or.inl ⟨unclosed, producer.offer, _, _,
                .given (Or.inr rfl) next,
                (tidy.moves_putSubscription known found
                  (before.refresh producer.results).advance rfl rfl).pushFrame rfl rfl⟩⟩
            case h_2 exhausted =>
              split
              case isTrue finished =>
                exact ⟨before, known, Or.inl ⟨unclosed, producer.offer, _, _,
                  .ended exhausted finished,
                  (tidy.moves_putSubscription known found
                    { before.refresh producer.results with closed := true } rfl rfl).pushFrame rfl rfl⟩⟩
              case isFalse unfinished =>
                split
                case isTrue => exact trivial
                case isFalse =>
                  have moves : supply.Moves producer.offer (producer.waiting.insert before.id)
                      { before with known := producer.results } _ :=
                    tidy.moves_known known found rfl rfl fun other different =>
                      SortedSet.mem_insert.trans (or_iff_right (Ne.symm different))
                  split
                  case isTrue =>
                    exact ⟨before, known, Or.inl ⟨unclosed, producer.offer, _, _,
                      .waits rfl exhausted (Bool.eq_false_iff.mpr unfinished),
                      moves.pushFrame rfl rfl⟩⟩
                  case isFalse =>
                    exact ⟨before, known, Or.inl ⟨unclosed, producer.offer, _, _,
                      .waits rfl exhausted (Bool.eq_false_iff.mpr unfinished), moves⟩⟩

/-! ## Detaching -/

/-- A subscription is closed and does not wait any more; then its reference is given
back. -/
def Leaves (supply : Supply) (number : SupplyId) (event : Option SupplyEvent)
    (after : Supply) : Prop :=
  ∃ before offer middle, supply.subscription? number = some before ∧
    supply.Moves offer (offer.waiting.erase number) { before with closed := true } middle ∧
      middle.KeptAside event after

/-- Closing a subscription and giving back its reference. -/
theorem Tidy.leaves (tidy : supply.Tidy) {number : SupplyId} {before : Subscription}
    {producer : Producer} (known : supply.subscription? number = some before)
    (found : supply.producer? before.producer = some producer) (answer : Nat → Answer) :
    (((supply.putSubscription { before with closed := true }).putProducer
      { producer with waiting := producer.waiting.erase number }).releaseThen producer.id
        answer).Ensures (supply.Leaves number) := by
  have moves : supply.Moves producer.offer (producer.waiting.erase number)
      { before with closed := true } _ :=
    tidy.moves_known known found rfl rfl fun other different =>
      SortedSet.mem_erase.trans (and_iff_left fun same =>
        different ((tidy.id_of_subscription? known).trans same.symm))
  exact (releaseThen_kept (tidy.moves moves) producer.id answer).mono fun _ _ kept =>
    ⟨before, producer.offer, _, known, moves, kept⟩

theorem cancel_ensures (tidy : supply.Tidy) (number : SupplyId) :
    (supply.cancel number).Ensures fun event after =>
      supply.KeptAside event after ∨ supply.Leaves number event after := by
  unfold cancel
  split
  case h_1 => exact trivial
  case h_2 before known =>
    split
    case h_1 => exact trivial
    case h_2 producer found =>
      split
      case isTrue => exact (tidy.leaves known found _).mono fun _ _ leaves => Or.inr leaves
      case isFalse => exact Or.inl ⟨Kept.refl supply, rfl⟩

theorem close_ensures (tidy : supply.Tidy) (number : SupplyId) :
    (supply.close number).Ensures fun event after =>
      supply.KeptAside event after ∨ supply.Leaves number event after := by
  unfold close
  split
  case h_1 => exact trivial
  case h_2 before known =>
    split
    case h_1 => exact trivial
    case h_2 producer found =>
      split
      case isTrue =>
        split
        case isTrue => exact trivial
        case isFalse => exact (tidy.leaves known found _).mono fun _ _ leaves => Or.inr leaves
      case isFalse => exact Or.inl ⟨Kept.refl supply, rfl⟩

end Supply

end ValueEngine
