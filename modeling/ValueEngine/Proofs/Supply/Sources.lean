import ValueEngine.Proofs.Supply.Consumers

/-!
# What sources do

A source declares candidates and the end. Either is announced to the subscriptions
that wait, all at once (`Supply.Announces`); what they are given or told is then
handed out one by one, by the call itself or by what is left of it
(`Supply.Hands`).
-/

set_option autoImplicit false

namespace ValueEngine

/-- A subscription that has looked at the candidates again, and has been given the next
one if there is one. -/
def Subscription.shown (results : List Candidate) (subscription : Subscription) :
    Subscription :=
  match (subscription.refresh results).next? with
  | none => subscription.refresh results
  | some _ => (subscription.refresh results).advance

/-- A subscription that is closed. -/
def Subscription.shut (subscription : Subscription) : Subscription :=
  { subscription with closed := true }

theorem Subscription.shown_of_none {results : List Candidate} {subscription : Subscription}
    (last : results[subscription.delivered]? = none) :
    subscription.shown results = subscription.refresh results := by
  have next : (subscription.refresh results).next? = none := last
  rw [shown, next]

theorem Subscription.shown_of_some {results : List Candidate} {subscription : Subscription}
    {value : Candidate} (further : results[subscription.delivered]? = some value) :
    subscription.shown results = (subscription.refresh results).advance := by
  have next : (subscription.refresh results).next? = some value := further
  rw [shown, next]

theorem Subscription.shown_id (results : List Candidate) (subscription : Subscription) :
    (subscription.shown results).id = subscription.id := by
  unfold shown
  split <;> rfl

theorem Subscription.shown_producer (results : List Candidate) (subscription : Subscription) :
    (subscription.shown results).producer = subscription.producer := by
  unfold shown
  split <;> rfl

theorem Subscription.shown_closed (results : List Candidate) (subscription : Subscription) :
    (subscription.shown results).closed = subscription.closed := by
  unfold shown
  split <;> rfl

/-- The candidates among some deliveries that go to one subscription. -/
def valuesFor (number : SupplyId) (deliveries : List (SupplyId × Candidate)) :
    List Candidate :=
  deliveries.filterMap fun delivery =>
    if delivery.1 = number then some delivery.2 else none

theorem valuesFor_append (number : SupplyId) (first second : List (SupplyId × Candidate)) :
    valuesFor number (first ++ second) = valuesFor number first ++ valuesFor number second :=
  List.filterMap_append

theorem valuesFor_cons_self (number : SupplyId) (value : Candidate)
    (rest : List (SupplyId × Candidate)) :
    valuesFor number ((number, value) :: rest) = value :: valuesFor number rest := by
  simp [valuesFor]

theorem valuesFor_cons_of_ne {number other : SupplyId} (different : other ≠ number)
    (value : Candidate) (rest : List (SupplyId × Candidate)) :
    valuesFor number ((other, value) :: rest) = valuesFor number rest := by
  simp [valuesFor, different]

namespace Supply

variable {supply after : Supply}

/-! ## Changing the subscriptions that wait -/

/-- Change the subscription with a number. -/
def alter (change : Subscription → Subscription) (supply : Supply) (number : SupplyId) :
    Supply :=
  match supply.subscription? number with
  | none => supply
  | some subscription => supply.putSubscription (change subscription)

/-- Every subscription stands under its number. -/
def Numbered (supply : Supply) : Prop :=
  ∀ number subscription, supply.subscription? number = some subscription →
    subscription.id = number

section Alter

variable {change : Subscription → Subscription}

theorem subscription?_alter (same : ∀ subscription, (change subscription).id = subscription.id)
    (numbered : supply.Numbered) (number other : SupplyId) :
    (supply.alter change number).subscription? other =
      if number = other then (supply.subscription? other).map change
      else supply.subscription? other := by
  unfold alter
  split
  case h_1 absent =>
    split
    case isTrue equal => rw [← equal, absent, Option.map_none]
    case isFalse => rfl
  case h_2 subscription found =>
    rw [subscription?_putSubscription, same, numbered number subscription found]
    split
    case isTrue equal => rw [← equal, found, Option.map_some]
    case isFalse => rfl

theorem numbered_alter (same : ∀ subscription, (change subscription).id = subscription.id)
    (numbered : supply.Numbered) (number : SupplyId) : (supply.alter change number).Numbered := by
  intro other subscription found
  rw [subscription?_alter same numbered] at found
  split at found
  case isTrue =>
    obtain ⟨before, known, rfl⟩ := Option.map_eq_some_iff.mp found
    exact (same before).trans (numbered other before known)
  case isFalse => exact numbered other subscription found

theorem alter_rest (change : Subscription → Subscription) (supply : Supply) (number : SupplyId) :
    (supply.alter change number).producers = supply.producers ∧
      (supply.alter change number).agenda = supply.agenda ∧
      (supply.alter change number).nextId = supply.nextId := by
  unfold alter
  split
  · exact ⟨rfl, rfl, rfl⟩
  · exact ⟨rfl, rfl, rfl⟩

theorem foldl_alter_rest (change : Subscription → Subscription) (numbers : List SupplyId)
    (supply : Supply) :
    (numbers.foldl (alter change) supply).producers = supply.producers ∧
      (numbers.foldl (alter change) supply).agenda = supply.agenda ∧
      (numbers.foldl (alter change) supply).nextId = supply.nextId := by
  induction numbers generalizing supply with
  | nil => exact ⟨rfl, rfl, rfl⟩
  | cons number numbers ih =>
    obtain ⟨producers, agenda, next⟩ := ih (supply.alter change number)
    obtain ⟨producersFirst, agendaFirst, nextFirst⟩ := alter_rest change supply number
    exact ⟨producers.trans producersFirst, agenda.trans agendaFirst, next.trans nextFirst⟩

theorem subscription?_foldl_alter
    (same : ∀ subscription, (change subscription).id = subscription.id)
    {numbers : List SupplyId} (nodup : numbers.Nodup) {supply : Supply}
    (numbered : supply.Numbered) (other : SupplyId) :
    (numbers.foldl (alter change) supply).subscription? other =
      if other ∈ numbers then (supply.subscription? other).map change
      else supply.subscription? other := by
  induction numbers generalizing supply with
  | nil => rfl
  | cons number numbers ih =>
    obtain ⟨fresh, nodup⟩ := List.nodup_cons.mp nodup
    rw [List.foldl_cons, ih nodup (numbered_alter same numbered number),
      subscription?_alter same numbered]
    by_cases first : number = other
    · rw [if_pos first, if_neg (first ▸ fresh), if_pos (first ▸ List.mem_cons_self)]
    · rw [if_neg first]
      simp only [List.mem_cons, Ne.symm first, false_or]

end Alter

/-! ## Collecting what is given -/

theorem collect_eq (results : List Candidate) (state : Supply × List (SupplyId × Candidate))
    (number : SupplyId) :
    collect results state number =
      (state.1.alter (Subscription.shown results) number,
        state.2 ++ (((state.1.subscription? number).bind fun subscription =>
          results[subscription.delivered]?).toList.map fun value => (number, value))) := by
  unfold collect alter
  split
  case h_1 absent =>
    rw [absent]
    exact Prod.ext rfl (List.append_nil _).symm
  case h_2 subscription found =>
    rw [found]
    dsimp only [Option.bind_some]
    split
    case h_1 next =>
      have last : results[subscription.delivered]? = none := next
      rw [Subscription.shown_of_none last, last]
      exact Prod.ext rfl (List.append_nil _).symm
    case h_2 value next =>
      have further : results[subscription.delivered]? = some value := next
      rw [Subscription.shown_of_some further, further]
      rfl

theorem foldl_collect_fst (results : List Candidate) (numbers : List SupplyId)
    (state : Supply × List (SupplyId × Candidate)) :
    (numbers.foldl (collect results) state).1 =
      numbers.foldl (alter (Subscription.shown results)) state.1 := by
  induction numbers generalizing state with
  | nil => rfl
  | cons number numbers ih =>
    rw [List.foldl_cons, ih, collect_eq, List.foldl_cons]

/-- Every subscription that waits is given the next candidate, once. -/
theorem valuesFor_foldl_collect (results : List Candidate) {numbers : List SupplyId}
    (nodup : numbers.Nodup) (state : Supply × List (SupplyId × Candidate))
    (numbered : state.1.Numbered) (other : SupplyId) :
    valuesFor other (numbers.foldl (collect results) state).2 =
      valuesFor other state.2 ++
        if other ∈ numbers then
          ((state.1.subscription? other).bind fun subscription =>
            results[subscription.delivered]?).toList
        else [] := by
  induction numbers generalizing state with
  | nil => exact (List.append_nil _).symm
  | cons number numbers ih =>
    obtain ⟨fresh, nodup⟩ := List.nodup_cons.mp nodup
    have same := Subscription.shown_id results
    rw [List.foldl_cons, collect_eq, ih nodup _ (numbered_alter same numbered number),
      subscription?_alter same numbered, valuesFor_append, List.append_assoc]
    refine congrArg (valuesFor other state.2 ++ ·) ?_
    by_cases first : number = other
    · subst first
      rw [if_neg fresh, if_pos List.mem_cons_self, List.append_nil]
      generalize (state.1.subscription? number).bind _ = next
      cases next with
      | none => rfl
      | some value => exact valuesFor_cons_self number value []
    · have elsewhere : ∀ next : Option Candidate,
          valuesFor other (next.toList.map fun value => (number, value)) = [] := by
        intro next
        cases next with
        | none => rfl
        | some value => exact valuesFor_cons_of_ne first value []
      rw [if_neg first, elsewhere, List.nil_append]
      simp only [List.mem_cons, Ne.symm first, false_or]

/-! ## Announcements -/

/-- An offer changes, nobody waits for it any more, and the subscriptions that waited
change with it. -/
structure Announces (supply : Supply) (offer changed : Offer)
    (change : Subscription → Subscription) (after : Supply) : Prop where
  offered : supply.offer? offer.id = some offer
  unfinished : offer.finished = false
  id_eq : changed.id = offer.id
  waiting_eq : changed.waiting = ∅
  genuine : changed.Genuine
  offer_eq : ∀ id, after.offer? id =
    if offer.id = id then some changed else supply.offer? id
  subscription_eq : ∀ number, after.subscription? number =
    if number ∈ offer.waiting then (supply.subscription? number).map change
    else supply.subscription? number
  change_id : ∀ subscription, (change subscription).id = subscription.id
  change_producer : ∀ subscription, (change subscription).producer = subscription.producer
  next_eq : after.nextId = supply.nextId

variable {offer changed : Offer} {change : Subscription → Subscription}

/-- A subscription after an announcement is one from before it. -/
theorem Announces.exists_before (announces : supply.Announces offer changed change after)
    {number : SupplyId} {subscription : Subscription}
    (found : after.subscription? number = some subscription) :
    ∃ before, supply.subscription? number = some before ∧
      subscription.id = before.id ∧ subscription.producer = before.producer := by
  rw [announces.subscription_eq] at found
  split at found
  case isTrue =>
    obtain ⟨before, known, rfl⟩ := Option.map_eq_some_iff.mp found
    exact ⟨before, known, announces.change_id before, announces.change_producer before⟩
  case isFalse => exact ⟨subscription, found, rfl, rfl⟩

/-- A subscription is still there after an announcement. -/
theorem Announces.exists_after (announces : supply.Announces offer changed change after)
    {number : SupplyId} {before : Subscription}
    (known : supply.subscription? number = some before) :
    ∃ subscription, after.subscription? number = some subscription ∧
      subscription.producer = before.producer := by
  rw [announces.subscription_eq, known]
  split
  case isTrue => exact ⟨change before, rfl, announces.change_producer before⟩
  case isFalse => exact ⟨before, rfl, rfl⟩

/-- An announcement keeps the supply tidy. -/
theorem Tidy.announces (tidy : supply.Tidy)
    (announces : supply.Announces offer changed change after) : after.Tidy where
  producer_id id now found := by
    rw [announces.next_eq]
    rw [announces.offer_eq] at found
    split at found
    case isTrue own =>
      cases found
      exact ⟨announces.id_eq.trans own, own ▸ (tidy.producer_id _ _ announces.offered).2⟩
    case isFalse => exact tidy.producer_id id now found
  subscription_id number now found := by
    obtain ⟨before, known, id_eq, producer_eq⟩ := announces.exists_before found
    obtain ⟨own, below, earlier, offered⟩ := tidy.subscription_id number before known
    rw [announces.next_eq, announces.offer_eq, producer_eq]
    refine ⟨id_eq.trans own, below, ?_⟩
    split
    case isTrue => exact ⟨changed, rfl⟩
    case isFalse => exact ⟨earlier, offered⟩
  waits id now found number member := by
    rw [announces.offer_eq] at found
    split at found
    case isTrue =>
      cases found
      rw [announces.waiting_eq] at member
      exact absurd member (SortedSet.not_mem_empty number)
    case isFalse =>
      obtain ⟨before, known, same⟩ := tidy.waits id now found number member
      obtain ⟨subscription, found, producer_eq⟩ := announces.exists_after known
      exact ⟨subscription, found, producer_eq.trans same⟩
  genuine id now found := by
    rw [announces.offer_eq] at found
    split at found
    case isTrue =>
      cases found
      exact announces.genuine
    case isFalse => exact tidy.genuine id now found

/-- Changing the subscriptions that wait for a producer, together with the producer. -/
theorem Tidy.announces_foldl (tidy : supply.Tidy) {id : SupplyId} {producer now : Producer}
    (found : supply.producer? id = some producer) (unfinished : producer.finished = false)
    (id_eq : now.id = producer.id) (waiting_eq : now.waiting = ∅) (genuine : now.offer.Genuine)
    (change_id : ∀ subscription, (change subscription).id = subscription.id)
    (change_producer : ∀ subscription, (change subscription).producer = subscription.producer) :
    supply.Announces producer.offer now.offer change
      (producer.waiting.toList.foldl (alter change) (supply.putProducer now)) := by
  obtain ⟨producers, agenda, next⟩ :=
    foldl_alter_rest change producer.waiting.toList (supply.putProducer now)
  have numbered : (supply.putProducer now).Numbered := fun _ _ known =>
    tidy.id_of_subscription? known
  refine ⟨tidy.offered found, unfinished, id_eq, waiting_eq, genuine, fun other => ?_,
    fun number => ?_, change_id, change_producer, next⟩
  · rw [offer?, producer?, producers]
    refine (offer?_putProducer supply now other).trans ?_
    rw [id_eq]
    rfl
  · rw [subscription?_foldl_alter change_id producer.waiting.nodup numbered,
      subscription?_putProducer]
    rfl

/-- A frame is left behind after an announcement. -/
theorem Announces.pushFrame (announces : supply.Announces offer changed change after)
    (frame : Frame) : supply.Announces offer changed change (after.pushFrame frame) where
  offered := announces.offered
  unfinished := announces.unfinished
  id_eq := announces.id_eq
  waiting_eq := announces.waiting_eq
  genuine := announces.genuine
  offer_eq := announces.offer_eq
  subscription_eq := announces.subscription_eq
  change_id := announces.change_id
  change_producer := announces.change_producer
  next_eq := announces.next_eq

/-! ## Handing out -/

/-- What is handed out when a call goes on: the first of the candidates to be given, or the
end to the first subscription that is to be told, or nothing any more. -/
inductive Handed (supply after : Supply) : Option SupplyEvent → Prop where
  | nothing (deliveries_eq : after.deliveries = supply.deliveries)
      (told_eq : after.told = supply.told) : Handed supply after none
  | given {number : SupplyId} {value : Candidate}
      (due : supply.deliveries = (number, value) :: after.deliveries)
      (told_eq : after.told = supply.told) :
      Handed supply after (some (.resolved number value))
  | told {number : SupplyId} {failure : Option Failure}
      (due : supply.told = number :: after.told)
      (deliveries_eq : after.deliveries = supply.deliveries) :
      Handed supply after (some (.failed number failure))

/-- Something that was on its way is handed out, and nothing else happens. -/
structure Hands (supply : Supply) (event : Option SupplyEvent) (after : Supply) : Prop where
  offer_eq : ∀ id, after.offer? id = supply.offer? id
  subscription_eq : ∀ number, after.subscription? number = supply.subscription? number
  next_eq : after.nextId = supply.nextId
  handed : supply.Handed after event

theorem deliver_ensures (supply : Supply) (id : SupplyId)
    (deliveries : List (SupplyId × Candidate)) :
    (supply.deliver id deliveries).Ensures
      (supply.pushFrame (.delivering id deliveries)).Hands := by
  cases deliveries with
  | nil => exact ⟨fun _ => rfl, fun _ => rfl, rfl, .nothing rfl rfl⟩
  | cons delivery rest => exact ⟨fun _ => rfl, fun _ => rfl, rfl, .given rfl rfl⟩

theorem tellEnd_ensures (supply : Supply) (id : SupplyId) (failure : Option Failure)
    (numbers : List SupplyId) :
    (supply.tellEnd id failure numbers).Ensures
      (supply.pushFrame (.failing id failure numbers)).Hands := by
  cases numbers with
  | nil => exact ⟨fun _ => rfl, fun _ => rfl, rfl, .nothing rfl rfl⟩
  | cons number rest => exact ⟨fun _ => rfl, fun _ => rfl, rfl, .told rfl rfl⟩

/-- Handing out keeps the supply tidy. -/
theorem Tidy.hands {event : Option SupplyEvent} (tidy : supply.Tidy)
    (hands : supply.Hands event after) : after.Tidy where
  producer_id id offer := by
    rw [hands.offer_eq, hands.next_eq]
    exact tidy.producer_id id offer
  subscription_id number subscription := by
    rw [hands.subscription_eq, hands.next_eq, hands.offer_eq]
    exact tidy.subscription_id number subscription
  waits id offer := by
    simp only [hands.offer_eq, hands.subscription_eq]
    exact tidy.waits id offer
  genuine id offer := by
    rw [hands.offer_eq]
    exact tidy.genuine id offer

/-! ## Candidates -/

/-- A new candidate is offered, and the subscriptions that wait are to be given the
next candidate each. -/
structure Pushes (supply : Supply) (offer : Offer) (value : Candidate) (after : Supply) :
    Prop extends
    supply.Announces offer { offer with results := offer.results ++ [value], waiting := ∅ }
      (Subscription.shown (offer.results ++ [value])) after where
  values_eq : ∀ number, valuesFor number after.deliveries =
    (if number ∈ offer.waiting then
      ((supply.subscription? number).bind fun subscription =>
        (offer.results ++ [value])[subscription.delivered]?).toList
    else []) ++ valuesFor number supply.deliveries
  told_eq : after.told = supply.told

/-- Showing the candidates to the subscriptions that wait announces the new one. -/
theorem Tidy.pushes (tidy : supply.Tidy) {id : SupplyId} {producer : Producer}
    {value : Candidate} (found : supply.producer? id = some producer)
    (unfinished : producer.finished = false)
    (satisfies : producer.requirement.satisfiedBy value.specification = true)
    (new : producer.offers value.specification = false)
    {state : Supply × List (SupplyId × Candidate)}
    (collected : producer.waiting.toList.foldl (collect (producer.results ++ [value]))
      (supply.putProducer (producer.add value), []) = state) :
    supply.Pushes producer.offer value (state.1.pushFrame (.delivering id state.2)) := by
  have genuine := (tidy.genuine id _ (offer?_of_producer? found)).add satisfies new
  have announces := tidy.announces_foldl found unfinished (Eq.refl (producer.add value).id) rfl
    genuine (Subscription.shown_id (producer.results ++ [value]))
    (Subscription.shown_producer _)
  have first := foldl_collect_fst (producer.results ++ [value]) producer.waiting.toList
    (supply.putProducer (producer.add value), [])
  rw [← first, collected] at announces
  obtain ⟨_, agenda, _⟩ := foldl_alter_rest (Subscription.shown (producer.results ++ [value]))
    producer.waiting.toList (supply.putProducer (producer.add value))
  rw [← first, collected] at agenda
  refine { announces.pushFrame _ with values_eq := fun number => ?_, told_eq := ?_ }
  · have numbered : (supply.putProducer (producer.add value)).Numbered :=
      fun _ _ known => tidy.id_of_subscription? known
    have values := valuesFor_foldl_collect (producer.results ++ [value])
      producer.waiting.nodup (supply.putProducer (producer.add value), []) numbered number
    rw [collected] at values
    rw [deliveries_pushFrame, Frame.deliveries, valuesFor_append, values, deliveries, agenda]
    rfl
  · rw [told_pushFrame, told, agenda]
    rfl

/-- A new candidate is offered and handed out, or it is known already. -/
theorem push_ensures (tidy : supply.Tidy) (id : SupplyId) (value : Candidate) :
    (supply.push id value).Ensures fun event after =>
      supply.KeptAside event after ∨
        ∃ offer pushed, supply.Pushes offer value pushed ∧ pushed.Hands event after := by
  unfold push
  split
  case h_1 => exact trivial
  case h_2 producer found =>
    split
    case isTrue => exact trivial
    case isFalse satisfies =>
      split
      case isTrue => exact trivial
      case isFalse unfinished =>
        split
        case isTrue => exact Or.inl ⟨Kept.refl supply, rfl⟩
        case isFalse new =>
          refine (deliver_ensures _ id _).mono fun event after hands =>
            Or.inr ⟨producer.offer, _, ?_, hands⟩
          exact tidy.pushes found (Bool.eq_false_iff.mpr unfinished)
            (by simpa using satisfies) (Bool.eq_false_iff.mpr new) rfl

/-! ## The end -/

theorem markClosed_eq : markClosed = alter Subscription.shut := by
  funext supply number
  unfold markClosed alter
  cases supply.subscription? number with
  | none => rfl
  | some subscription => rfl

/-- There are to be no more candidates, and the subscriptions that wait are closed and
are to be told so. -/
structure Ends (supply : Supply) (offer : Offer) (after : Supply) : Prop extends
    supply.Announces offer { offer with finished := true, waiting := ∅ } Subscription.shut
      after where
  deliveries_eq : after.deliveries = supply.deliveries
  told_eq : after.told = offer.waiting.toList ++ supply.told

/-- Closing the subscriptions that wait announces the end. -/
theorem Tidy.announces_end (tidy : supply.Tidy) {id : SupplyId} {producer : Producer}
    (found : supply.producer? id = some producer) (unfinished : producer.finished = false) :
    supply.Announces producer.offer
      (Producer.offer { producer with finished := true, waiting := ∅ }) Subscription.shut
      (producer.waiting.toList.foldl markClosed
        (supply.putProducer { producer with finished := true, waiting := ∅ })) := by
  have genuine := tidy.genuine id _ (offer?_of_producer? found)
  rw [markClosed_eq]
  exact tidy.announces_foldl found unfinished rfl rfl ⟨genuine.distinct, genuine.satisfying⟩
    (fun _ => rfl) fun _ => rfl

/-- The end is declared and told. -/
theorem finish_ensures (tidy : supply.Tidy) (id : SupplyId) :
    (supply.finish id).Ensures fun event after =>
      ∃ offer ended, supply.Ends offer ended ∧ ended.Hands event after := by
  unfold finish
  split
  case h_1 => exact trivial
  case h_2 producer found =>
    split
    case isTrue => exact trivial
    case isFalse unfinished =>
      have announces := tidy.announces_end found (Bool.eq_false_iff.mpr unfinished)
      obtain ⟨_, agenda, _⟩ := foldl_alter_rest Subscription.shut producer.waiting.toList
        (supply.putProducer { producer with finished := true, waiting := ∅ })
      rw [← markClosed_eq] at agenda
      refine (tellEnd_ensures _ id producer.failure producer.waiting.toList).mono
        fun event after hands => ⟨producer.offer, _, ?_, hands⟩
      refine { announces.pushFrame _ with deliveries_eq := ?_, told_eq := ?_ }
      · rw [deliveries_pushFrame, deliveries, agenda]
        rfl
      · rw [told_pushFrame, told, agenda]
        rfl

end Supply

end ValueEngine
