import ValueEngine.Proofs.Supply.Pace

/-!
# Subscriptions keep their pace

A subscription to a producer that is still there keeps its pace whatever effect a
call has, on itself, on its producer or on other consumers (`Supply.Walk.effect`).
-/

set_option autoImplicit false

namespace ValueEngine.Supply

/-- A producer, once it has been made, is still there. -/
def Keeps (id : SupplyId) (supply : Supply) : Prop :=
  ∀ producer, supply.producer? id = some producer → supply.isAlive id = true

/-- Nothing has happened to a subscription, and nothing is on its way. -/
structure Untouched (number : SupplyId) (trace : List Occurrence) (supply : Supply) :
    Prop where
  silent : Silent number trace
  pending_eq : valuesFor number supply.deliveries = []
  failing_eq : supply.told.count number = 0

/-- A subscription, if it belongs to a producer, keeps its pace along what the producer
offers. -/
structure Walk (id number : SupplyId) (trace : List Occurrence) (supply : Supply) :
    Prop where
  absent : supply.subscription? number = none → Untouched number trace supply
  present : ∀ subscription offer, supply.subscription? number = some subscription →
    subscription.producer = id → supply.offer? id = some offer →
      Pace number trace offer subscription (valuesFor number supply.deliveries)
        (supply.told.count number)

namespace Walk

variable {id number : SupplyId} {trace : List Occurrence} {supply after : Supply}

/-- Other occurrences make no difference. -/
theorem silent (walk : Walk id number trace supply) {extra : List Occurrence}
    (silent : Silent number extra) : Walk id number (trace ++ extra) supply where
  absent gone := by
    obtain ⟨before, pending, failing⟩ := walk.absent gone
    refine ⟨⟨?_, ?_, ?_⟩, pending, failing⟩
    · rw [received_append, before.received_eq, silent.received_eq, List.append_nil]
    · rw [asks_append, before.asks_eq, silent.asks_eq]
    · rw [failures_append, before.failures_eq, silent.failures_eq]
  present subscription offer found own offered :=
    (walk.present subscription offer found own offered).silent silent

/-- What keeps everything makes no difference. -/
theorem kept (walk : Walk id number trace supply) (tidy : supply.Tidy)
    (kept : supply.Kept after) : Walk id number trace after where
  absent gone := by
    rw [kept.subscription_eq] at gone
    obtain ⟨silent, pending, failing⟩ := walk.absent gone
    exact ⟨silent, kept.deliveries_eq ▸ pending, kept.told_eq ▸ failing⟩
  present subscription offer found own offered := by
    rw [kept.subscription_eq] at found
    rw [kept.deliveries_eq, kept.told_eq]
    refine walk.present subscription offer found own ?_
    rcases kept.offer_eq id with same | ⟨new, _⟩
    · exact same.symm.trans offered
    · obtain ⟨_, _, before, known⟩ := tidy.subscription_id number subscription found
      rw [own, new] at known
      cases known

/-- A call is made, in time if it is asking for more. -/
theorem called (walk : Walk id number trace supply) {call : Call}
    (modest : call = .ask number → asks number trace < (received number trace).length) :
    Walk id number (trace ++ [.called call]) supply := by
  by_cases asking : call = .ask number
  · subst asking
    constructor
    · intro gone
      -- Nothing has been received yet, so that this is not in time.
      have early := modest rfl
      rw [(walk.absent gone).silent.received_eq] at early
      exact absurd early (Nat.not_lt_zero _)
    · intro subscription offer found own offered
      exact (walk.present subscription offer found own offered).ask (modest rfl)
  · refine walk.silent ⟨rfl, ?_, rfl⟩
    cases call with
    | ask other =>
      have different : other ≠ number := fun same => asking (congrArg Call.ask same)
      simp [asks, Occurrence.asks, different]
    | _ => rfl

/-! ## Effects on one consumer -/

/-- Another consumer makes no difference. -/
theorem moves (walk : Walk id number trace supply) {offer : Offer}
    {waiting : SortedSet SupplyId} {subscription : Subscription}
    (moves : supply.Moves offer waiting subscription after)
    (other : subscription.id ≠ number) : Walk id number trace after where
  absent gone := by
    rw [moves.subscription_eq, if_neg other] at gone
    obtain ⟨silent, pending, failing⟩ := walk.absent gone
    exact ⟨silent, moves.deliveries_eq ▸ pending, moves.told_eq ▸ failing⟩
  present mine now found own offered := by
    rw [moves.subscription_eq, if_neg other] at found
    rw [moves.deliveries_eq, moves.told_eq]
    rw [moves.offer_eq] at offered
    split at offered
    case isTrue same =>
      cases offered
      have pace := walk.present mine offer found own (same ▸ moves.offered)
      exact pace.congr rfl rfl (moves.waiting_iff number other)
    case isFalse => exact walk.present mine now found own offered

/-- What a consumer does itself has to keep its pace. -/
theorem of_moves {offer : Offer} {waiting : SortedSet SupplyId} {subscription : Subscription}
    (moves : supply.Moves offer waiting subscription after) (mine : subscription.id = number)
    (pace : offer.id = id → Pace number trace { offer with waiting } subscription
      (valuesFor number supply.deliveries) (supply.told.count number)) :
    Walk id number trace after where
  absent gone := by
    rw [moves.subscription_eq, if_pos mine] at gone
    cases gone
  present now offered found own present := by
    rw [moves.subscription_eq, if_pos mine] at found
    cases found
    have same : offer.id = id := moves.producer_eq.symm.trans own
    rw [moves.offer_eq, if_pos same] at present
    cases present
    rw [moves.deliveries_eq, moves.told_eq]
    exact pace same

/-- A consumer subscribes. -/
theorem attaches (walk : Walk id number trace supply) (tidy : supply.Tidy)
    {event : Option SupplyEvent} {offer : Offer} {waiting : SortedSet SupplyId}
    {subscription : Subscription}
    (attached : offer.Attached supply.nextId event waiting subscription)
    (moves : supply.Moves offer waiting subscription after) :
    Walk id number (trace ++ event.toList.map .raised) after := by
  by_cases mine : subscription.id = number
  · have new : supply.nextId = number := attached.id_eq.symm.trans mine
    subst new
    have gone : supply.subscription? supply.nextId = none := by
      cases found : supply.subscription? supply.nextId with
      | none => rfl
      | some before =>
        exact absurd (tidy.subscription_id _ before found).2.1 (Nat.lt_irrefl _)
    obtain ⟨silent, pending, failing⟩ := walk.absent gone
    refine of_moves moves mine fun _ => ?_
    rw [pending, failing]
    refine attached.pace silent fun waits => ?_
    obtain ⟨before, found, _⟩ := tidy.waits _ offer moves.offered _ waits
    rw [gone] at found
    cases found
  · refine (walk.moves moves mine).silent (silent_raised fun found => mine ?_)
    exact attached.id_eq.trans (attached.consumer_eq found)

/-- A consumer asks and is served. -/
theorem serves (walk : Walk id number trace supply) (tidy : supply.Tidy) {other : SupplyId}
    {before : Subscription} {event : Option SupplyEvent} {offer : Offer}
    {waiting : SortedSet SupplyId} {subscription : Subscription}
    (known : supply.subscription? other = some before) (opened : before.closed = false)
    (asked : offer.Asked before event waiting subscription)
    (moves : supply.Moves offer waiting subscription after)
    (unserved : other = number → offer.id = id →
      Unserved number trace offer (valuesFor number supply.deliveries)) :
    Walk id number (trace ++ event.toList.map .raised) after := by
  obtain rfl := tidy.id_of_subscription? known
  by_cases mine : subscription.id = number
  · have own : before.id = number := asked.id_eq.symm.trans mine
    subst own
    refine of_moves moves mine fun same => ?_
    have free := unserved rfl same
    have producer := moves.producer_before before (asked.id_eq.symm ▸ known)
    have pace := walk.present before offer known (producer.trans same) (same ▸ moves.offered)
    have nothing := free.pending_eq
    rw [nothing] at pace free ⊢
    exact asked.pace pace opened free
  · refine (walk.moves moves mine).silent (silent_raised fun found => mine ?_)
    exact asked.id_eq.trans (asked.consumer_eq found)

/-- A consumer is detached. -/
theorem leaves (walk : Walk id number trace supply) (tidy : supply.Tidy) {other : SupplyId}
    {event : Option SupplyEvent} (leaves : supply.Leaves other event after) :
    Walk id number (trace ++ event.toList.map .raised) after := by
  obtain ⟨before, offer, middle, known, moves, kept, quiet⟩ := leaves
  have left : Walk id number trace middle := by
    by_cases mine : before.id = number
    · refine of_moves moves mine fun same => ?_
      subst mine
      have found : supply.subscription? before.id = some before := by
        rw [tidy.id_of_subscription? known]
        exact known
      have producer := moves.producer_before before found
      have pace := walk.present before offer found (producer.trans same) (same ▸ moves.offered)
      have stopped : ¬ before.id ∈ offer.waiting.erase other := fun waits =>
        (SortedSet.mem_erase.mp waits).2 (tidy.id_of_subscription? known)
      have idle : Pace before.id trace { offer with waiting := offer.waiting.erase other }
          before _ _ := pace.stop rfl (fun finished => finished) stopped
      exact idle.close stopped
    · exact walk.moves moves mine
  exact (left.kept (tidy.moves moves) kept).silent (silent_of_quiet quiet)

/-! ## Effects on all consumers of a producer -/

/-- What is handed out has to keep the pace of the one that receives it. -/
theorem of_hands (walk : Walk id number trace supply) {event : Option SupplyEvent}
    (hands : supply.Hands event after) {later : List Occurrence}
    (untouched : Untouched number trace supply → Untouched number later after)
    (pace : ∀ offer subscription,
      Pace number trace offer subscription (valuesFor number supply.deliveries)
          (supply.told.count number) →
        Pace number later offer subscription (valuesFor number after.deliveries)
          (after.told.count number)) :
    Walk id number later after where
  absent gone := untouched (walk.absent ((hands.subscription_eq number).symm.trans gone))
  present subscription offer found own offered :=
    pace offer subscription (walk.present subscription offer
      ((hands.subscription_eq number).symm.trans found) own
      ((hands.offer_eq id).symm.trans offered))

/-- Handing out to others makes no difference. -/
theorem hands_silent (walk : Walk id number trace supply) {event : Option SupplyEvent}
    (hands : supply.Hands event after) (silent : Silent number (event.toList.map .raised))
    (pending : valuesFor number after.deliveries = valuesFor number supply.deliveries)
    (failing : after.told.count number = supply.told.count number) :
    Walk id number (trace ++ event.toList.map .raised) after := by
  refine (walk.silent silent).of_hands hands (fun untouched => ?_) fun offer subscription pace => ?_
  · exact ⟨untouched.silent, pending.trans untouched.pending_eq,
      failing.trans untouched.failing_eq⟩
  · rw [pending, failing]
    exact pace

/-- Something is handed out. -/
theorem hands (walk : Walk id number trace supply) {event : Option SupplyEvent}
    (hands : supply.Hands event after) :
    Walk id number (trace ++ event.toList.map .raised) after := by
  cases hands.handed with
  | nothing deliveries_eq told_eq =>
    exact walk.hands_silent hands ⟨rfl, rfl, rfl⟩ (congrArg (valuesFor number) deliveries_eq)
      (congrArg (List.count number) told_eq)
  | @given other value due told_eq =>
    by_cases mine : other = number
    · subst mine
      have first : valuesFor other supply.deliveries =
          value :: valuesFor other after.deliveries := by
        rw [due, valuesFor_cons_self]
      refine walk.of_hands hands (fun untouched => ?_) fun offer subscription pace => ?_
      · have nothing := untouched.pending_eq
        rw [first] at nothing
        cases nothing
      · rw [first, ← told_eq] at pace
        exact pace.give
    · refine walk.hands_silent hands (silent_raised fun found => mine (Option.some.inj found)) ?_
        (congrArg (List.count number) told_eq)
      rw [due, valuesFor_cons_of_ne mine]
  | @told other failure due deliveries_eq =>
    by_cases mine : other = number
    · subst mine
      have once : supply.told.count other = after.told.count other + 1 := by
        rw [due, List.count_cons_self]
      refine walk.of_hands hands (fun untouched => ?_) fun offer subscription pace => ?_
      · have never := untouched.failing_eq
        rw [once] at never
        cases never
      · rw [once, ← deliveries_eq] at pace
        exact pace.tell
    · refine walk.hands_silent hands (silent_raised fun found => mine (Option.some.inj found))
        (congrArg (valuesFor number) deliveries_eq) ?_
      rw [due, List.count_cons_of_ne mine]

/-- An announcement has to keep the pace of the subscriptions that wait and of those that
do not. -/
theorem of_announces (walk : Walk id number trace supply) (tidy : supply.Tidy)
    {offer changed : Offer} {change : Subscription → Subscription}
    (announces : supply.Announces offer changed change after)
    (waiting : number ∈ offer.waiting → ∀ subscription,
      supply.subscription? number = some subscription →
      Pace number trace offer subscription (valuesFor number supply.deliveries)
          (supply.told.count number) →
        Pace number trace changed (change subscription) (valuesFor number after.deliveries)
          (after.told.count number))
    (idle : ¬ number ∈ offer.waiting →
      valuesFor number after.deliveries = valuesFor number supply.deliveries ∧
      after.told.count number = supply.told.count number ∧
      ∀ subscription pending failing, Pace number trace offer subscription pending failing →
        Pace number trace changed subscription pending failing) :
    Walk id number trace after := by
  by_cases waits : number ∈ offer.waiting
  · obtain ⟨before, known, producer⟩ := tidy.waits _ offer announces.offered number waits
    have now : after.subscription? number = some (change before) := by
      rw [announces.subscription_eq, if_pos waits, known, Option.map_some]
    refine ⟨fun gone => ?_, fun subscription offered found own present => ?_⟩
    · rw [now] at gone
      cases gone
    · rw [now] at found
      cases found
      have same : offer.id = id :=
        producer.symm.trans ((announces.change_producer before).symm.trans own)
      rw [announces.offer_eq, if_pos same] at present
      cases present
      exact waiting waits before known
        (walk.present before offer known (producer.trans same) (same ▸ announces.offered))
  · obtain ⟨pending, failing, pace⟩ := idle waits
    have now : after.subscription? number = supply.subscription? number := by
      rw [announces.subscription_eq, if_neg waits]
    refine ⟨fun gone => ?_, fun subscription offered found own present => ?_⟩
    · obtain ⟨silent, nothing, never⟩ := walk.absent (now ▸ gone)
      exact ⟨silent, pending.trans nothing, failing.trans never⟩
    · rw [pending, failing]
      rw [announces.offer_eq] at present
      split at present
      case isTrue same =>
        cases present
        exact pace _ _ _
          (walk.present subscription offer (now ▸ found) own (same ▸ announces.offered))
      case isFalse => exact walk.present subscription offered (now ▸ found) own present

/-- A source declares a candidate. -/
theorem pushes (walk : Walk id number trace supply) (tidy : supply.Tidy) {offer : Offer}
    {value : Candidate} (pushes : supply.Pushes offer value after) :
    Walk id number trace after := by
  have values := pushes.values_eq number
  refine walk.of_announces tidy pushes.toAnnounces (fun waits subscription known pace => ?_)
    fun idle => ⟨?_, congrArg (List.count number) pushes.told_eq, fun _ _ _ pace => ?_⟩
  · have nothing := pace.pending_eq_nil_of_waits waits
    have owed := pace.received_le_of_waits waits
    obtain ⟨_, _, all⟩ := pace.waits waits
    have further : (offer.results ++ [value])[subscription.delivered]? = some value := by
      rw [all, List.getElem?_concat_length]
    have given : valuesFor number after.deliveries = [value] := by
      rw [values, if_pos waits, known, Option.bind_some, further, nothing]
      rfl
    rw [Subscription.shown_of_some further, given, pushes.told_eq]
    rw [nothing] at pace
    have grown : Pace number trace
        { offer with results := offer.results ++ [value], waiting := ∅ } subscription [] _ :=
      pace.grow pushes.unfinished rfl (SortedSet.not_mem_empty number)
    exact (grown.look (List.prefix_refl _)).send further
      ⟨rfl, SortedSet.not_mem_empty number, owed⟩
  · rw [values, if_neg idle, List.nil_append]
  · exact pace.grow pushes.unfinished rfl (SortedSet.not_mem_empty number)

/-- A source declares the end. -/
theorem ends (walk : Walk id number trace supply) (tidy : supply.Tidy) {offer : Offer}
    (ends : supply.Ends offer after) : Walk id number trace after := by
  have count : after.told.count number =
      offer.waiting.toList.count number + supply.told.count number := by
    rw [ends.told_eq, List.count_append]
  refine walk.of_announces tidy ends.toAnnounces (fun waits subscription known pace => ?_)
    fun idle => ⟨congrArg (valuesFor number) ends.deliveries_eq, ?_, fun _ _ _ pace => ?_⟩
  · have nothing := pace.pending_eq_nil_of_waits waits
    obtain ⟨opened, _, all⟩ := pace.waits waits
    have once : offer.waiting.toList.count number = 1 :=
      offer.waiting.nodup.count.trans (if_pos waits)
    rw [ends.deliveries_eq, count, once, Nat.add_comm, nothing]
    rw [nothing] at pace
    have done : Pace number trace { offer with finished := true, waiting := ∅ } subscription
        [] _ := pace.stop rfl (fun _ => rfl) (SortedSet.not_mem_empty number)
    exact done.fail rfl opened (Nat.le_of_eq all.symm) (SortedSet.not_mem_empty number)
  · rw [count, List.count_eq_zero.mpr idle, Nat.zero_add]
  · exact pace.stop rfl (fun _ => rfl) (SortedSet.not_mem_empty number)

/-! ## All effects -/

/-- **A subscription to a producer that is there keeps its pace**, whatever the effect,
provided that nothing is on its way when it asks. -/
theorem effect (walk : Walk id number trace supply) (tidy : supply.Tidy)
    (keeps : supply.Keeps id) {asked : Option SupplyId} {event : Option SupplyEvent}
    (unserved : asked = some number → ∀ subscription offer,
      supply.subscription? number = some subscription → subscription.producer = id →
        supply.offer? id = some offer →
          Unserved number trace offer (valuesFor number supply.deliveries))
    (effect : supply.Effect asked event after) :
    Walk id number (trace ++ event.toList.map .raised) after := by
  cases effect with
  | aside kept => exact (walk.kept tidy kept.1).silent (silent_of_quiet kept.2)
  | attaches attached moves => exact walk.attaches tidy attached moves
  | @serves other before _ _ offer _ _ known opened asked moves =>
    refine walk.serves tidy known opened asked moves fun mine same => ?_
    have own := tidy.id_of_subscription? known
    have producer : before.producer = offer.id :=
      moves.producer_before before (asked.id_eq.trans own ▸ known)
    exact unserved (congrArg some mine) before offer (mine ▸ known) (producer.trans same)
      (same ▸ moves.offered)
  | @abandons other before _ known gone kept =>
    by_cases mine : other = number
    · subst mine
      refine ⟨fun absent => ?_, fun subscription offer found own offered => ?_⟩
      · rw [kept.subscription_eq, known] at absent
        cases absent
      · rw [kept.subscription_eq, known, Option.some.injEq] at found
        subst found
        obtain ⟨_, _, earlier, there⟩ := tidy.subscription_id other before known
        rw [own] at gone there
        obtain ⟨producer, there, _⟩ := exists_producer?_of_offer? there
        rw [keeps producer there] at gone
        cases gone
    · exact (walk.kept tidy kept).silent
        (silent_raised fun found => mine (Option.some.inj found))
  | leaves leaves => exact walk.leaves tidy leaves
  | pushes pushes hands => exact (walk.pushes tidy pushes).hands hands
  | ends ends hands => exact (walk.ends tidy ends).hands hands
  | hands kept hands => exact (walk.kept tidy kept).hands hands

end Walk

end ValueEngine.Supply
