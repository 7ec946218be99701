import ValueEngine.Proofs.Supply.Registry

/-!
# What consumers have received

A subscription counts candidates as delivered as soon as it is decided that its consumer gets them.
What it counts is what its consumer has been given and what unfinished calls are going to give it,
the first candidates of the producer in some order (`Supply.Counts`). The order is not always that
of the producer: a consumer may ask for more while a candidate is on its way, and be given the next
one first.

A consumer that waits counts all candidates of its producer. So when no call is unfinished, it has
been given all of them (`Supply.Usage.received_perm`).
-/

set_option autoImplicit false

namespace ValueEngine

namespace Supply

/-- What a consumer is given by an event. -/
def gained (number : SupplyId) (event : Option SupplyEvent) : List Candidate :=
  received number (event.toList.map .raised)

theorem gained_of_ne {number : SupplyId} {event : Option SupplyEvent}
    (elsewhere : event.bind SupplyEvent.consumer? ≠ some number) : gained number event = [] :=
  (silent_raised elsewhere).received_eq

theorem gained_of_quiet {number : SupplyId} {event : Option SupplyEvent}
    (quiet : event.bind SupplyEvent.consumer? = none) : gained number event = [] :=
  (silent_of_quiet quiet).received_eq

/-! ## What a subscription counts -/

/-- A subscription counts the candidates that its consumer has been promised: the first ones of the
producer, and all of them when it waits. -/
structure Counts (number : SupplyId) (promised : List Candidate) (offer : Offer)
    (subscription : Subscription) : Prop where
  perm : promised.Perm (offer.results.take subscription.delivered)
  delivered_le : subscription.delivered ≤ offer.results.length
  known_prefix : subscription.known <+: offer.results
  waits : number ∈ offer.waiting → subscription.delivered = offer.results.length

namespace Counts

variable {number : SupplyId} {promised : List Candidate} {offer also : Offer}
  {subscription : Subscription} {known : List Candidate} {value : Candidate}

/-- A consumer that waits has been promised all candidates. -/
theorem perm_of_waits (counts : Counts number promised offer subscription)
    (waits : number ∈ offer.waiting) : promised.Perm offer.results := by
  have perm := counts.perm
  rwa [counts.waits waits, List.take_length] at perm

/-- Only the candidates and whether the consumer waits matter. -/
theorem congr (counts : Counts number promised offer subscription)
    (results_eq : also.results = offer.results)
    (waits : number ∈ also.waiting → number ∈ offer.waiting) :
    Counts number promised also subscription where
  perm := results_eq ▸ counts.perm
  delivered_le := results_eq ▸ counts.delivered_le
  known_prefix := results_eq ▸ counts.known_prefix
  waits member := results_eq ▸ counts.waits (waits member)

/-- There is one more candidate, and the consumer does not wait. -/
theorem grow (counts : Counts number promised offer subscription)
    (results_eq : also.results = offer.results ++ [value]) (idle : number ∉ also.waiting) :
    Counts number promised also subscription where
  perm := by
    rw [results_eq, List.take_append_of_le_length counts.delivered_le]
    exact counts.perm
  delivered_le := by
    rw [results_eq, List.length_append]
    exact Nat.le_add_right_of_le counts.delivered_le
  known_prefix := results_eq ▸ counts.known_prefix.trans (List.prefix_append _ _)
  waits member := absurd member idle

/-- The consumer is promised the next candidate. -/
theorem give (counts : Counts number promised offer subscription)
    (next : offer.results[subscription.delivered]? = some value) (prior : known <+: offer.results)
    (idle : number ∉ offer.waiting) {further : List Candidate}
    (perm : further.Perm (promised ++ [value])) {later : Subscription}
    (known_eq : later.known = known) (delivered_eq : later.delivered = subscription.delivered + 1) :
    Counts number further offer later where
  perm := by
    rw [delivered_eq, List.take_add_one, next]
    exact perm.trans (counts.perm.append_right _)
  delivered_le := by
    rw [delivered_eq]
    exact (List.getElem?_eq_some_iff.mp next).1
  known_prefix := known_eq ▸ prior
  waits member := absurd member idle

end Counts

end Supply

section Offers

open Supply

variable {offer : Offer} {event : Option SupplyEvent} {waiting : SortedSet SupplyId}
  {subscription : Subscription}

/-- A subscription that starts counts what its consumer is given at once. -/
theorem Offer.Attached.counts {number : SupplyId}
    (attached : offer.Attached number event waiting subscription) (idle : number ∉ offer.waiting) :
    Counts number (gained number event) { offer with waiting } subscription := by
  cases attached with
  | @given value first =>
    refine ⟨?_, (List.getElem?_eq_some_iff.mp first).1, List.prefix_refl _,
      fun member => absurd member idle⟩
    rw [List.take_add_one, first]
    exact List.Perm.of_eq (received_resolved number value)
  | ended first finished =>
    exact ⟨List.Perm.refl _, Nat.zero_le _, List.prefix_refl _, fun member => absurd member idle⟩
  | waits first unfinished =>
    refine ⟨List.Perm.refl _, Nat.zero_le _, List.prefix_refl _, fun _ => ?_⟩
    exact (Nat.le_zero.mp (List.getElem?_eq_none_iff.mp first)).symm

/-- A subscription that asks goes on counting. -/
theorem Offer.Asked.counts {promised further : List Candidate} {before : Subscription}
    (asked : offer.Asked before event waiting subscription)
    (counts : Counts before.id promised offer before)
    (perm : further.Perm (promised ++ gained before.id event)) :
    Counts before.id further { offer with waiting } subscription := by
  cases asked with
  | @given known value source next =>
    have prior : known <+: offer.results := by
      rcases source with rfl | rfl
      · exact counts.known_prefix
      · exact List.prefix_refl _
    have present : offer.results[before.delivered]? = some value := by
      obtain ⟨rest, whole⟩ := prior
      rw [← whole, List.getElem?_append_left (List.getElem?_eq_some_iff.mp next).1]
      exact next
    have idle : before.id ∉ offer.waiting := by
      intro waits
      rw [counts.waits waits, List.getElem?_length] at present
      cases present
    have gains : gained before.id (some (.resolved before.id value)) = [value] :=
      received_resolved before.id value
    exact counts.give present prior idle (gains ▸ perm) rfl rfl
  | @ended failure exhausted finished =>
    have gains : gained before.id (some (.failed before.id failure)) = [] := rfl
    rw [gains, List.append_nil] at perm
    exact ⟨perm.trans counts.perm, counts.delivered_le, List.prefix_refl _, counts.waits⟩
  | waits quiet exhausted unfinished =>
    rw [gained_of_quiet quiet, List.append_nil] at perm
    refine ⟨perm.trans counts.perm, counts.delivered_le, List.prefix_refl _, fun _ => ?_⟩
    exact Nat.le_antisymm counts.delivered_le (List.getElem?_eq_none_iff.mp exhausted)

end Offers

namespace Supply

/-! ## What a consumer has been promised -/

/-- What a consumer has been given, and what unfinished calls are going to give it. -/
def promised (supply : Supply) (number : SupplyId) (given : List Candidate) : List Candidate :=
  given ++ valuesFor number supply.deliveries

/-- A subscription, if there is one with a number, counts what its consumer has been promised. -/
structure Credits (number : SupplyId) (given : List Candidate) (supply : Supply) : Prop where
  absent : supply.subscription? number = none → supply.promised number given = []
  present : ∀ subscription offer, supply.subscription? number = some subscription →
    supply.offer? subscription.producer = some offer →
      Counts number (supply.promised number given) offer subscription

namespace Credits

variable {number id : SupplyId} {given : List Candidate} {supply middle after : Supply}
  {event : Option SupplyEvent} {offer : Offer} {waiting : SortedSet SupplyId}
  {subscription : Subscription}

/-- Nothing happens that concerns the consumer. -/
theorem stay (credits : Credits number given supply)
    (subscription_eq : after.subscription? number = supply.subscription? number)
    (deliveries_eq : valuesFor number after.deliveries = valuesFor number supply.deliveries)
    (offers : ∀ subscription now, supply.subscription? number = some subscription →
      after.offer? subscription.producer = some now →
        ∃ before, supply.offer? subscription.producer = some before ∧
          now.results = before.results ∧ (number ∈ now.waiting → number ∈ before.waiting)) :
    Credits number given after where
  absent gone := by
    rw [promised, deliveries_eq]
    exact credits.absent (subscription_eq ▸ gone)
  present subscription now known found := by
    rw [subscription_eq] at known
    obtain ⟨before, offered, results_eq, waits⟩ := offers subscription now known found
    rw [promised, deliveries_eq]
    exact (credits.present subscription before known offered).congr results_eq waits

/-- An event that gives nothing to the consumer makes no difference. -/
theorem silent (credits : Credits number given supply) (nothing : gained number event = []) :
    Credits number (given ++ gained number event) supply := by
  rwa [nothing, List.append_nil]

theorem kept (credits : Credits number given supply) (tidy : supply.Tidy)
    (kept : supply.Kept after) : Credits number given after := by
  refine credits.stay (kept.subscription_eq number) (by rw [kept.deliveries_eq]) ?_
  intro subscription now known found
  rcases kept.offer_eq subscription.producer with same | ⟨new, _⟩
  · exact ⟨now, same.symm.trans found, rfl, fun waits => waits⟩
  · obtain ⟨_, _, before, offered⟩ := tidy.subscription_id number subscription known
    cases new.symm.trans offered

/-- Another consumer moves. -/
theorem moves (credits : Credits number given supply)
    (moves : supply.Moves offer waiting subscription after) (other : subscription.id ≠ number) :
    Credits number given after := by
  refine credits.stay ?_ (by rw [moves.deliveries_eq]) ?_
  · rw [moves.subscription_eq, if_neg other]
  · intro mine now _ found
    rw [moves.offer_eq] at found
    split at found
    case isTrue same =>
      cases found
      exact ⟨offer, same ▸ moves.offered, rfl, (moves.waiting_iff number other).mp⟩
    case isFalse => exact ⟨now, found, rfl, fun waits => waits⟩

/-- What a consumer does itself has to keep the count. -/
theorem of_moves (moves : supply.Moves offer waiting subscription after)
    (mine : subscription.id = number)
    (counts : Counts number (supply.promised number given) { offer with waiting } subscription) :
    Credits number given after where
  absent gone := by
    rw [moves.subscription_eq, if_pos mine] at gone
    cases gone
  present now found known offered := by
    rw [moves.subscription_eq, if_pos mine] at known
    cases known
    rw [moves.offer_eq, if_pos moves.producer_eq.symm] at offered
    cases offered
    rw [promised, moves.deliveries_eq]
    exact counts

/-- A consumer subscribes. -/
theorem attaches (credits : Credits number given supply) (tidy : supply.Tidy)
    (attached : offer.Attached supply.nextId event waiting subscription)
    (moves : supply.Moves offer waiting subscription after) :
    Credits number (given ++ gained number event) after := by
  by_cases mine : subscription.id = number
  case neg =>
    refine (credits.moves moves mine).silent (gained_of_ne fun found => mine ?_)
    exact attached.id_eq.trans (attached.consumer_eq found)
  have new : supply.nextId = number := attached.id_eq.symm.trans mine
  subst new
  have gone : supply.subscription? supply.nextId = none := by
    cases found : supply.subscription? supply.nextId with
    | none => rfl
    | some before => exact absurd (tidy.subscription_id _ before found).2.1 (Nat.lt_irrefl _)
  have idle : supply.nextId ∉ offer.waiting := by
    intro waits
    obtain ⟨before, found, _⟩ := tidy.waits _ offer moves.offered _ waits
    cases gone.symm.trans found
  obtain ⟨nothing, pending⟩ := List.append_eq_nil_iff.mp (credits.absent gone)
  refine of_moves moves mine ?_
  rw [promised, pending, List.append_nil, nothing, List.nil_append]
  exact attached.counts idle

/-- A consumer asks and is served. -/
theorem serves (credits : Credits number given supply) (tidy : supply.Tidy) {other : SupplyId}
    {before : Subscription} (known : supply.subscription? other = some before)
    (asked : offer.Asked before event waiting subscription)
    (moves : supply.Moves offer waiting subscription after) :
    Credits number (given ++ gained number event) after := by
  obtain rfl := tidy.id_of_subscription? known
  by_cases mine : subscription.id = number
  case neg =>
    refine (credits.moves moves mine).silent (gained_of_ne fun found => mine ?_)
    exact asked.id_eq.trans (asked.consumer_eq found)
  have own : before.id = number := asked.id_eq.symm.trans mine
  subst own
  have producer := moves.producer_before before (asked.id_eq.symm ▸ known)
  have counts := credits.present before offer known (producer ▸ moves.offered)
  refine of_moves moves mine (asked.counts counts ?_)
  -- What is given now comes before what is on its way.
  rw [promised, promised, List.append_assoc, List.append_assoc]
  exact List.perm_append_comm.append_left given

/-- A consumer is detached. -/
theorem leaves (credits : Credits number given supply) (tidy : supply.Tidy) {other : SupplyId}
    (leaves : supply.Leaves other event after) :
    Credits number (given ++ gained number event) after := by
  obtain ⟨before, offer, middle, known, moves, kept, quiet⟩ := leaves
  refine Credits.silent ?_ (gained_of_quiet quiet)
  refine Credits.kept ?_ (tidy.moves moves) kept
  obtain rfl := tidy.id_of_subscription? known
  by_cases mine : before.id = number
  case neg => exact credits.moves moves mine
  subst mine
  have producer := moves.producer_before before known
  have counts := credits.present before offer known (producer ▸ moves.offered)
  refine of_moves moves rfl ⟨counts.perm, counts.delivered_le, counts.known_prefix, fun waits => ?_⟩
  exact absurd rfl (SortedSet.mem_erase.mp waits).2

/-- An announcement has to keep the count of the subscriptions that wait and of those that do
not. -/
theorem of_announces (credits : Credits number given supply) (tidy : supply.Tidy)
    {changed : Offer} {change : Subscription → Subscription}
    (announces : supply.Announces offer changed change after)
    (waiting : number ∈ offer.waiting → ∀ subscription,
      supply.subscription? number = some subscription →
        Counts number (supply.promised number given) offer subscription →
          Counts number (after.promised number given) changed (change subscription))
    (idle : number ∉ offer.waiting →
      valuesFor number after.deliveries = valuesFor number supply.deliveries ∧
        ∀ subscription promised, Counts number promised offer subscription →
          Counts number promised changed subscription) : Credits number given after := by
  by_cases waits : number ∈ offer.waiting
  · obtain ⟨before, known, producer⟩ := tidy.waits _ offer announces.offered number waits
    have now : after.subscription? number = some (change before) := by
      rw [announces.subscription_eq, if_pos waits, known, Option.map_some]
    refine ⟨fun gone => ?_, fun subscription offered found present => ?_⟩
    · cases now.symm.trans gone
    · cases now.symm.trans found
      rw [announces.change_producer, producer, announces.offer_eq, if_pos rfl] at present
      cases present
      exact waiting waits before known
        (credits.present before offer known (producer ▸ announces.offered))
  · obtain ⟨pending, counts⟩ := idle waits
    have now : after.subscription? number = supply.subscription? number := by
      rw [announces.subscription_eq, if_neg waits]
    refine ⟨fun gone => ?_, fun subscription offered found present => ?_⟩
    · rw [promised, pending]
      exact credits.absent (now ▸ gone)
    · rw [promised, pending]
      rw [announces.offer_eq] at present
      split at present
      case isTrue same =>
        cases present
        exact counts _ _ (credits.present subscription offer (now ▸ found)
          (same ▸ announces.offered))
      case isFalse => exact credits.present subscription offered (now ▸ found) present

/-- A source declares a candidate. -/
theorem pushes (credits : Credits number given supply) (tidy : supply.Tidy) {value : Candidate}
    (pushes : supply.Pushes offer value after) : Credits number given after := by
  have values := pushes.values_eq number
  have vacant : ∀ number : SupplyId, ¬ number ∈ (∅ : SortedSet SupplyId) :=
    SortedSet.not_mem_empty
  refine credits.of_announces tidy pushes.toAnnounces (fun waits subscription known counts => ?_)
    fun idle => ⟨?_, fun _ _ counts => counts.grow rfl (vacant number)⟩
  · have next : (offer.results ++ [value])[subscription.delivered]? = some value := by
      rw [counts.waits waits, List.getElem?_concat_length]
    rw [if_pos waits, known, Option.bind_some, next] at values
    rw [Subscription.shown_of_some next]
    have grown : Counts number _ { offer with results := offer.results ++ [value], waiting := ∅ }
      subscription := counts.grow rfl (vacant number)
    refine grown.give next (List.prefix_refl _) (vacant number) ?_ rfl rfl
    rw [promised, promised, values, List.append_assoc]
    exact List.perm_append_comm.append_left given
  · rw [values, if_neg idle, List.nil_append]

/-- A source declares the end. -/
theorem ends (credits : Credits number given supply) (tidy : supply.Tidy)
    (ends : supply.Ends offer after) : Credits number given after := by
  have stopped : ∀ {promised subscription}, Counts number promised offer subscription →
      Counts number promised { offer with finished := true, waiting := ∅ } subscription :=
    fun counts => counts.congr rfl fun waits => absurd waits (SortedSet.not_mem_empty number)
  refine credits.of_announces tidy ends.toAnnounces (fun _ subscription _ counts => ?_)
    fun _ => ⟨by rw [ends.deliveries_eq], fun _ _ => stopped⟩
  rw [promised, ends.deliveries_eq]
  have same := stopped counts
  exact ⟨same.perm, same.delivered_le, same.known_prefix, same.waits⟩

/-- What is handed out was promised before. -/
theorem hands (credits : Credits number given supply) (hands : supply.Hands event after) :
    Credits number (given ++ gained number event) after := by
  have promised_eq : after.promised number (given ++ gained number event) =
      supply.promised number given := by
    rw [promised, promised, List.append_assoc]
    congr 1
    cases hands.handed with
    | nothing deliveries_eq told_eq => exact congrArg (valuesFor number) deliveries_eq
    | @given other value due told_eq =>
      rw [due]
      by_cases mine : other = number
      · subst mine
        rw [valuesFor_cons_self]
        exact congrArg (· ++ _) (received_resolved other value)
      · have elsewhere : (some (SupplyEvent.resolved other value)).bind SupplyEvent.consumer? ≠
            some number := fun found => mine (Option.some.inj found)
        rw [valuesFor_cons_of_ne mine, gained_of_ne elsewhere, List.nil_append]
    | told due deliveries_eq => exact congrArg (valuesFor number) deliveries_eq
  refine ⟨fun gone => ?_, fun subscription offer known offered => ?_⟩
  · rw [promised_eq]
    exact credits.absent ((hands.subscription_eq number).symm.trans gone)
  · rw [promised_eq]
    exact credits.present subscription offer ((hands.subscription_eq number).symm.trans known)
      ((hands.offer_eq _).symm.trans offered)

/-- **Subscriptions go on counting**, whatever the effect. -/
theorem effect (credits : Credits number given supply) (tidy : supply.Tidy)
    {asked : Option SupplyId} (effect : supply.Effect asked event after) :
    Credits number (given ++ gained number event) after := by
  cases effect with
  | aside kept => exact (credits.kept tidy kept.1).silent (gained_of_quiet kept.2)
  | attaches attached moves => exact credits.attaches tidy attached moves
  | serves known opened asked moves => exact credits.serves tidy known asked moves
  | abandons known gone kept => exact (credits.kept tidy kept).silent rfl
  | leaves leaves => exact credits.leaves tidy leaves
  | pushes pushes hands => exact (credits.pushes tidy pushes).hands hands
  | ends ends hands => exact (credits.ends tidy ends).hands hands
  | hands kept hands => exact (credits.kept tidy kept).hands hands

end Credits

/-! ## Along a usage -/

variable {supply : Supply} {steps : List Step} {number id : SupplyId}

theorem credits_empty (number : SupplyId) : Credits number [] {} where
  absent _ := rfl
  present _ _ known := by cases known

/-- Along a usage that breaks no rule the supply stays tidy, and lists and flags stay together. -/
theorem Usage.aligned (usage : Usage steps supply) (calm : Calm steps) :
    supply.Tidy ∧ supply.Aligned := by
  induction usage with
  | start => exact ⟨tidy_empty, aligned_empty⟩
  | @step steps before earlier move ih =>
    obtain ⟨calmBefore, calmNow⟩ := calm.of_append
    obtain ⟨tidy, aligned⟩ := ih calmBefore
    have effect := Step.effect tidy (calmNow ⟨before, move⟩ List.mem_cons_self)
    exact ⟨tidy.effect effect, aligned.effect tidy effect⟩
  | fetch earlier requirement ih =>
    obtain ⟨tidy, aligned⟩ := ih calm
    exact ⟨tidy.kept (kept_fetch _ requirement), aligned.kept (kept_fetch _ requirement)⟩

/-- **Along a usage every subscription counts what its consumer has been promised.** -/
theorem Usage.credits (usage : Usage steps supply) (calm : Calm steps) (number : SupplyId) :
    Credits number (received number (traceOf steps)) supply := by
  induction usage with
  | start => exact credits_empty number
  | @step steps before earlier move ih =>
    obtain ⟨calmBefore, calmNow⟩ := calm.of_append
    obtain ⟨tidy, _⟩ := earlier.aligned calmBefore
    have effect := Step.effect tidy (calmNow ⟨before, move⟩ List.mem_cons_self)
    rw [traceOf_append, received_append, traceOf_singleton, Step.occurrences, received_append,
      received_called, List.nil_append]
    exact (ih calmBefore).effect tidy effect
  | fetch earlier requirement ih =>
    exact (ih calm).kept (earlier.aligned calm).1 (kept_fetch _ requirement)

/-- **A consumer that waits has been given all candidates** when no call is unfinished. -/
theorem Usage.received_perm (usage : Usage steps supply) (calm : Calm steps)
    (returned : supply.agenda = []) {producer : Producer}
    (found : supply.producer? id = some producer) (waits : number ∈ producer.waiting) :
    (received number (traceOf steps)).Perm producer.results := by
  have offered := offer?_of_producer? found
  obtain ⟨tidy, _⟩ := usage.aligned calm
  obtain ⟨subscription, known, rfl⟩ := tidy.waits id _ offered number waits
  have counts := (usage.credits calm number).present subscription _ known offered
  have settled : supply.promised number (received number (traceOf steps)) =
      received number (traceOf steps) := by
    rw [promised, deliveries, returned]
    exact List.append_nil _
  exact settled ▸ counts.perm_of_waits waits

end Supply

end ValueEngine
