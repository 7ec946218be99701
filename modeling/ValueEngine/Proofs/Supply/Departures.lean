import ValueEngine.Proofs.Supply.Refusals
import ValueEngine.Proofs.Supply.Wakeups

/-!
# How consumers depart

A consumer is attached from when it has subscribed until it is detached by a call, or told the end.
Its subscription is flagged then. When the end is declared, though, all consumers that wait are
flagged before the first of them is told, and whoever is flagged cannot be closed. So user code that
closes an attached consumer while another one is told the end breaks a rule; the call that tells the
end is given up, and the rest are never told (`Supply.attached_refused`).

Attached consumers that are not to be told the end can be closed at any time. Those that are to be
told cannot be detached any more: who is to be told gets fewer only by telling
(`Supply.Effect.failed_of_lt`). Therefore a usage in which no rule is broken tells the end, once, to
everybody who waited when it was declared (`Supply.attached_leavable`).
-/

set_option autoImplicit false

namespace ValueEngine

theorem SupplyEvent.eq_failed {event : SupplyEvent} {number : SupplyId}
    (told : event.failed? = some number) : ∃ failure, event = .failed number failure := by
  cases event with
  | failed other failure =>
    cases told
    exact ⟨failure, rfl⟩
  | _ => cases told

/-- Who departs is the consumer that is closed, cancelled with success or told the end. -/
theorem Move.parts_of_departs {move : Move} {turn : Turn} {attachment : Attachment}
    (departs : move.departs? turn = some attachment) :
    move.parts? turn = some attachment.consumer := by
  obtain ⟨number, parts, found⟩ := Option.bind_eq_some_iff.mp departs
  obtain ⟨id, _, rfl⟩ := Option.map_eq_some_iff.mp found
  exact parts

namespace Supply

variable {supply middle after : Supply} {steps early later : List Step} {step : Step}
  {number id : SupplyId} {producer : Producer} {subscription : Subscription} {offer : Offer}
  {waiting : SortedSet SupplyId} {asked : Option SupplyId} {event : Option SupplyEvent}
  {failure : Option Failure}

/-! ## Flags stay -/

theorem Kept.isClosed_eq (kept : supply.Kept after) (number : SupplyId) :
    after.isClosed number = supply.isClosed number := by
  rw [isClosed, kept.subscription_eq, isClosed]

theorem Hands.isClosed_eq (hands : supply.Hands event after) (number : SupplyId) :
    after.isClosed number = supply.isClosed number := by
  rw [isClosed, hands.subscription_eq, isClosed]

theorem Moves.isClosed_eq (moves : supply.Moves offer waiting subscription after)
    (number : SupplyId) : after.isClosed number =
      if subscription.id = number then subscription.closed else supply.isClosed number := by
  unfold isClosed
  rw [moves.subscription_eq]
  split <;> rfl

/-- Who is flagged as detached remains so, whatever the effect. -/
theorem Effect.stays_closed (effect : supply.Effect asked event after) (tidy : supply.Tidy)
    (closed : supply.isClosed number = true) : after.isClosed number = true := by
  cases effect with
  | aside kept => exact (kept.1.isClosed_eq number).trans closed
  | attaches attached moves =>
    rw [moves.isClosed_eq, attached.id_eq]
    split
    case isTrue new =>
      rw [← new, isClosed_nextId tidy] at closed
      cases closed
    case isFalse => exact closed
  | serves known opened asked moves =>
    rw [moves.isClosed_eq, asked.id_eq, tidy.id_of_subscription? known]
    split
    case isTrue own =>
      rw [← own, isClosed_of_known known, opened] at closed
      cases closed
    case isFalse => exact closed
  | abandons known gone kept => exact (kept.isClosed_eq number).trans closed
  | leaves leaves =>
    obtain ⟨before, offer, middle, known, moves, kept, _⟩ := leaves
    rw [kept.isClosed_eq, moves.isClosed_eq]
    split
    case isTrue => rfl
    case isFalse => exact closed
  | pushes pushes hands =>
    rw [hands.isClosed_eq, pushes.toAnnounces.isClosed_eq (Subscription.shown_closed _)]
    exact closed
  | ends ends hands =>
    rw [hands.isClosed_eq]
    unfold Supply.isClosed at closed ⊢
    rw [ends.subscription_eq]
    split
    case isTrue =>
      cases known : supply.subscription? number with
      | none =>
        rw [known] at closed
        cases closed
      | some subscription => rfl
    case isFalse => exact closed
  | hands kept hands =>
    rw [hands.isClosed_eq, kept.isClosed_eq]
    exact closed

/-- A usage can be cut at any of its steps. -/
theorem Usage.of_append (usage : Usage (early ++ step :: later) supply) :
    Usage early step.before := by
  generalize whole : early ++ step :: later = steps at usage
  induction usage generalizing later with
  | start => simp at whole
  | fetch earlier requirement ih => exact ih whole
  | @step steps before earlier move ih =>
    rcases List.eq_nil_or_concat later with rfl | ⟨rest, last, rfl⟩
    · obtain ⟨rfl, same⟩ := List.append_inj' whole rfl
      cases same
      exact earlier
    · rw [List.concat_eq_append, ← List.cons_append, ← List.append_assoc] at whole
      exact ih (List.append_inj' whole rfl).1

/-- Who is flagged after a step of a usage remains so. -/
theorem Usage.stays_closed (usage : Usage steps supply) (calm : Calm steps) (member : step ∈ steps)
    (closed : step.after.isClosed number = true) : supply.isClosed number = true := by
  induction usage with
  | start => cases member
  | fetch earlier requirement ih =>
    rw [(kept_fetch _ requirement).isClosed_eq]
    exact ih calm member
  | @step steps before earlier move ih =>
    obtain ⟨calmBefore, calmNow⟩ := calm.of_append
    rcases List.mem_append.mp member with early | last
    · have effect := Step.effect (earlier.aligned calmBefore).1
        (calmNow ⟨before, move⟩ List.mem_cons_self)
      exact effect.stays_closed (earlier.aligned calmBefore).1 (ih calmBefore early)
    · obtain rfl := List.mem_singleton.mp last
      exact closed

/-! ## Who is told the end -/

/-- Who is told the end was the next one to be told. -/
theorem Hands.told_eq (hands : supply.Hands (some (.failed number failure)) after) :
    supply.told = number :: after.told := by
  cases hands.handed with
  | told due deliveries_eq => exact due

/-- Who is no longer to be told has been told. -/
theorem Hands.failed_of_lt (hands : supply.Hands event after)
    (fewer : after.told.count number < supply.told.count number) :
    ∃ failure, event = some (.failed number failure) := by
  cases hands.handed with
  | nothing deliveries_eq told_eq =>
    rw [told_eq] at fewer
    exact absurd fewer (Nat.lt_irrefl _)
  | given due told_eq =>
    rw [told_eq] at fewer
    exact absurd fewer (Nat.lt_irrefl _)
  | @told other failure due deliveries_eq =>
    by_cases same : other = number
    · exact ⟨failure, by rw [same]⟩
    · rw [due, List.count_cons_of_ne same] at fewer
      exact absurd fewer (Nat.lt_irrefl _)

/-- So it is with every effect. -/
theorem Effect.failed_of_lt (effect : supply.Effect asked event after)
    (fewer : after.told.count number < supply.told.count number) :
    ∃ failure, event = some (.failed number failure) := by
  have stays : after.told = supply.told → ∃ failure, event = some (.failed number failure) := by
    intro told_eq
    rw [told_eq] at fewer
    exact absurd fewer (Nat.lt_irrefl _)
  cases effect with
  | aside kept => exact stays kept.1.told_eq
  | attaches attached moves => exact stays moves.told_eq
  | serves known opened asked moves => exact stays moves.told_eq
  | abandons known gone kept => exact stays kept.told_eq
  | leaves leaves =>
    obtain ⟨before, offer, middle, known, moves, kept, _⟩ := leaves
    exact stays (kept.told_eq.trans moves.told_eq)
  | pushes pushes hands =>
    rw [← pushes.told_eq] at fewer
    exact hands.failed_of_lt fewer
  | ends ends hands =>
    refine hands.failed_of_lt (Nat.lt_of_lt_of_le fewer ?_)
    rw [ends.told_eq, List.count_append]
    exact Nat.le_add_left _ _
  | hands kept hands =>
    rw [← kept.told_eq] at fewer
    exact hands.failed_of_lt fewer

/-- Who is told that there will be nothing more is flagged now, or was to be told the end, unless
it has asked although its producer is gone. -/
theorem Effect.failed (effect : supply.Effect asked (some (.failed number failure)) after)
    (tidy : supply.Tidy) (aligned : supply.Aligned) :
    (after.isClosed number).toNat + supply.told.count number =
        (supply.isClosed number).toNat + after.told.count number + 1 ∨
      asked = some number ∧ supply.isServed number = false := by
  cases effect with
  | aside kept => cases kept.2
  | attaches attached moves =>
    left
    cases attached with
    | ended first finished =>
      rw [moves.isClosed_eq, if_pos rfl, isClosed_nextId tidy, moves.told_eq]
      change 1 + _ = 0 + _ + 1
      omega
  | serves known opened asked moves =>
    left
    cases asked with
    | ended exhausted finished =>
      have number_eq := tidy.id_of_subscription? known
      rw [moves.isClosed_eq, if_pos rfl, number_eq, isClosed_of_known known, opened, moves.told_eq]
      change 1 + _ = 0 + _ + 1
      omega
    | waits quiet exhausted unfinished => cases quiet
  | abandons known gone kept =>
    right
    refine ⟨rfl, ?_⟩
    unfold isServed
    rw [known]
    exact gone
  | leaves leaves =>
    obtain ⟨before, offer, middle, known, moves, kept, quiet⟩ := leaves
    cases quiet
  | pushes pushes hands =>
    left
    rw [hands.isClosed_eq, pushes.toAnnounces.isClosed_eq (Subscription.shown_closed _),
      ← pushes.told_eq, hands.told_eq, List.count_cons_self, Nat.add_assoc]
  | ends ends hands =>
    left
    have shut := ends.toAnnounces.isClosed_shut tidy aligned (fun _ => rfl) number
    have told := congrArg (List.count number) (ends.told_eq.symm.trans hands.told_eq)
    rw [List.count_append, List.count_cons_self] at told
    rw [hands.isClosed_eq, shut]
    omega
  | hands kept hands =>
    left
    rw [hands.isClosed_eq, kept.isClosed_eq, ← kept.told_eq, hands.told_eq, List.count_cons_self,
      Nat.add_assoc]

/-! ## Steps at which consumers depart -/

/-- How often a consumer detaches at some steps. -/
def departures (number : SupplyId) (steps : List Step) : Nat :=
  ((departedBy steps).map Attachment.consumer).count number

theorem departures_append (number : SupplyId) (early later : List Step) :
    departures number (early ++ later) = departures number early + departures number later := by
  unfold departures departedBy
  rw [List.filterMap_append, List.map_append, List.count_append]

theorem departures_singleton (number : SupplyId) (step : Step) :
    departures number [step] = (step.departs?.map Attachment.consumer).toList.count number := by
  unfold departures
  rw [← List.nil_append [step], departedBy_concat, List.map_append, Option.toList_map]
  rfl

/-- A step of a usage is entered. -/
theorem Usage.booked (usage : Usage early step.before) (lenient : Lenient early)
    (covered : Covered early) (calm : step.turn.violation? = none) :
    step.before.Booked step.move step.turn := by
  obtain ⟨_, tidy, aligned, balanced⟩ := usage.balanced lenient covered
  exact (Step.enters tidy aligned balanced.fits).booked calm

/-- Flags and who is to be told the end change when a consumer departs. -/
theorem Booked.departures_eq (booked : step.before.Booked step.move step.turn)
    (number : SupplyId) : (step.after.isClosed number).toNat + step.before.told.count number =
      (step.before.isClosed number).toNat + step.after.told.count number +
        departures number [step] := by
  rw [departures_singleton]
  exact booked.closed_eq number

/-- A consumer that is flagged already departs only by being told the end. -/
theorem Booked.failed_of_departs (booked : step.before.Booked step.move step.turn)
    (tidy : step.before.Tidy) (calm : step.turn.violation? = none)
    (closed : step.before.isClosed number = true)
    (departs : step.departs?.map Attachment.consumer = some number) :
    ∃ failure, step.turn.event? = some (.failed number failure) := by
  have effect := Step.effect tidy calm
  have stays := effect.stays_closed tidy closed
  have counted := booked.departures_eq number
  rw [stays, closed, departures_singleton, departs, Option.toList_some,
    List.count_singleton_self] at counted
  exact effect.failed_of_lt (by omega)

/-- Who is told that there will be nothing more departs, unless it has asked although its producer
is gone. -/
theorem Booked.departs_of_failed (booked : step.before.Booked step.move step.turn)
    (tidy : step.before.Tidy) (aligned : step.before.Aligned)
    (calm : step.turn.violation? = none)
    (raised : step.turn.event? = some (.failed number failure)) :
    step.departs?.map Attachment.consumer = some number ∨
      step.move = .call (.ask number) ∧ step.before.isServed number = false := by
  have effect := Step.effect tidy calm
  rw [raised] at effect
  rcases effect.failed tidy aligned with told | ⟨asked, gone⟩
  · left
    have counted := booked.departures_eq number
    rw [departures_singleton] at counted
    have once : (step.departs?.map Attachment.consumer).toList.count number = 1 := by omega
    have member := List.count_pos_iff.mp (Nat.lt_of_lt_of_eq Nat.one_pos once.symm)
    exact Option.mem_toList.mp member
  · exact .inr ⟨Move.eq_ask_of_asked? asked, gone⟩

/-- Along a usage, who is told that there will be nothing more departs, with the same exception. -/
theorem Usage.departs_of_failed (usage : Usage steps supply) (lenient : Lenient steps)
    (covered : Covered steps) (member : step ∈ steps)
    (raised : step.turn.event? = some (.failed number failure)) :
    step.departs?.map Attachment.consumer = some number ∨
      step.move = .call (.ask number) ∧ step.before.isServed number = false := by
  obtain ⟨calm, _⟩ := usage.balanced lenient covered
  obtain ⟨opening, ⟨rest, rfl⟩, used⟩ := usage.exists_prefix member
  have now := calm step member
  have booked := used.booked lenient.of_append covered.of_append now
  exact booked.departs_of_failed used.orderly.tidy used.orderly.aligned now raised

/-- Once a consumer is flagged it departs only by being told the end. -/
theorem Usage.failed_of_departs (usage : Usage (early ++ step :: later) supply)
    (lenient : Lenient (early ++ step :: later)) (covered : Covered (early ++ step :: later))
    (flagged : step.after.isClosed number = true) {other : Step} (member : other ∈ later)
    (departs : other.departs?.map Attachment.consumer = some number) :
    ∃ failure, other.turn.event? = some (.failed number failure) := by
  obtain ⟨calm, _⟩ := usage.balanced lenient covered
  obtain ⟨inner, outer, rfl⟩ := List.append_of_mem member
  rw [← List.cons_append, ← List.append_assoc] at usage lenient covered calm
  obtain ⟨calmBefore, calmNow⟩ := calm.of_append
  have used := usage.of_append
  have now := calmNow other List.mem_cons_self
  have among : step ∈ early ++ step :: inner := List.mem_append_right early List.mem_cons_self
  have booked := used.booked lenient.of_append covered.of_append now
  exact booked.failed_of_departs used.orderly.tidy now (used.stays_closed calmBefore among flagged)
    departs

/-! ## When the end is declared -/

/-- Who waits is not flagged, nor to be told the end. -/
theorem Orderly.of_waits (orderly : supply.Orderly) (found : supply.producer? id = some producer)
    (waits : number ∈ producer.waiting) :
    supply.isClosed number = false ∧ number ∉ supply.told := by
  have offered := offer?_of_producer? found
  obtain ⟨subscription, known, _⟩ := orderly.tidy.waits id _ offered number waits
  have opened := orderly.aligned.waits id _ offered number waits subscription known
  refine ⟨(isClosed_of_known known).trans opened, fun member => ?_⟩
  obtain ⟨same, present, closed⟩ := orderly.aligned.told number member
  cases known.symm.trans present
  cases opened.symm.trans closed

/-- It is flagged before anybody is told. -/
theorem Orderly.isClosed_finish (orderly : supply.Orderly)
    (found : supply.producer? id = some producer) (waits : number ∈ producer.waiting)
    (calm : (supply.finish id).violation? = none) :
    (supply.finish id).supply.isClosed number = true := by
  have unfinished : producer.finished = false := by
    by_contra finished
    have refused := (Refuses.twice found (Bool.not_eq_false _ ▸ finished)).perform_eq orderly
    rw [show supply.finish id = _ from refused] at calm
    cases calm
  have announces := orderly.tidy.announces_end found unfinished
  have waited : number ∈ producer.offer.waiting := waits
  obtain ⟨subscription, known, _⟩ :=
    orderly.tidy.waits id _ (offer?_of_producer? found) number waited
  unfold finish
  rw [found]
  dsimp only
  rw [if_neg (Bool.eq_false_iff.mp unfinished)]
  have shut : (producer.waiting.toList.foldl markClosed (supply.putProducer
      { producer with finished := true, waiting := ∅ })).isClosed number = true := by
    rw [isClosed, announces.subscription_eq, if_pos waited, known]
    rfl
  unfold tellEnd
  split
  case h_1 => exact shut
  case h_2 => exact shut

/-- What becomes of a consumer that waits when the end is declared. -/
structure ToldOnce (number : SupplyId) (before : Supply) (rest : List Step) (after : Supply) :
    Prop where
  /-- It departs once, or is still to be told the end. -/
  once : after.told.count number + departures number rest = 1
  /-- It departs by being told the end. -/
  departs : ∀ step ∈ rest, step.departs?.map Attachment.consumer = some number →
    ∃ failure, step.turn.event? = some (.failed number failure)
  /-- It is told so at other times only if it asks although its producer is gone. -/
  tells : ∀ step ∈ rest, ∀ failure, step.turn.event? = some (.failed number failure) →
    step.departs?.map Attachment.consumer = some number ∨
      step.move = .call (.ask number) ∧ step.before.isServed number = false
  /-- It is not to be told any more when the call that declares the end has returned. -/
  returned : after.agenda <:+ before.agenda → number ∉ after.told

/-- **Who waits is told the end**, once, by the call that declares it. -/
theorem Usage.toldOnce (usage : Usage (early ++ step :: later) supply)
    (lenient : Lenient (early ++ step :: later)) (covered : Covered (early ++ step :: later))
    (declared : step.move = .call (.finish id))
    (found : step.before.producer? id = some producer) (waits : number ∈ producer.waiting) :
    ToldOnce number step.before (step :: later) supply := by
  obtain ⟨calm, _, _, balanced⟩ := usage.balanced lenient covered
  obtain ⟨_, _, _, balancedBefore⟩ := usage.of_append.balanced lenient.of_append covered.of_append
  have orderly := usage.of_append.orderly
  obtain ⟨opened, untold⟩ := orderly.of_waits found waits
  have among : step ∈ early ++ step :: later := List.mem_append_right early List.mem_cons_self
  have turn_eq : step.turn = step.before.finish id := by
    rw [Step.turn, declared]
    rfl
  have flagged : step.after.isClosed number = true := by
    rw [Step.after, turn_eq]
    exact orderly.isClosed_finish found waits (turn_eq ▸ calm step among)
  refine ⟨?once, ?departs, ?tells, ?returned⟩
  case once =>
    have fresh : (step.before.isClosed number).toNat =
        step.before.told.count number + departures number early := balancedBefore.closed_eq number
    have whole : (supply.isClosed number).toNat =
        supply.told.count number + departures number (early ++ step :: later) :=
      balanced.closed_eq number
    rw [opened, List.count_eq_zero.mpr untold, Bool.toNat_false] at fresh
    rw [usage.stays_closed calm among flagged, departures_append, Bool.toNat_true] at whole
    omega
  case departs =>
    refine List.forall_mem_cons.mpr ⟨fun departs => ?now, fun other member departs => ?rest⟩
    case rest => exact usage.failed_of_departs lenient covered flagged member departs
    case now =>
      obtain ⟨attachment, departed, rfl⟩ := Option.map_eq_some_iff.mp departs
      have parts := Move.parts_of_departs departed
      rw [declared] at parts
      obtain ⟨event, raised, told⟩ := Option.bind_eq_some_iff.mp parts
      obtain ⟨failure, rfl⟩ := SupplyEvent.eq_failed told
      exact ⟨failure, raised⟩
  case tells =>
    intro other member failure raised
    exact usage.departs_of_failed lenient covered (List.mem_append_right early member) raised
  case returned =>
    intro returned member
    refine untold ?_
    obtain ⟨inner, agenda⟩ := returned
    rw [Supply.told, ← agenda, List.flatMap_append]
    exact List.mem_append_right _ member

/-! ## Closing -/

/-- An attached consumer is flagged only when it is to be told the end. -/
theorem Balanced.flag_of_attached (balanced : Balanced steps supply)
    (attached : ⟨number, id⟩ ∈ attachedBy steps) :
    supply.owner? number = some id ∧ (supply.isClosed number = true ↔ number ∈ supply.told) := by
  obtain ⟨joined, stays⟩ := List.mem_filter.mp attached
  have owner := (balanced.owner_iff number id).mpr joined
  have present := mt (balanced.departed_iff owner).mp (of_decide_eq_true stays)
  have closed_eq := balanced.closed_eq number
  rw [List.count_eq_zero.mpr present, Nat.add_zero] at closed_eq
  refine ⟨owner, ?_⟩
  rw [← List.count_pos_iff, ← closed_eq]
  cases supply.isClosed number <;> decide

/-- A consumer whose producer is there has a subscription to it. -/
theorem Tidy.exists_serves (tidy : supply.Tidy) (owner : supply.owner? number = some id)
    (alive : supply.isAlive id = true) : ∃ producer subscription,
      supply.Serves producer number subscription ∧ producer.id = id := by
  obtain ⟨subscription, known, rfl⟩ := Option.map_eq_some_iff.mp owner
  obtain ⟨_, _, offer, offered⟩ := tidy.subscription_id number subscription known
  obtain ⟨producer, found, _⟩ := exists_producer?_of_offer? offered
  have own := tidy.id_of_producer? found
  exact ⟨producer, subscription, ⟨known, found, own ▸ alive⟩, own⟩

theorem Serves.isServed (serves : supply.Serves producer number subscription)
    (tidy : supply.Tidy) : supply.isServed number = true := by
  unfold Supply.isServed
  rw [serves.known]
  dsimp only
  rw [← tidy.id_of_producer? serves.found]
  exact serves.alive

/-- Closing a consumer that is not flagged gives back its reference. -/
theorem close_of_opened (serves : supply.Serves producer number subscription)
    (opened : subscription.closed = false) (held : producer.references ≠ 0) :
    ∃ after, supply.close number = .answer .done after ∧
      after.references producer.id + 1 = producer.references := by
  let left : Producer := { producer with waiting := producer.waiting.erase number }
  let middle := (supply.putSubscription { subscription with closed := true }).putProducer left
  have found : middle.producer? producer.id = some left := by
    rw [producer?_putProducer, if_pos rfl]
  refine ⟨middle.putProducer { left with references := left.references - 1 }, ?_, ?_⟩
  · rw [serves.close_eq, if_neg (Bool.eq_false_iff.mp opened)]
    exact releaseThen_of_held found held _
  · rw [references_putProducer, if_pos rfl]
    exact Nat.sub_one_add_one held

/-- How attached consumers depart. -/
structure Leavable (steps : List Step) (supply : Supply) : Prop where
  /-- Closing an attached consumer detaches it and gives back its reference, unless a call that is
  unfinished is to tell it the end. -/
  closes : ∀ number id, ⟨number, id⟩ ∈ attachedBy steps → supply.isAlive id = true →
    number ∉ supply.told → ∃ after, supply.close number = .answer .done after ∧
      after.Shut number ∧ after.references id + 1 = supply.references id
  /-- A consumer that is to be told the end is refused. -/
  refuses : ∀ number id, ⟨number, id⟩ ∈ attachedBy steps → supply.isAlive id = true →
    number ∈ supply.told →
      supply.close number = .violation (.closeOfClosed number) { supply with agenda := [] }
  /-- Who waits when the end is declared is told so once by the time the call returns. -/
  told : ∀ early step later id number producer, steps = early ++ step :: later →
    step.move = .call (.finish id) → step.before.producer? id = some producer →
      number ∈ producer.waiting → ToldOnce number step.before (step :: later) supply

/-- **Attached consumers leave.** Along every usage in which calls give back no more references
than they have taken, an attached consumer can be closed unless it is to be told the end, and
whoever waits when the end is declared is told so once. -/
theorem attached_leavable (usage : Usage steps supply) (lenient : Lenient steps)
    (covered : Covered steps) : Leavable steps supply := by
  obtain ⟨_, tidy, aligned, balanced⟩ := usage.balanced lenient covered
  refine ⟨?closes, ?refuses, ?told⟩
  case closes =>
    intro number id attached alive untold
    obtain ⟨owner, flag⟩ := balanced.flag_of_attached attached
    obtain ⟨producer, subscription, serves, rfl⟩ := tidy.exists_serves owner alive
    have opened : supply.isClosed number = false :=
      Bool.eq_false_iff.mpr fun closed => untold (flag.mp closed)
    have held : 0 < supply.references producer.id := by
      obtain ⟨_, joined, kept, own⟩ := balanced.exists_of_opened owner opened
      have enough := covered steps (List.prefix_refl steps) producer.id
      exact balanced.references_pos_of_unreturned enough joined kept own
    have references_eq : supply.references producer.id = producer.references := by
      refine references_of_found ?_
      rw [tidy.id_of_producer? serves.found]
      exact serves.found
    rw [references_eq] at held ⊢
    rw [isClosed_of_known serves.known] at opened
    obtain ⟨after, closed, fewer⟩ := close_of_opened serves opened (Nat.ne_of_gt held)
    have calm : (supply.close number).violation? = none := by
      rw [closed]
      rfl
    have shut := shut_close tidy aligned (serves.isServed tidy) calm
    rw [closed] at shut
    exact ⟨after, closed, shut, fewer⟩
  case refuses =>
    intro number id attached alive told
    obtain ⟨owner, flag⟩ := balanced.flag_of_attached attached
    obtain ⟨producer, subscription, serves, rfl⟩ := tidy.exists_serves owner alive
    have closed := flag.mpr told
    rw [isClosed_of_known serves.known] at closed
    exact (Refuses.closes serves closed).perform_eq usage.orderly
  case told =>
    rintro early step later id number producer rfl declared found waits
    exact usage.toldOnce lenient covered declared found waits

/-- Three consumers are given a quote. Two of them ask for more, and the end is declared: the first
one is told, and the second one is still to be. -/
def ending : List Move :=
  [.call (.create price), .call (.subscribe 0), .call (.subscribe 0), .call (.subscribe 0),
    .call (.push 0 (quote "spot")), .back, .back, .back, .call (.ask 1), .back, .call (.ask 2),
    .call (.finish 0)]

/-- While the first consumer is told the end, the second one is attached, and nobody has closed it.
But whoever closes it breaks a rule, and then it is never told, nor is its reference given back. -/
theorem attached_refused :
    ∃ (steps : List Step) (supply after : Supply), Usage steps supply ∧ Calm steps ∧
      Covered steps ∧ ⟨2, 0⟩ ∈ attachedBy steps ∧ supply.isAlive 0 = true ∧
        failures 2 (traceOf steps) = 0 ∧
          supply.close 2 = .violation (.closeOfClosed 2) after ∧ after.told = [] ∧
            after.references 0 = 4 := by
  have calm : Calm (stepsOf {} ending) := by
    unfold Calm
    decide +kernel
  have covered : Covered (stepsOf {} ending) := .of_forall_take (by decide +kernel)
  refine ⟨stepsOf {} ending, endOf {} ending, { endOf {} ending with agenda := [] },
    (course_stepsOf {} ending).usage, calm, covered, ?attached, ?alive, ?untold, ?refused, ?told,
    ?held⟩
  case attached => decide +kernel
  case alive => decide +kernel
  case untold => decide +kernel
  case refused => decide +kernel
  case told => rfl
  case held => decide +kernel

theorem attached_leavable_ending :
    ∃ (steps : List Step) (supply : Supply), Usage steps supply ∧ Lenient steps ∧ Covered steps ∧
      ⟨2, 0⟩ ∈ attachedBy steps ∧ ⟨3, 0⟩ ∈ attachedBy steps ∧ supply.isAlive 0 = true ∧
        supply.told = [2] ∧ Leavable steps supply := by
  have calm : Calm (stepsOf {} ending) := by
    unfold Calm
    decide +kernel
  have covered : Covered (stepsOf {} ending) := .of_forall_take (by decide +kernel)
  have usage : Usage (stepsOf {} ending) (endOf {} ending) := (course_stepsOf {} ending).usage
  refine ⟨stepsOf {} ending, endOf {} ending, usage, .of_calm calm, covered, ?second, ?third,
    ?alive, ?told, attached_leavable usage (.of_calm calm) covered⟩
  case second => decide +kernel
  case third => decide +kernel
  case alive => decide +kernel
  case told => decide +kernel

end Supply

end ValueEngine
