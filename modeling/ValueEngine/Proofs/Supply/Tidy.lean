import ValueEngine.Supply.Calls

/-!
# A tidy supply

What a call does is stated for the turn it ends with (`Turn.Ensures`). Whatever
user code calls, and wherever it calls from, producers and subscriptions stand
under their own numbers, a producer offers different candidates that meet its
requirement, and only its own subscriptions wait for it (`Supply.Tidy`).

Most calls concern references, the registry or the owners: they change neither a
subscription nor what a producer offers, and leave nothing to be given or told
(`Supply.Kept`).
-/

set_option autoImplicit false

namespace ValueEngine

/-! ## Turns -/

namespace Turn

/-- The user code that gets control at a turn. -/
def event? : Turn → Option SupplyEvent
  | .event raised _ => some raised
  | _ => none

/-- The rule that was broken. -/
def violation? : Turn → Option Violation
  | .violation broken _ => some broken
  | _ => none

/-- The turn reaches the goal unless a rule was broken. -/
def Ensures (goal : Option SupplyEvent → Supply → Prop) : Turn → Prop
  | .answer _ supply => goal none supply
  | .event raised supply => goal (some raised) supply
  | .violation _ _ => True

theorem Ensures.reached {goal : Option SupplyEvent → Supply → Prop} {turn : Turn}
    (ensures : turn.Ensures goal) (calm : turn.violation? = none) :
    goal turn.event? turn.supply := by
  cases turn with
  | answer answer supply => exact ensures
  | event event supply => exact ensures
  | violation violation supply => cases calm

theorem Ensures.mono {goal further : Option SupplyEvent → Supply → Prop} {turn : Turn}
    (ensures : turn.Ensures goal)
    (weaken : ∀ event supply, goal event supply → further event supply) :
    turn.Ensures further := by
  cases turn with
  | answer answer supply => exact weaken _ _ ensures
  | event event supply => exact weaken _ _ ensures
  | violation violation supply => exact trivial

end Turn

/-! ## What a producer offers -/

/-- What consumers see of a producer: everything but the references and the
recorded failure. -/
structure Offer where
  id : SupplyId
  requirement : Requirement
  results : List Candidate := []
  waiting : SortedSet SupplyId := ∅
  finished : Bool := false

/-- What a producer offers. -/
def Producer.offer (producer : Producer) : Offer where
  id := producer.id
  requirement := producer.requirement
  results := producer.results
  waiting := producer.waiting
  finished := producer.finished

/-- The consumer that is called. -/
def SupplyEvent.consumer? : SupplyEvent → Option SupplyId
  | resolved number _ => some number
  | failed number _ => some number
  | _ => none

/-- The candidates are different and meet the requirement. -/
structure Offer.Genuine (offer : Offer) : Prop where
  /-- No two candidates have the same specification. -/
  distinct : (offer.results.map Candidate.specification).Nodup
  /-- Every candidate meets the requirement. -/
  satisfying : ∀ value ∈ offer.results,
    offer.requirement.satisfiedBy value.specification = true

/-- Recording a cause of failure changes nothing that consumers see. -/
theorem Producer.offer_recordFailure (producer : Producer) (cause : Failure) :
    (producer.recordFailure cause).1.offer = producer.offer := by
  unfold Producer.recordFailure
  dsimp only
  split
  · rfl
  · split <;> rfl

/-- The producer with one more candidate, which nobody waits for any more. -/
def Producer.add (producer : Producer) (value : Candidate) : Producer :=
  { producer with results := producer.results ++ [value], waiting := ∅ }

/-- A new candidate with a new specification keeps an offer genuine. -/
theorem Offer.Genuine.add {producer : Producer} {value : Candidate}
    (genuine : producer.offer.Genuine)
    (satisfies : producer.requirement.satisfiedBy value.specification = true)
    (new : producer.offers value.specification = false) :
    (producer.add value).offer.Genuine := by
  have different : ∀ known ∈ producer.results, known.specification ≠ value.specification := by
    intro known member same
    have offered : producer.offers value.specification = true :=
      List.any_eq_true.mpr ⟨known, member, decide_eq_true same⟩
    exact Bool.false_ne_true (new.symm.trans offered)
  constructor
  · change ((producer.results ++ [value]).map Candidate.specification).Nodup
    rw [List.map_append, List.nodup_append]
    refine ⟨genuine.distinct, List.pairwise_singleton _ _, ?_⟩
    intro specification member other found same
    obtain ⟨known, offered, rfl⟩ := List.mem_map.mp member
    exact different known offered (same.trans (List.mem_singleton.mp found))
  · intro other member
    rcases List.mem_append.mp member with known | added
    · exact genuine.satisfying other known
    · rw [List.mem_singleton.mp added]
      exact satisfies

/-! ## What unfinished calls still owe -/

/-- The candidates that an unfinished call still gives. -/
def Frame.deliveries : Frame → List (SupplyId × Candidate)
  | delivering _ rest => rest
  | _ => []

/-- The subscriptions that an unfinished call still tells the end to. -/
def Frame.told : Frame → List SupplyId
  | failing _ _ rest => rest
  | _ => []

namespace Supply

/-- What the producer with a number offers. -/
def offer? (supply : Supply) (id : SupplyId) : Option Offer :=
  (supply.producer? id).map Producer.offer

/-- The candidates that the unfinished calls still give, the innermost call first. -/
def deliveries (supply : Supply) : List (SupplyId × Candidate) :=
  supply.agenda.flatMap Frame.deliveries

/-- The subscriptions that the unfinished calls still tell the end to. -/
def told (supply : Supply) : List SupplyId := supply.agenda.flatMap Frame.told

/-- Producers and subscriptions stand under their numbers, and what is offered is genuine. -/
structure Tidy (supply : Supply) : Prop where
  /-- A producer stands under its number. -/
  producer_id : ∀ id offer, supply.offer? id = some offer →
    offer.id = id ∧ id < supply.nextId
  /-- A subscription stands under its number and belongs to a producer. -/
  subscription_id : ∀ number subscription, supply.subscription? number = some subscription →
    subscription.id = number ∧ number < supply.nextId ∧
      ∃ offer, supply.offer? subscription.producer = some offer
  /-- Only its own subscriptions wait for a producer. -/
  waits : ∀ id offer, supply.offer? id = some offer → ∀ number ∈ offer.waiting,
    ∃ subscription, supply.subscription? number = some subscription ∧
      subscription.producer = id
  /-- What is offered is genuine. -/
  genuine : ∀ id offer, supply.offer? id = some offer → offer.Genuine

/-- Neither what is offered nor what is owed has changed, except that there may be
new producers. -/
structure Kept (supply after : Supply) : Prop where
  next_le : supply.nextId ≤ after.nextId
  subscription_eq : ∀ number, after.subscription? number = supply.subscription? number
  offer_eq : ∀ id, after.offer? id = supply.offer? id ∨
    supply.offer? id = none ∧ id < after.nextId ∧
      ∃ requirement, after.offer? id = some { id, requirement }
  deliveries_eq : after.deliveries = supply.deliveries
  told_eq : after.told = supply.told

variable {supply middle after : Supply}

/-! ## Writing down -/

theorem offer?_of_producer? {id : SupplyId} {producer : Producer}
    (found : supply.producer? id = some producer) : supply.offer? id = some producer.offer := by
  rw [offer?, found, Option.map_some]

theorem exists_producer?_of_offer? {id : SupplyId} {offer : Offer}
    (found : supply.offer? id = some offer) :
    ∃ producer, supply.producer? id = some producer ∧ producer.offer = offer :=
  Option.map_eq_some_iff.mp found

@[simp] theorem offer?_putProducer (supply : Supply) (producer : Producer) (id : SupplyId) :
    (supply.putProducer producer).offer? id =
      if producer.id = id then some producer.offer else supply.offer? id := by
  unfold offer? producer? putProducer
  rw [SortedMap.get?_insert]
  split <;> rfl

@[simp] theorem subscription?_putProducer (supply : Supply) (producer : Producer)
    (number : SupplyId) :
    (supply.putProducer producer).subscription? number = supply.subscription? number := rfl

@[simp] theorem subscription?_putSubscription (supply : Supply) (subscription : Subscription)
    (number : SupplyId) :
    (supply.putSubscription subscription).subscription? number =
      if subscription.id = number then some subscription else supply.subscription? number :=
  SortedMap.get?_insert supply.subscriptions subscription.id number subscription

@[simp] theorem offer?_putSubscription (supply : Supply) (subscription : Subscription)
    (id : SupplyId) : (supply.putSubscription subscription).offer? id = supply.offer? id := rfl

/-- Writing down a producer as it is changes nothing. -/
theorem putProducer_eq_self {producer : Producer}
    (found : supply.producer? producer.id = some producer) :
    supply.putProducer producer = supply :=
  congrArg (fun producers => { supply with producers }) (SortedMap.insert_eq_self found)

/-- So it is with a subscription. -/
theorem putSubscription_eq_self {subscription : Subscription}
    (known : supply.subscription? subscription.id = some subscription) :
    supply.putSubscription subscription = supply :=
  congrArg (fun subscriptions => { supply with subscriptions }) (SortedMap.insert_eq_self known)

@[simp] theorem deliveries_pushFrame (supply : Supply) (frame : Frame) :
    (supply.pushFrame frame).deliveries = frame.deliveries ++ supply.deliveries :=
  List.flatMap_cons

@[simp] theorem told_pushFrame (supply : Supply) (frame : Frame) :
    (supply.pushFrame frame).told = frame.told ++ supply.told :=
  List.flatMap_cons

theorem Tidy.id_of_producer? (tidy : supply.Tidy) {id : SupplyId} {producer : Producer}
    (found : supply.producer? id = some producer) : producer.id = id :=
  (tidy.producer_id id _ (offer?_of_producer? found)).1

theorem Tidy.offered (tidy : supply.Tidy) {id : SupplyId} {producer : Producer}
    (found : supply.producer? id = some producer) :
    supply.offer? producer.id = some producer.offer := by
  rw [tidy.id_of_producer? found]
  exact offer?_of_producer? found

theorem Tidy.id_of_subscription? (tidy : supply.Tidy) {number : SupplyId}
    {subscription : Subscription} (found : supply.subscription? number = some subscription) :
    subscription.id = number :=
  (tidy.subscription_id number subscription found).1

/-! ## What keeps everything -/

theorem Kept.refl (supply : Supply) : supply.Kept supply :=
  ⟨Nat.le_refl _, fun _ => rfl, fun _ => Or.inl rfl, rfl, rfl⟩

theorem Kept.trans (first : supply.Kept middle) (second : middle.Kept after) :
    supply.Kept after where
  next_le := Nat.le_trans first.next_le second.next_le
  subscription_eq number := (second.subscription_eq number).trans (first.subscription_eq number)
  offer_eq id := by
    rcases second.offer_eq id with same | ⟨absent, below, requirement, found⟩
    · rcases first.offer_eq id with earlier | ⟨absent, below, requirement, found⟩
      · exact Or.inl (same.trans earlier)
      · exact Or.inr ⟨absent, Nat.lt_of_lt_of_le below second.next_le, requirement,
          same.trans found⟩
    · rcases first.offer_eq id with earlier | ⟨earlier, _⟩
      · exact Or.inr ⟨earlier.symm.trans absent, below, requirement, found⟩
      · exact Or.inr ⟨earlier, below, requirement, found⟩
  deliveries_eq := second.deliveries_eq.trans first.deliveries_eq
  told_eq := second.told_eq.trans first.told_eq

/-- A frame that owes nothing changes nothing. -/
theorem kept_pushFrame (supply : Supply) {frame : Frame} (given : frame.deliveries = [])
    (told : frame.told = []) : supply.Kept (supply.pushFrame frame) := by
  refine ⟨Nat.le_refl _, fun _ => rfl, fun _ => Or.inl rfl, ?_, ?_⟩
  · rw [deliveries_pushFrame, given, List.nil_append]
  · rw [told_pushFrame, told, List.nil_append]

/-- Neither does its removal. -/
theorem pushFrame_kept (supply : Supply) {frame : Frame} (given : frame.deliveries = [])
    (told : frame.told = []) : (supply.pushFrame frame).Kept supply := by
  refine ⟨Nat.le_refl _, fun _ => rfl, fun _ => Or.inl rfl, ?_, ?_⟩
  · rw [deliveries_pushFrame, given, List.nil_append]
  · rw [told_pushFrame, told, List.nil_append]

/-- What is kept is kept under any frame. -/
theorem Kept.pushFrame (kept : supply.Kept after) (frame : Frame) :
    (supply.pushFrame frame).Kept (after.pushFrame frame) where
  next_le := kept.next_le
  subscription_eq := kept.subscription_eq
  offer_eq := kept.offer_eq
  deliveries_eq := by rw [deliveries_pushFrame, deliveries_pushFrame, kept.deliveries_eq]
  told_eq := by rw [told_pushFrame, told_pushFrame, kept.told_eq]

/-- Neither does a change of references or of the recorded failure. -/
theorem Tidy.kept_putProducer (tidy : supply.Tidy) {id : SupplyId}
    {producer changed : Producer} (found : supply.producer? id = some producer)
    (same : changed.offer = producer.offer) : supply.Kept (supply.putProducer changed) := by
  refine ⟨Nat.le_refl _, fun _ => rfl, fun other => Or.inl ?_, rfl, rfl⟩
  have own : changed.id = id := (congrArg Offer.id same).trans (tidy.id_of_producer? found)
  rw [offer?_putProducer]
  split
  case isTrue equal => rw [same, ← equal, own, offer?_of_producer? found]
  case isFalse => rfl

/-- What keeps everything keeps the supply tidy. -/
theorem Tidy.kept (tidy : supply.Tidy) (kept : supply.Kept after) : after.Tidy where
  producer_id id offer found := by
    rcases kept.offer_eq id with same | ⟨_, below, requirement, new⟩
    · obtain ⟨own, below⟩ := tidy.producer_id id offer (same.symm.trans found)
      exact ⟨own, Nat.lt_of_lt_of_le below kept.next_le⟩
    · rw [new, Option.some.injEq] at found
      exact ⟨found ▸ rfl, below⟩
  subscription_id number subscription found := by
    rw [kept.subscription_eq] at found
    obtain ⟨own, below, offer, offered⟩ := tidy.subscription_id number subscription found
    refine ⟨own, Nat.lt_of_lt_of_le below kept.next_le, offer, ?_⟩
    rcases kept.offer_eq subscription.producer with same | ⟨absent, _⟩
    · rw [same, offered]
    · rw [absent] at offered
      cases offered
  waits id offer found number member := by
    rw [kept.subscription_eq]
    rcases kept.offer_eq id with same | ⟨_, _, requirement, new⟩
    · exact tidy.waits id offer (same.symm.trans found) number member
    · rw [new, Option.some.injEq] at found
      rw [← found] at member
      exact absurd member (SortedSet.not_mem_empty number)
  genuine id offer found := by
    rcases kept.offer_eq id with same | ⟨_, _, requirement, new⟩
    · exact tidy.genuine id offer (same.symm.trans found)
    · rw [new, Option.some.injEq] at found
      rw [← found]
      exact ⟨List.nodup_nil, fun value member => absurd member List.not_mem_nil⟩

/-! ## Calls about references, owners and the registry -/

/-- Everything is kept, and no consumer is called. -/
def KeptAside (supply : Supply) (event : Option SupplyEvent) (after : Supply) : Prop :=
  supply.Kept after ∧ event.bind SupplyEvent.consumer? = none

theorem Kept.aside {event : Option SupplyEvent} (kept : supply.Kept middle)
    (aside : middle.KeptAside event after) : supply.KeptAside event after :=
  ⟨kept.trans aside.1, aside.2⟩

theorem kept_of_eq (producers : after.producers = supply.producers)
    (subscriptions : after.subscriptions = supply.subscriptions)
    (agenda : after.agenda = supply.agenda) (next : after.nextId = supply.nextId) :
    supply.Kept after := by
  refine ⟨Nat.le_of_eq next.symm, fun number => ?_, fun id => Or.inl ?_, ?_, ?_⟩
  · rw [subscription?, subscriptions, subscription?]
  · rw [offer?, producer?, producers, offer?, producer?]
  · rw [deliveries, agenda, deliveries]
  · rw [told, agenda, told]

variable {id : SupplyId} {requirement : Requirement}

theorem addReference_kept (tidy : supply.Tidy) (id : SupplyId) :
    (supply.addReference id).Ensures supply.KeptAside := by
  unfold addReference
  split
  case h_1 => exact trivial
  case h_2 producer found =>
    split
    case isTrue => exact trivial
    case isFalse => exact ⟨tidy.kept_putProducer found rfl, rfl⟩

theorem releaseThen_kept (tidy : supply.Tidy) (id : SupplyId) (answer : Nat → Answer) :
    (supply.releaseThen id answer).Ensures supply.KeptAside := by
  unfold releaseThen
  split
  case h_1 => exact trivial
  case h_2 producer found =>
    split
    case isTrue => exact trivial
    case isFalse => exact ⟨tidy.kept_putProducer found rfl, rfl⟩

theorem event?_releaseThen (supply : Supply) (id : SupplyId) (answer : Nat → Answer) :
    (supply.releaseThen id answer).event? = none := by
  unfold releaseThen
  split
  case h_1 => rfl
  case h_2 => split <;> rfl

theorem create_kept (tidy : supply.Tidy) (requirement : Requirement) :
    (supply.create requirement).Ensures supply.KeptAside := by
  refine ⟨⟨Nat.le_succ _, fun _ => rfl, fun id => ?_, rfl, rfl⟩, rfl⟩
  have same := offer?_putProducer supply { id := supply.nextId, requirement } id
  by_cases new : supply.nextId = id
  · refine Or.inr ⟨?_, new ▸ Nat.lt_succ_self _, requirement, ?_⟩
    · cases found : supply.offer? id with
      | none => rfl
      | some offer => exact absurd (tidy.producer_id id offer found).2 (new ▸ Nat.lt_irrefl _)
    · rw [if_pos new] at same
      exact same.trans (by rw [← new]; rfl)
  · rw [if_neg new] at same
    exact Or.inl same

theorem recordFailure_kept (tidy : supply.Tidy) (id : SupplyId) (cause : Failure) :
    (supply.recordFailure id cause).Ensures supply.KeptAside := by
  unfold recordFailure
  split
  case h_1 => exact trivial
  case h_2 producer found =>
    have same := producer.offer_recordFailure cause
    split
    case h_1 changed recorded =>
      rw [recorded] at same
      exact ⟨tidy.kept_putProducer found same, rfl⟩
    case h_2 => exact trivial

theorem results_kept (supply : Supply) (id : SupplyId) :
    (supply.results id).Ensures supply.KeptAside := by
  unfold results
  split
  case h_1 => exact trivial
  case h_2 =>
    split
    case isTrue => exact ⟨Kept.refl supply, rfl⟩
    case isFalse => exact trivial

theorem seek_kept (supply : Supply) (id : SupplyId) :
    (supply.seek id).Ensures supply.KeptAside :=
  ⟨kept_pushFrame supply rfl rfl, rfl⟩

theorem handOut_kept (tidy : supply.Tidy) {producer : Producer}
    (found : supply.producer? id = some producer) :
    (supply.handOut producer).Ensures supply.KeptAside := by
  have kept : supply.Kept
      (supply.putProducer { producer with references := producer.references + 1 }) :=
    tidy.kept_putProducer found rfl
  exact ⟨kept.trans (kept_of_eq rfl rfl rfl rfl), rfl⟩

theorem exists_producer?_of_referenced? {producer : Producer}
    (found : supply.referenced? requirement = some producer) :
    ∃ id, supply.producer? id = some producer := by
  obtain ⟨known, _⟩ := Option.filter_eq_some_iff.mp found
  obtain ⟨id, _, present⟩ := Option.bind_eq_some_iff.mp known
  exact ⟨id, present⟩

theorem obtain_kept (tidy : supply.Tidy) (requirement : Requirement) :
    (supply.obtain requirement).Ensures supply.KeptAside := by
  unfold Supply.obtain
  split
  case h_1 producer found =>
    obtain ⟨id, present⟩ := exists_producer?_of_referenced? found
    exact handOut_kept tidy present
  case h_2 => exact ⟨kept_pushFrame supply rfl rfl, rfl⟩

theorem install_kept (tidy : supply.Tidy) (requirement : Requirement) :
    (supply.install requirement).Ensures supply.KeptAside := by
  unfold install
  split
  case h_1 producer found =>
    obtain ⟨id, present⟩ := exists_producer?_of_referenced? found
    exact handOut_kept tidy present
  case h_2 =>
    have kept : supply.Kept
        { supply with registry := supply.registry.insert requirement supply.nextId } :=
      kept_of_eq rfl rfl rfl rfl
    exact (create_kept (tidy.kept kept) requirement).mono fun _ _ => kept.aside

theorem releaseRegistered_kept (tidy : supply.Tidy) (requirement : Requirement) :
    (supply.releaseRegistered requirement).Ensures supply.KeptAside := by
  unfold releaseRegistered
  split
  case h_1 => exact ⟨Kept.refl supply, rfl⟩
  case h_2 producer found =>
    dsimp only
    split
    case isTrue =>
      have kept : supply.Kept { supply with registry := supply.registry.erase requirement } :=
        kept_of_eq rfl rfl rfl rfl
      exact (releaseThen_kept (tidy.kept kept) _ _).mono fun _ _ => kept.aside
    case isFalse => exact releaseThen_kept tidy _ _

end Supply

end ValueEngine
