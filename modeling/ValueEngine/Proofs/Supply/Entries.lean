import Mathlib.Data.List.Nodup
import ValueEngine.Proofs.Supply.Ledger

/-!
# What producers enter into the books

Calls about references take and give them back as they say. All other calls of producers,
and calls that go on, leave the references of their makers alone; they may give back the
reference of a consumer that was told the end, and tell the next one (`Supply.Opened`).
-/

set_option autoImplicit false

namespace ValueEngine

/-- Recording a cause of failure takes and gives no reference. -/
theorem Producer.references_recordFailure (producer : Producer) (cause : Failure) :
    (producer.recordFailure cause).1.references = producer.references := by
  unfold Producer.recordFailure
  dsimp only
  split
  · rfl
  · split <;> rfl

namespace Supply

open Move

variable {supply after : Supply} {id number : SupplyId} {producer : Producer}

/-! ## References -/

/-- One reference more. -/
theorem references_gain (found : supply.producer? id = some producer) (own : producer.id = id)
    (other : SupplyId) :
    (supply.putProducer { producer with references := producer.references + 1 }).references other =
      supply.references other + [id].count other := by
  rw [references_putProducer, own]
  by_cases same : id = other
  · subst same
    simp [references_of_found found]
  · simp [same]

/-- One reference less. -/
theorem references_spend (found : supply.producer? id = some producer) (own : producer.id = id)
    (held : producer.references ≠ 0) (other : SupplyId) :
    (supply.putProducer { producer with references := producer.references - 1 }).references other +
      [id].count other = supply.references other := by
  rw [references_putProducer, own]
  by_cases same : id = other
  · subst same
    simp [references_of_found found]
    omega
  · simp [same]

/-- Giving back a reference ends with one less, if there is one. -/
theorem releaseThen_enters {whole : Supply} {move : Move} (id : SupplyId)
    (answer : Nat → Answer)
    (short : ∀ producer, supply.producer? id = some producer → producer.references = 0 →
      whole.references producer.id = 0 ∧ whole.Repays producer.id move)
    (spent : ∀ producer, supply.producer? id = some producer → producer.references ≠ 0 →
      whole.Booked move (.answer (answer (producer.references - 1))
        (supply.putProducer { producer with references := producer.references - 1 }))) :
    whole.Enters move (supply.releaseThen id answer) := by
  unfold releaseThen
  split
  case h_1 => exact trivial
  case h_2 producer found =>
    split
    case isTrue none => exact short producer found none
    case isFalse held => exact spent producer found held

theorem enters_addReference (tidy : supply.Tidy) (id : SupplyId) :
    supply.Enters (.call (.addReference id)) (supply.addReference id) := by
  unfold addReference
  split
  case h_1 => exact trivial
  case h_2 producer found =>
    split
    case isTrue => exact trivial
    case isFalse =>
      exact .aside rfl rfl rfl rfl (references_gain found (tidy.id_of_producer? found))

theorem enters_release (tidy : supply.Tidy) (id : SupplyId) :
    supply.Enters (.call (.release id)) (supply.release id) := by
  refine releaseThen_enters id .count (fun producer found none => ?_) fun producer found held => ?_
  · have own := tidy.id_of_producer? found
    exact ⟨own ▸ (references_of_found found).trans none, .gives (congrArg some own.symm)⟩
  · exact .aside rfl rfl rfl rfl (references_spend found (tidy.id_of_producer? found) held)

theorem enters_releaseRegistered (tidy : supply.Tidy) (requirement : Requirement) :
    supply.Enters (.call (.releaseRegistered requirement))
      (supply.releaseRegistered requirement) := by
  unfold releaseRegistered
  split
  case h_1 absent =>
    refine .aside rfl rfl rfl rfl fun other => ?_
    simp [gives?, takes?, Turn.answer?, Answer.producer?, absent]
  case h_2 producer found =>
    have own : supply.producer? producer.id = some producer := by
      obtain ⟨id, _, known⟩ := Option.bind_eq_some_iff.mp found
      rwa [tidy.id_of_producer? known]
    have given : (Move.call (.releaseRegistered requirement)).gives? supply = some producer.id := by
      simp [gives?, found]
    have settles : ∀ registry, supply.Enters (.call (.releaseRegistered requirement))
        ({ supply with registry }.releaseThen producer.id fun remaining =>
          .countIfKnown (some remaining)) := by
      intro registry
      refine releaseThen_enters producer.id _ (fun same known none => ?_) fun same known held => ?_
      · cases own.symm.trans known
        exact ⟨(references_of_found own).trans none, .gives given⟩
      · cases own.symm.trans known
        refine .aside rfl rfl rfl rfl fun other => ?_
        rw [given]
        exact references_spend own rfl held other
    dsimp only
    split
    case isTrue => exact settles _
    case isFalse => exact settles supply.registry

/-! ## Producers and the registry -/

/-- There is nothing with the next number yet. -/
theorem references_nextId (tidy : supply.Tidy) : supply.references supply.nextId = 0 := by
  unfold references
  cases found : supply.producer? supply.nextId with
  | none => rfl
  | some producer =>
    exact absurd (tidy.producer_id _ _ (offer?_of_producer? found)).2 (Nat.lt_irrefl _)

/-- A step that neither takes nor gives a reference for its maker, after what it does at first:
it may have given back the reference of a consumer, and some consumers may be due to be told the
end. -/
structure Opened (whole : Supply) (move : Move) (returned : Option SupplyId) (due : List SupplyId)
    (supply : Supply) : Prop where
  gives : move.gives? whole = none
  joins : move.joins? whole = none
  returns : ∀ turn, move.returns? whole turn = returned
  parts : ∀ turn, move.parts? turn = turn.event?.bind SupplyEvent.failed?
  takes : ∀ turn, move.takes? turn = turn.answer?.bind Answer.producer?
  owner_eq : ∀ number, supply.owner? number = whole.owner? number
  closed_eq : ∀ number, (supply.isClosed number).toNat + whole.told.count number =
    (whole.isClosed number).toNat + (due ++ supply.told).count number
  references_eq : ∀ id, supply.references id + returned.toList.count id = whole.references id
  agenda_eq : supply.agenda = move.base whole.agenda

namespace Opened

variable {whole : Supply} {move : Move} {returned : Option SupplyId} {due : List SupplyId}

/-- A call opens with what it finds. -/
theorem of_call {made : Call} (gives : (Move.call made).gives? supply = none)
    (joins : (Move.call made).joins? supply = none)
    (parts : ∀ turn, (Move.call made).parts? turn = turn.event?.bind SupplyEvent.failed?)
    (takes : ∀ turn, (Move.call made).takes? turn = turn.answer?.bind Answer.producer?) :
    Opened supply (.call made) none [] supply := by
  refine ⟨gives, joins, fun turn => ?_, parts, takes, fun _ => rfl, fun _ => rfl, fun _ => rfl, rfl⟩
  cases turn with
  | answer answer after =>
    have stays : (Move.call made).departs? (.answer answer after) = none :=
      departs?_eq_none (parts _)
    change ((Move.call made).departs? _).map _ = none
    rw [stays]
    rfl
  | event event after => rfl
  | violation violation after =>
    have stays : (Move.call made).departs? (.violation violation after) = none :=
      departs?_eq_none (parts _)
    change ((Move.call made).departs? _).map _ = none
    rw [stays]
    rfl

/-- A call that goes on opens with what it is to do. -/
theorem of_resume (supply : Supply) (frame : Frame) (owes : frame.owes? = none) :
    Opened (supply.pushFrame frame) .back none frame.told supply where
  gives := rfl
  joins := rfl
  returns _ := owes
  parts _ := rfl
  takes _ := rfl
  owner_eq _ := rfl
  closed_eq number := by rw [told_pushFrame, isClosed_pushFrame]
  references_eq _ := rfl
  agenda_eq := rfl

/-- A call that owes a reference gives it back first. -/
theorem of_resume_spent (tidy : supply.Tidy) (frame : Frame) (owes : frame.owes? = some id)
    (found : supply.producer? id = some producer) (held : producer.references ≠ 0) :
    Opened (supply.pushFrame frame) .back (some id) frame.told
      (supply.putProducer { producer with references := producer.references - 1 }) where
  gives := rfl
  joins := rfl
  returns _ := owes
  parts _ := rfl
  takes _ := rfl
  owner_eq _ := rfl
  closed_eq number := by
    rw [told_pushFrame, isClosed_pushFrame, isClosed_putProducer]
    rfl
  references_eq := references_spend found (tidy.id_of_producer? found) held
  agenda_eq := rfl

/-- It answers, when nobody is due to be told anything. -/
theorem answers (opened : Opened whole move returned [] supply) {answer : Answer}
    (nothing : answer.producer? = none) : whole.Booked move (.answer answer supply) := by
  refine ⟨fun id => ?_, fun number id => ?_, fun number => ?_, fun _ => opened.agenda_eq,
    fun raises => absurd rfl raises⟩
  · rw [opened.gives, opened.joins, opened.returns, opened.takes]
    change supply.references id + 0 + _ = whole.references id + answer.producer?.toList.count id + 0
    rw [nothing]
    exact opened.references_eq id
  · change supply.owner? number = some id ↔ _
    rw [opened.owner_eq, opened.joins]
    simp
  · rw [departs?_eq_none (opened.parts _)]
    exact opened.closed_eq number

/-- It answers with a producer on which it takes a reference. -/
theorem hands (opened : Opened whole move none [] supply) {after : Supply} (id : SupplyId)
    (owner_eq : ∀ number, after.owner? number = supply.owner? number)
    (closed_eq : ∀ number, after.isClosed number = supply.isClosed number)
    (told_eq : after.told = supply.told) (agenda_eq : after.agenda = supply.agenda)
    (references_eq : ∀ other, after.references other =
      supply.references other + [id].count other) :
    whole.Booked move (.answer (.producer id) after) := by
  refine ⟨fun other => ?_, fun number other => ?_, fun number => ?_,
    fun _ => agenda_eq.trans opened.agenda_eq, fun raises => absurd rfl raises⟩
  · rw [opened.gives, opened.joins, opened.returns, opened.takes, ← opened.references_eq other]
    exact references_eq other
  · change after.owner? number = some other ↔ _
    rw [owner_eq, opened.owner_eq, opened.joins]
    simp
  · rw [departs?_eq_none (opened.parts _)]
    change (after.isClosed number).toNat + _ = _ + after.told.count number + 0
    rw [closed_eq, told_eq]
    exact opened.closed_eq number

/-- A new producer is made. -/
theorem create (opened : Opened whole move none [] supply) (tidy : supply.Tidy)
    (requirement : Requirement) (registry : SortedMap Requirement SupplyId) :
    whole.Enters move ({ supply with registry }.create requirement) := by
  refine opened.hands supply.nextId (fun _ => rfl) (fun _ => rfl) rfl rfl fun other => ?_
  change (supply.putProducer { id := supply.nextId, requirement }).references other = _
  rw [references_putProducer]
  by_cases same : supply.nextId = other
  · subst same
    simp [references_nextId tidy]
  · simp [same]

/-- A registered producer is handed out, or a new one is made for a source. -/
theorem install (opened : Opened whole move none [] supply) (tidy : supply.Tidy)
    (requirement : Requirement) : whole.Enters move (supply.install requirement) := by
  unfold Supply.install
  split
  case h_1 producer found =>
    obtain ⟨id, known⟩ := exists_producer?_of_referenced? found
    exact opened.hands producer.id (fun _ => rfl) (fun _ => rfl) rfl rfl
      (references_gain (tidy.id_of_producer? known ▸ known) rfl)
  case h_2 => exact opened.create tidy requirement _

/-- User code is called that is no consumer which is told the end. -/
theorem calls (opened : Opened whole move returned [] supply) {event : SupplyEvent} {frame : Frame}
    (goes_on : event.failed? = none) (told : frame.told = []) (owes : frame.owes? = none)
    (fits : (supply.pushFrame frame).Fits frame) :
    whole.Booked move (.event event (supply.pushFrame frame)) := by
  have stays : move.departs? (.event event (supply.pushFrame frame)) = none :=
    departs?_eq_none ((opened.parts _).trans goes_on)
  refine ⟨fun id => ?_, fun number id => ?_, fun number => ?_, nofun,
    fun _ => ⟨frame, ?_, ?_, fits⟩⟩
  · rw [opened.gives, opened.joins, opened.returns, opened.takes]
    exact opened.references_eq id
  · change supply.owner? number = some id ↔ _
    rw [opened.owner_eq, opened.joins]
    simp
  · rw [stays]
    change (supply.isClosed number).toNat + _ = _ + (supply.pushFrame frame).told.count number + 0
    rw [told_pushFrame, told]
    exact opened.closed_eq number
  · exact congrArg (frame :: ·) opened.agenda_eq
  · rw [stays, owes]
    rfl

/-- Values are given to the rest of those that waited. -/
theorem deliver (opened : Opened whole move returned [] supply) (id : SupplyId)
    (deliveries : List (SupplyId × Candidate)) :
    whole.Enters move (supply.deliver id deliveries) := by
  cases deliveries with
  | nil => exact opened.answers rfl
  | cons delivery rest => exact opened.calls rfl rfl rfl trivial

/-- The end is told to those that are due, one after the other. -/
theorem tellEnd (opened : Opened whole move returned due supply)
    (owned : ∀ number ∈ due, supply.owner? number = some id) (failure : Option Failure) :
    whole.Enters move (supply.tellEnd id failure due) := by
  cases due with
  | nil => exact opened.answers rfl
  | cons first rest =>
    let after := supply.pushFrame (.failing id failure rest)
    have departs : move.departs? (.event (.failed first failure) after) = some ⟨first, id⟩ := by
      refine departs?_eq_some (opened.parts _) ?_ (isAlive_pushFrame_of_eq rfl)
      exact owned first List.mem_cons_self
    change whole.Booked move (.event (.failed first failure) after)
    refine ⟨fun other => ?_, fun number other => ?_, fun number => ?_, nofun,
      fun _ => ⟨.failing id failure rest, ?_, ?_, ?_⟩⟩
    · rw [opened.gives, opened.joins, opened.returns, opened.takes]
      exact opened.references_eq other
    · change supply.owner? number = some other ↔ _
      rw [opened.owner_eq, opened.joins]
      simp
    · rw [departs]
      have closed_eq := opened.closed_eq number
      change (supply.isClosed number).toNat + _ = _ + (rest ++ supply.told).count number +
        [first].count number
      rw [closed_eq, List.cons_append, ← List.singleton_append, List.count_append]
      omega
    · exact congrArg (Frame.failing id failure rest :: ·) opened.agenda_eq
    · rw [departs]
      rfl
    · exact fun number member => owned number (List.mem_cons_of_mem _ member)

end Opened

theorem enters_create (tidy : supply.Tidy) (requirement : Requirement) :
    supply.Enters (.call (.create requirement)) (supply.create requirement) :=
  (Opened.of_call rfl rfl (fun _ => rfl) fun _ => rfl).create tidy requirement supply.registry

theorem enters_obtain (tidy : supply.Tidy) (requirement : Requirement) :
    supply.Enters (.call (.obtain requirement)) (supply.obtain requirement) := by
  have opened : Opened supply (.call (.obtain requirement)) none [] supply :=
    .of_call rfl rfl (fun _ => rfl) fun _ => rfl
  unfold obtain
  split
  case h_1 producer found =>
    obtain ⟨id, known⟩ := exists_producer?_of_referenced? found
    exact opened.hands producer.id (fun _ => rfl) (fun _ => rfl) rfl rfl
      (references_gain (tidy.id_of_producer? known ▸ known) rfl)
  case h_2 => exact opened.calls rfl rfl rfl trivial

theorem enters_purge (supply : Supply) : supply.Enters (.call .purge) supply.purge :=
  .aside rfl rfl rfl rfl fun _ => rfl

theorem enters_disown (supply : Supply) (id : SupplyId) :
    supply.Enters (.call (.disown id)) (supply.disown id) :=
  .aside rfl rfl rfl rfl fun _ => rfl

theorem enters_results (supply : Supply) (id : SupplyId) :
    supply.Enters (.call (.results id)) (supply.results id) := by
  unfold results
  split
  case h_1 => exact trivial
  case h_2 producer found =>
    split
    case isTrue => exact .aside rfl rfl rfl rfl fun _ => rfl
    case isFalse => exact trivial

theorem enters_recordFailure (tidy : supply.Tidy) (id : SupplyId) (cause : Failure) :
    supply.Enters (.call (.recordFailure id cause)) (supply.recordFailure id cause) := by
  unfold recordFailure
  split
  case h_1 => exact trivial
  case h_2 producer found =>
    have kept : ∀ changed mixed, producer.recordFailure cause = (changed, mixed) →
        changed.id = id ∧ changed.references = producer.references := by
      intro changed mixed recorded
      have same := producer.offer_recordFailure cause
      rw [recorded] at same
      refine ⟨(congrArg Offer.id same).trans (tidy.id_of_producer? found), ?_⟩
      rw [← producer.references_recordFailure cause, recorded]
    split
    case h_1 changed recorded =>
      obtain ⟨own, references_eq⟩ := kept changed none recorded
      refine .aside rfl rfl rfl rfl fun other => ?_
      change (supply.putProducer changed).references other = supply.references other
      rw [references_putProducer, own]
      split
      case isTrue same =>
        subst same
        rw [references_eq, references_of_found found]
      case isFalse => rfl
    case h_2 => exact trivial

theorem enters_seek (supply : Supply) (id : SupplyId) :
    supply.Enters (.call (.seek id)) (supply.seek id) :=
  .called (departs?_eq_none rfl) rfl (fun _ => rfl) (fun _ => rfl) rfl rfl rfl rfl fun _ => rfl

/-! ## Announcements -/

section Announcements

variable {whole : Supply} {move : Move} {due : List SupplyId} {offer changed : Offer}
  {change : Subscription → Subscription}

/-- An announcement leaves everybody with its producer. -/
theorem Announces.owner_eq (announces : supply.Announces offer changed change after)
    (number : SupplyId) : after.owner? number = supply.owner? number := by
  unfold owner?
  rw [announces.subscription_eq]
  split
  case isTrue =>
    cases supply.subscription? number with
    | none => rfl
    | some subscription => exact congrArg some (announces.change_producer subscription)
  case isFalse => rfl

/-- An announcement that detaches nobody. -/
theorem Announces.isClosed_eq (announces : supply.Announces offer changed change after)
    (same : ∀ subscription, (change subscription).closed = subscription.closed)
    (number : SupplyId) : after.isClosed number = supply.isClosed number := by
  unfold isClosed
  rw [announces.subscription_eq]
  split
  case isTrue =>
    cases supply.subscription? number with
    | none => rfl
    | some subscription => exact same subscription
  case isFalse => rfl

/-- An announcement that detaches all that wait. -/
theorem Announces.isClosed_shut (announces : supply.Announces offer changed change after)
    (tidy : supply.Tidy) (aligned : supply.Aligned)
    (shuts : ∀ subscription, (change subscription).closed = true) (number : SupplyId) :
    (after.isClosed number).toNat =
      (supply.isClosed number).toNat + offer.waiting.toList.count number := by
  unfold isClosed
  rw [announces.subscription_eq]
  split
  case isTrue waits =>
    obtain ⟨subscription, known, _⟩ := tidy.waits _ offer announces.offered number waits
    have opened := aligned.waits _ offer announces.offered number waits subscription known
    have once : offer.waiting.toList.count number = 1 :=
      List.count_eq_one_of_mem offer.waiting.nodup waits
    simp [known, shuts, opened, once]
  case isFalse idle =>
    have never : offer.waiting.toList.count number = 0 := List.count_eq_zero.mpr idle
    rw [never, Nat.add_zero]

/-- Writing down the producer that makes an announcement changes no reference. -/
theorem references_announced (found : supply.producer? id = some producer)
    (own : producer.id = id) (now : Producer) (id_eq : now.id = producer.id)
    (references_eq : now.references = producer.references)
    (producers_eq : after.producers = (supply.putProducer now).producers) (other : SupplyId) :
    after.references other = supply.references other := by
  have written : after.references other = (supply.putProducer now).references other := by
    rw [references, producer?, producers_eq, references, producer?]
  rw [written, references_putProducer, id_eq, own]
  split
  case isTrue same => rw [references_eq, ← same, references_of_found found]
  case isFalse => rfl

/-- An announcement is made, and some consumers are detached and due to be told the end. -/
theorem Opened.announced (opened : Opened whole move none [] supply)
    (owner_eq : ∀ number, after.owner? number = supply.owner? number)
    (closed_eq : ∀ number, (after.isClosed number).toNat =
      (supply.isClosed number).toNat + due.count number)
    (references_eq : ∀ id, after.references id = supply.references id)
    (agenda_eq : after.agenda = supply.agenda) : Opened whole move none due after :=
  { opened with
    owner_eq number := (owner_eq number).trans (opened.owner_eq number)
    closed_eq number := by
      have earlier := opened.closed_eq number
      have told_eq : after.told = supply.told := by rw [told, agenda_eq, told]
      rw [closed_eq, told_eq, List.count_append]
      rw [List.nil_append] at earlier
      omega
    references_eq id := by
      rw [references_eq]
      exact opened.references_eq id
    agenda_eq := agenda_eq.trans opened.agenda_eq }

theorem enters_push (tidy : supply.Tidy) (id : SupplyId) (value : Candidate) :
    supply.Enters (.call (.push id value)) (supply.push id value) := by
  have opened : Opened supply (.call (.push id value)) none [] supply :=
    .of_call rfl rfl (fun _ => rfl) fun _ => rfl
  unfold push
  split
  case h_1 => exact trivial
  case h_2 producer found =>
    split
    case isTrue => exact trivial
    case isFalse satisfies =>
      split
      case isTrue => exact trivial
      case isFalse unfinished =>
        split
        case isTrue => exact opened.answers rfl
        case isFalse new =>
          let results := producer.results ++ [value]
          have announces := (tidy.pushes found (Bool.eq_false_iff.mpr unfinished)
            (by simpa using satisfies) (Bool.eq_false_iff.mpr new) rfl).toAnnounces
          obtain ⟨producers_eq, agenda_eq, _⟩ := foldl_alter_rest (Subscription.shown results)
            producer.waiting.toList (supply.putProducer (producer.add value))
          rw [← foldl_collect_fst results _ (supply.putProducer (producer.add value), [])]
            at producers_eq agenda_eq
          have same := announces.isClosed_eq (Subscription.shown_closed results)
          have announced : Opened supply (.call (.push id value)) none []
              (producer.waiting.toList.foldl (collect results)
                (supply.putProducer (producer.add value), [])).1 :=
            opened.announced announces.owner_eq (fun number => congrArg Bool.toNat (same number))
              (references_announced found (tidy.id_of_producer? found) (producer.add value) rfl rfl
                producers_eq) agenda_eq
          exact announced.deliver id _

theorem enters_finish (tidy : supply.Tidy) (aligned : supply.Aligned) (id : SupplyId) :
    supply.Enters (.call (.finish id)) (supply.finish id) := by
  have opened : Opened supply (.call (.finish id)) none [] supply :=
    .of_call rfl rfl (fun _ => rfl) fun _ => rfl
  unfold finish
  split
  case h_1 => exact trivial
  case h_2 producer found =>
    split
    case isTrue => exact trivial
    case isFalse unfinished =>
      let ended : Producer := { producer with finished := true, waiting := ∅ }
      have own := tidy.id_of_producer? found
      have announces := tidy.announces_end found (Bool.eq_false_iff.mpr unfinished)
      obtain ⟨producers_eq, agenda_eq, _⟩ := foldl_alter_rest Subscription.shut
        producer.waiting.toList (supply.putProducer ended)
      rw [← markClosed_eq] at producers_eq agenda_eq
      refine (opened.announced announces.owner_eq
        (announces.isClosed_shut tidy aligned fun _ => rfl)
        (references_announced found own ended rfl rfl producers_eq) agenda_eq).tellEnd ?_
          producer.failure
      intro number member
      obtain ⟨subscription, known, producer_eq⟩ :=
        tidy.waits _ _ (tidy.offered found) number member
      rw [announces.owner_eq, owner?_of_known known, producer_eq, own]

end Announcements

end Supply

end ValueEngine
