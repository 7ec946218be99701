import ValueEngine.Proofs.Supply.Course

/-!
# What a step enters into the books

References on a producer are taken and given back by calls that say so, and by consumers:
each takes one when it subscribes and gives it back when it detaches. A consumer that is
told the end gives its reference back when its code returns, which may be long after; the
unfinished call then remembers the producer (`Frame.owes?`).

Here is what a single step enters into the books: who takes and gives references, who
subscribes and who detaches (`Move.takes?` and the like), and that the references of all
producers, the flags of all subscriptions and the unfinished calls change accordingly
(`Supply.Booked`).
-/

set_option autoImplicit false

namespace ValueEngine

/-- A consumer and the producer that it has subscribed to. -/
structure Attachment where
  consumer : SupplyId
  producer : SupplyId
deriving DecidableEq

/-- The producer that is answered. -/
def Answer.producer? : Answer → Option SupplyId
  | producer id => some id
  | _ => none

/-- The consumer that is told the end. -/
def SupplyEvent.failed? : SupplyEvent → Option SupplyId
  | failed number _ => some number
  | _ => none

/-- The producer on which an unfinished call is to give back the reference of the consumer that
it has just told the end. -/
def Frame.owes? : Frame → Option SupplyId
  | releasing id _ => some id
  | failing id _ _ => some id
  | _ => none

namespace Supply

variable {supply after : Supply} {id number other : SupplyId}

/-! ## Producers and subscriptions as the books see them -/

/-- How many references are held on a producer, none if there is no such producer. -/
def references (supply : Supply) (id : SupplyId) : Nat :=
  ((supply.producer? id).map Producer.references).getD 0

/-- The producer that a consumer has subscribed to. -/
def owner? (supply : Supply) (number : SupplyId) : Option SupplyId :=
  (supply.subscription? number).map Subscription.producer

/-- Whether a consumer is detached. -/
def isClosed (supply : Supply) (number : SupplyId) : Bool :=
  ((supply.subscription? number).map Subscription.closed).getD false

theorem references_of_found {producer : Producer} (found : supply.producer? id = some producer) :
    supply.references id = producer.references := by
  simp [references, found]

theorem producer?_putProducer (supply : Supply) (producer : Producer) (id : SupplyId) :
    (supply.putProducer producer).producer? id =
      if producer.id = id then some producer else supply.producer? id :=
  SortedMap.get?_insert supply.producers producer.id id producer

@[simp] theorem references_putProducer (supply : Supply) (producer : Producer) (id : SupplyId) :
    (supply.putProducer producer).references id =
      if producer.id = id then producer.references else supply.references id := by
  unfold references
  rw [producer?_putProducer]
  split <;> rfl

@[simp] theorem references_putSubscription (supply : Supply) (subscription : Subscription)
    (id : SupplyId) : (supply.putSubscription subscription).references id = supply.references id :=
  rfl

@[simp] theorem references_pushFrame (supply : Supply) (frame : Frame) (id : SupplyId) :
    (supply.pushFrame frame).references id = supply.references id := rfl

@[simp] theorem owner?_putSubscription (supply : Supply) (subscription : Subscription)
    (number : SupplyId) :
    (supply.putSubscription subscription).owner? number =
      if subscription.id = number then some subscription.producer else supply.owner? number := by
  unfold owner?
  rw [subscription?_putSubscription]
  split <;> rfl

@[simp] theorem owner?_pushFrame (supply : Supply) (frame : Frame) (number : SupplyId) :
    (supply.pushFrame frame).owner? number = supply.owner? number := rfl

@[simp] theorem isClosed_putProducer (supply : Supply) (producer : Producer) (number : SupplyId) :
    (supply.putProducer producer).isClosed number = supply.isClosed number := rfl

@[simp] theorem isClosed_putSubscription (supply : Supply) (subscription : Subscription)
    (number : SupplyId) :
    (supply.putSubscription subscription).isClosed number =
      if subscription.id = number then subscription.closed else supply.isClosed number := by
  unfold isClosed
  rw [subscription?_putSubscription]
  split <;> rfl

@[simp] theorem isClosed_pushFrame (supply : Supply) (frame : Frame) (number : SupplyId) :
    (supply.pushFrame frame).isClosed number = supply.isClosed number := rfl

theorem owner?_of_known {subscription : Subscription}
    (known : supply.subscription? number = some subscription) :
    supply.owner? number = some subscription.producer := by
  simp [owner?, known]

theorem isClosed_of_known {subscription : Subscription}
    (known : supply.subscription? number = some subscription) :
    supply.isClosed number = subscription.closed := by
  simp [isClosed, known]

theorem isAlive_pushFrame_of_eq {frame : Frame} (works : frame.producer? = some id) :
    (supply.pushFrame frame).isAlive id = true := by
  simp [isAlive, pushFrame, works]

theorem isAlive_pushFrame_of_none {frame : Frame} (works : frame.producer? = none) :
    (supply.pushFrame frame).isAlive id = supply.isAlive id := by
  have unmet : decide (frame.producer? = some id) = false := by simp [works]
  unfold isAlive pushFrame
  rw [List.any_cons, unmet, Bool.false_or]

/-- What an unfinished call knows fits the supply: consumers that it tells the end have
subscribed to its producer, and it does not answer with a producer that it has not made. -/
def Fits (supply : Supply) : Frame → Prop
  | .answering _ answer => answer.producer? = none
  | .releasing _ answer => answer.producer? = none
  | .failing id _ rest => ∀ number ∈ rest, supply.owner? number = some id
  | _ => True

theorem Fits.mono {frame : Frame} (fits : supply.Fits frame)
    (stays : ∀ number id, supply.owner? number = some id → after.owner? number = some id) :
    after.Fits frame := by
  cases frame with
  | answering producer answer => exact fits
  | releasing id answer => exact fits
  | failing id failure rest => exact fun number member => stays number id (fits number member)
  | delivering id rest => trivial
  | installing requirement => trivial

end Supply

/-! ## Entries -/

namespace Move

/-- The producer on which a move takes a reference for its maker. -/
def takes? (turn : Turn) : Move → Option SupplyId
  | .call (.addReference id) => turn.answer?.map fun _ => id
  | _ => turn.answer?.bind Answer.producer?

/-- The producer on which a move gives back such a reference. -/
def gives? (supply : Supply) : Move → Option SupplyId
  | .call (.release id) => some id
  | .call (.releaseRegistered requirement) =>
    ((supply.registered? requirement).bind supply.producer?).map Producer.id
  | _ => none

/-- The consumer that subscribes, and its producer. -/
def joins? (supply : Supply) : Move → Option Attachment
  | .call (.subscribe id) => some ⟨supply.nextId, id⟩
  | _ => none

/-- The consumer that is closed, cancelled with success or told the end. -/
def parts? (turn : Turn) : Move → Option SupplyId
  | .call (.close number) => if turn.answer? = some .done then some number else none
  | .call (.cancel number) => if turn.answer? = some (.flag true) then some number else none
  | _ => turn.event?.bind SupplyEvent.failed?

/-- The consumer that detaches, and its producer. Nobody detaches from a producer that is
gone. -/
def departs? (turn : Turn) (move : Move) : Option Attachment :=
  (move.parts? turn).bind fun number =>
    ((turn.supply.owner? number).filter turn.supply.isAlive).map fun id => ⟨number, id⟩

/-- What is noted of the unfinished calls, without the one that goes on. -/
def base {α : Type} (notes : List α) : Move → List α
  | .call _ => notes
  | .back => notes.tail

/-- The producer on which a consumer's reference is given back: at once when the consumer
detaches by a call, and otherwise when its code returns. -/
def returns? (supply : Supply) (turn : Turn) : Move → Option SupplyId
  | .call made =>
    match turn.event? with
    | none => ((Move.call made).departs? turn).map Attachment.producer
    | some _ => none
  | .back => supply.agenda.head?.bind Frame.owes?

section Entries

variable {turn : Turn} {move : Move} {number id : SupplyId}

/-- Nobody is given a reference before there is an answer. -/
theorem takes?_of_unanswered (move : Move) (unanswered : turn.answer? = none) :
    move.takes? turn = none := by
  unfold takes?
  split
  case h_1 => rw [unanswered, Option.map_none]
  case h_2 => rw [unanswered, Option.bind_none]

theorem departs?_eq_none (stays : move.parts? turn = none) : move.departs? turn = none := by
  simp [departs?, stays]

theorem departs?_eq_some (parts : move.parts? turn = some number)
    (owner : turn.supply.owner? number = some id) (alive : turn.supply.isAlive id = true) :
    move.departs? turn = some ⟨number, id⟩ := by
  simp [departs?, parts, owner, alive]

theorem departs?_eq_none_of_gone (parts : move.parts? turn = some number)
    (owner : turn.supply.owner? number = some id) (gone : turn.supply.isAlive id = false) :
    move.departs? turn = none := by
  simp [departs?, parts, owner, gone]

/-- A call that answers gives back the reference of the consumer that it detaches. -/
theorem returns?_of_answer (supply : Supply) (made : Supply.Call) (answer : Answer)
    (after : Supply) : (Move.call made).returns? supply (.answer answer after) =
      ((Move.call made).departs? (.answer answer after)).map Attachment.producer := rfl

end Entries

end Move

namespace Supply

/-- What a step does agrees with what it enters. -/
structure Booked (supply : Supply) (move : Move) (turn : Turn) : Prop where
  /-- References grow by those that are taken, by calls or by new consumers, and shrink by those
  that are given back, by calls or by consumers that have detached. -/
  references_eq : ∀ id, turn.supply.references id + (move.gives? supply).toList.count id +
      (move.returns? supply turn).toList.count id =
    supply.references id + (move.takes? turn).toList.count id +
      ((move.joins? supply).map Attachment.producer).toList.count id
  /-- Who has subscribed stays with its producer, and only who subscribes is new. -/
  owner_iff : ∀ number id, turn.supply.owner? number = some id ↔
    supply.owner? number = some id ∨ move.joins? supply = some ⟨number, id⟩
  /-- The detached consumers are those that were, those that detach and those that are to be
  told the end. -/
  closed_eq : ∀ number, (turn.supply.isClosed number).toNat + supply.told.count number =
    (supply.isClosed number).toNat + turn.supply.told.count number +
      ((move.departs? turn).map Attachment.consumer).toList.count number
  /-- A step that calls no user code leaves no new unfinished call. -/
  quiet : turn.event? = none → turn.supply.agenda = move.base supply.agenda
  /-- Any other leaves one, which remembers the consumer that detaches. -/
  raised : turn.event? ≠ none → ∃ frame, turn.supply.agenda = frame :: move.base supply.agenda ∧
    frame.owes? = (move.departs? turn).map Attachment.producer ∧ turn.supply.Fits frame

variable {supply after : Supply} {move : Move} {made : Call} {answer : Answer}
  {event : SupplyEvent} {frame : Frame} {producer : Producer}

/-- Why a step gives back a reference: a call does so for its maker, an attached consumer
detaches, or the call that goes on owes one. -/
inductive Repays (supply : Supply) (id : SupplyId) : Move → Prop
  | gives {move : Move} (given : move.gives? supply = some id) : Repays supply id move
  | leaves {made : Call} {number : SupplyId} (owner : supply.owner? number = some id)
      (opened : supply.isClosed number = false) : Repays supply id (.call made)
  | owes {frame : Frame} (first : supply.agenda.head? = some frame)
      (owed : frame.owes? = some id) : Repays supply id .back

/-- A step agrees with what it enters, unless it breaks a rule. It is found to give back more
than was taken only if no reference is held when it gives one back. -/
def Enters (supply : Supply) (move : Move) : Turn → Prop
  | .violation (.releaseOfReleased producer) _ =>
    supply.references producer.id = 0 ∧ supply.Repays producer.id move
  | .violation _ _ => True
  | turn => supply.Booked move turn

theorem Enters.booked {turn : Turn} (enters : supply.Enters move turn)
    (calm : turn.violation? = none) : supply.Booked move turn := by
  cases turn with
  | answer answer after => exact enters
  | event event after => exact enters
  | violation violation after => cases calm

theorem Enters.missing {turn : Turn} (enters : supply.Enters move turn)
    (broken : turn.violation? = some (.releaseOfReleased producer)) :
    supply.references producer.id = 0 ∧ supply.Repays producer.id move := by
  cases turn with
  | answer answer after => cases broken
  | event event after => cases broken
  | violation violation after =>
    cases broken
    exact enters

/-! ## Steps that detach nobody -/

/-- Nobody subscribes or detaches, and the call answers. -/
theorem Booked.answered (stays : move.departs? (.answer answer after) = none)
    (joins : move.joins? supply = none)
    (owner_eq : ∀ number, after.owner? number = supply.owner? number)
    (closed_eq : ∀ number, after.isClosed number = supply.isClosed number)
    (told_eq : after.told = supply.told) (agenda_eq : after.agenda = move.base supply.agenda)
    (references_eq : ∀ id, after.references id + (move.gives? supply).toList.count id +
        (move.returns? supply (.answer answer after)).toList.count id =
      supply.references id + (move.takes? (.answer answer after)).toList.count id) :
    Booked supply move (.answer answer after) where
  references_eq id := by simpa [joins, Turn.supply] using references_eq id
  owner_iff number id := by simp [Turn.supply, owner_eq, joins]
  closed_eq number := by simp [Turn.supply, closed_eq, told_eq, stays]
  quiet _ := agenda_eq
  raised raises := absurd rfl raises

/-- A call that concerns references, owners or the registry alone has answered. -/
theorem Booked.aside (parts : (Move.call made).parts? (.answer answer after) = none)
    (joins : (Move.call made).joins? supply = none)
    (subscriptions_eq : after.subscriptions = supply.subscriptions)
    (agenda_eq : after.agenda = supply.agenda)
    (references_eq : ∀ id, after.references id + ((Move.call made).gives? supply).toList.count id =
      supply.references id + ((Move.call made).takes? (.answer answer after)).toList.count id) :
    Booked supply (.call made) (.answer answer after) := by
  have stays : (Move.call made).departs? (.answer answer after) = none :=
    Move.departs?_eq_none parts
  refine .answered stays joins (fun number => ?_) (fun number => ?_) ?_ agenda_eq fun id => ?_
  · rw [owner?, subscription?, subscriptions_eq, owner?, subscription?]
  · rw [isClosed, subscription?, subscriptions_eq, isClosed, subscription?]
  · rw [told, agenda_eq, told]
  · rw [Move.returns?_of_answer, stays]
    exact references_eq id

/-- Nobody subscribes or detaches, and user code is called. -/
theorem Booked.called (stays : move.departs? (.event event (after.pushFrame frame)) = none)
    (joins : move.joins? supply = none)
    (owner_eq : ∀ number, after.owner? number = supply.owner? number)
    (closed_eq : ∀ number, after.isClosed number = supply.isClosed number)
    (told_eq : frame.told ++ after.told = supply.told)
    (agenda_eq : after.agenda = move.base supply.agenda)
    (owes : frame.owes? = none) (fits : (after.pushFrame frame).Fits frame)
    (references_eq : ∀ id, after.references id + (move.gives? supply).toList.count id +
        (move.returns? supply (.event event (after.pushFrame frame))).toList.count id =
      supply.references id) :
    Booked supply move (.event event (after.pushFrame frame)) where
  references_eq id := by
    have takes : move.takes? (.event event (after.pushFrame frame)) = none :=
      move.takes?_of_unanswered rfl
    simpa [joins, takes, Turn.supply] using references_eq id
  owner_iff number id := by simp [Turn.supply, owner_eq, joins]
  closed_eq number := by
    rw [Turn.supply, told_pushFrame, told_eq, isClosed_pushFrame, closed_eq, stays]
    rfl
  quiet none := by cases none
  raised _ := by
    refine ⟨frame, ?_, ?_, fits⟩
    · rw [Turn.supply, pushFrame, agenda_eq]
    · rw [owes, stays, Option.map_none]

end Supply

end ValueEngine
