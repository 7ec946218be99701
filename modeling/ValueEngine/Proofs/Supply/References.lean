import ValueEngine.Proofs.Supply.Accounts

/-!
# References are settled

References on a producer are held by its users, who take and give them back by calls, and
by its consumers, one each. A consumer that is told the end still holds its reference while
its code runs, and whatever that code does, the call that has told it gives the reference
back afterwards. So the books balance at every step (`Supply.Balanced`), and no consumer
finds its reference missing when it detaches. Whenever no call is unfinished, the references
on a producer are those that its users hold and one for each consumer that is attached
(`Supply.references_settled`).
-/

set_option autoImplicit false

namespace ValueEngine

namespace Supply

variable {steps : List Step} {step : Step} {supply : Supply} {id : SupplyId}

/-! ## The books balance -/

/-- The books of some steps agree with the supply that they lead to. -/
structure Balanced (steps : List Step) (supply : Supply) : Prop where
  /-- A reference is held for each that was taken and not given back, by calls or consumers. -/
  references_eq : ∀ id, supply.references id + (givenBy steps).count id +
      countOn id (returnedBy steps) =
    (takenBy steps).count id + countOn id (joinedBy steps)
  /-- A consumer that has subscribed stays with its producer. -/
  owner_iff : ∀ number id, supply.owner? number = some id ↔ ⟨number, id⟩ ∈ joinedBy steps
  /-- It has subscribed once. -/
  joined_nodup : (joinedBy steps).Nodup
  /-- Who has detached had subscribed. -/
  departed_subset : departedBy steps ⊆ joinedBy steps
  /-- Who is flagged as detached is so, or is to be told the end. -/
  closed_eq : ∀ number, (supply.isClosed number).toNat =
    supply.told.count number + ((departedBy steps).map Attachment.consumer).count number
  /-- The reference of a detached consumer has been given back or is owed by some call. -/
  repaid : (returnedBy steps ++ (repaymentOf steps).owing.reduceOption).Perm (departedBy steps)
  /-- The unfinished calls know what they owe. -/
  owing_eq : supply.agenda.map Frame.owes? =
    (repaymentOf steps).owing.map (Option.map Attachment.producer)
  /-- They fit the supply. -/
  fits : ∀ frame ∈ supply.agenda, supply.Fits frame

namespace Balanced

theorem empty : Balanced [] {} where
  references_eq _ := rfl
  owner_iff _ _ := by simp [joinedBy, owner?, subscription?]
  joined_nodup := List.nodup_nil
  departed_subset := List.nil_subset _
  closed_eq _ := rfl
  repaid := List.Perm.refl _
  owing_eq := rfl
  fits := nofun

/-- A consumer detaches once. -/
theorem departed_nodup (balanced : Balanced steps supply) : (departedBy steps).Nodup := by
  have once : ((departedBy steps).map Attachment.consumer).Nodup := by
    refine List.nodup_iff_count_le_one.mpr fun number => ?_
    have closed_eq := balanced.closed_eq number
    have flag := (supply.isClosed number).toNat_le
    omega
  exact once.of_map _

/-- Who has given back its reference is still counted among those that have subscribed. -/
theorem returned_subperm (balanced : Balanced steps supply) :
    (returnedBy steps).Subperm (joinedBy steps) := by
  have fewer : (returnedBy steps).Subperm (departedBy steps) :=
    (List.sublist_append_left _ _).subperm.trans balanced.repaid.subperm
  exact fewer.trans (balanced.departed_nodup.subperm balanced.departed_subset)

/-- The reference of a consumer is there until it is given back. -/
theorem references_pos_of_unreturned (balanced : Balanced steps supply)
    (covered : (givenBy steps).count id ≤ (takenBy steps).count id) {attachment : Attachment}
    (joined : attachment ∈ joinedBy steps) (kept : attachment ∉ returnedBy steps)
    (own : attachment.producer = id) : 0 < supply.references id := by
  have nodup : (attachment :: returnedBy steps).Nodup := by
    have settled := balanced.repaid.nodup_iff.mpr balanced.departed_nodup
    exact List.nodup_cons.mpr ⟨kept, settled.of_append_left⟩
  have fewer := countOn_le id (nodup.subperm
    (List.cons_subset.mpr ⟨joined, balanced.returned_subperm.subset⟩))
  have one : countOn id (attachment :: returnedBy steps) = countOn id (returnedBy steps) + 1 := by
    simp [countOn, own]
  have references_eq := balanced.references_eq id
  omega

/-- So is one that a call has taken. -/
theorem references_pos_of_held (balanced : Balanced steps supply)
    (held : (givenBy steps).count id < (takenBy steps).count id) :
    0 < supply.references id := by
  have fewer := countOn_le id balanced.returned_subperm
  have references_eq := balanced.references_eq id
  omega

/-- What an unfinished call owes has not been given back. -/
theorem exists_of_owed (balanced : Balanced steps supply) {frame : Frame}
    (first : supply.agenda.head? = some frame) (owed : frame.owes? = some id) :
    ∃ attachment ∈ joinedBy steps, attachment ∉ returnedBy steps ∧ attachment.producer = id := by
  obtain ⟨outer, agenda⟩ := List.head?_eq_some_iff.mp first
  have owing_eq := balanced.owing_eq
  rw [agenda, List.map_cons] at owing_eq
  obtain ⟨entry, owing, stack, entry_eq, _⟩ := List.map_eq_cons_iff.mp owing_eq.symm
  obtain ⟨attachment, rfl, own⟩ := Option.map_eq_some_iff.mp (entry_eq.trans owed)
  have repaid := balanced.repaid
  rw [stack, List.reduceOption_cons_of_some] at repaid
  have settled := repaid.nodup_iff.mpr balanced.departed_nodup
  refine ⟨attachment, balanced.departed_subset (repaid.subset ?_), fun returned => ?_, own⟩
  · exact List.mem_append_right _ List.mem_cons_self
  · exact (List.disjoint_of_nodup_append settled) returned List.mem_cons_self

/-- A consumer that is not flagged has not given back its reference. -/
theorem exists_of_opened (balanced : Balanced steps supply) {number : SupplyId}
    (owner : supply.owner? number = some id) (opened : supply.isClosed number = false) :
    ∃ attachment ∈ joinedBy steps, attachment ∉ returnedBy steps ∧ attachment.producer = id := by
  refine ⟨⟨number, id⟩, (balanced.owner_iff number id).mp owner, fun returned => ?_, rfl⟩
  have departed : (⟨number, id⟩ : Attachment) ∈ departedBy steps :=
    balanced.repaid.subset (List.mem_append_left _ returned)
  have listed : 0 < ((departedBy steps).map Attachment.consumer).count number :=
    List.count_pos_iff.mpr (List.mem_map_of_mem departed)
  have closed_eq := balanced.closed_eq number
  rw [opened, Bool.toNat_false] at closed_eq
  omega

/-- **No reference is missing.** When a step gives one back there is one, provided that calls
give back no more than they have taken. -/
theorem references_pos (balanced : Balanced steps step.before) (quiet : step.takes? = none)
    (covered : (givenBy (steps ++ [step])).count id ≤ (takenBy (steps ++ [step])).count id)
    (repays : step.before.Repays id step.move) : 0 < step.before.references id := by
  rw [givenBy_concat, takenBy_concat, quiet, List.count_append, Option.toList_none,
    List.append_nil] at covered
  have before : (givenBy steps).count id ≤ (takenBy steps).count id :=
    Nat.le_trans (Nat.le_add_right _ _) covered
  obtain ⟨supply, move⟩ := step
  cases repays with
  | gives given =>
    have entered : Step.gives? ⟨supply, move⟩ = some id := given
    rw [entered, Option.toList_some, List.count_singleton_self] at covered
    exact balanced.references_pos_of_held covered
  | leaves owner opened =>
    obtain ⟨attachment, joined, kept, own⟩ := balanced.exists_of_opened owner opened
    exact balanced.references_pos_of_unreturned before joined kept own
  | owes first owed =>
    obtain ⟨attachment, joined, kept, own⟩ := balanced.exists_of_owed first owed
    exact balanced.references_pos_of_unreturned before joined kept own

/-! ## Every step keeps the balance -/

/-- The consumer whose reference is given back belongs to the producer that the step says. -/
theorem repays_eq (balanced : Balanced steps step.before) (calm : step.turn.violation? = none) :
    (step.repays? (repaymentOf steps).owing).map Attachment.producer =
      step.move.returns? step.before step.turn := by
  obtain ⟨supply, move⟩ := step
  cases move with
  | call made =>
    unfold Step.repays? Step.departs?
    cases ended : (Step.mk supply (.call made)).turn with
    | answer answer after => rfl
    | event event after => rfl
    | violation violation after =>
      rw [ended] at calm
      cases calm
  | back =>
    change (repaymentOf steps).owing.head?.join.map Attachment.producer =
      supply.agenda.head?.bind Frame.owes?
    have owing_eq : supply.agenda.map Frame.owes? = _ := balanced.owing_eq
    rw [← Option.join_map_eq_map_join, ← List.head?_map, ← owing_eq, List.head?_map]
    cases supply.agenda.head? <;> rfl

section Steps

variable (balanced : Balanced steps step.before)
  (booked : step.before.Booked step.move step.turn)
include balanced booked

theorem owner_iff_concat (number id : SupplyId) :
    step.after.owner? number = some id ↔ ⟨number, id⟩ ∈ joinedBy (steps ++ [step]) := by
  rw [joinedBy_concat, List.mem_append, Option.mem_toList, ← balanced.owner_iff]
  exact booked.owner_iff number id

/-- References go with what is taken and given back. -/
theorem references_concat (calm : step.turn.violation? = none) (id : SupplyId) :
    step.after.references id + (givenBy (steps ++ [step])).count id +
        countOn id (returnedBy (steps ++ [step])) =
      (takenBy (steps ++ [step])).count id + countOn id (joinedBy (steps ++ [step])) := by
  have earlier := balanced.references_eq id
  have now := booked.references_eq id
  have repays := balanced.repays_eq calm
  rw [returnedBy] at earlier ⊢
  rw [repaymentOf_concat, Repayment.enter]
  simp only [givenBy_concat, takenBy_concat, joinedBy_concat, countOn_append, countOn_toList,
    List.count_append, repays]
  unfold Step.takes? Step.gives? Step.joins? Step.after
  omega

omit booked in
/-- Nobody subscribes twice. -/
theorem joined_nodup_concat (tidy : step.before.Tidy) : (joinedBy (steps ++ [step])).Nodup := by
  rw [joinedBy_concat, List.nodup_append]
  refine ⟨balanced.joined_nodup, ?_, ?_⟩
  · cases step.joins? with
    | none => exact List.nodup_nil
    | some attachment => exact List.nodup_singleton _
  · rintro known member _ joins rfl
    have owner := (balanced.owner_iff known.consumer known.producer).mpr member
    rw [Move.consumer_of_joins (Option.mem_toList.mp joins), owner?_nextId tidy] at owner
    cases owner

/-- Who is flagged as detached is so, or is to be told the end. -/
theorem closed_concat (number : SupplyId) : (step.after.isClosed number).toNat =
    step.after.told.count number +
      ((departedBy (steps ++ [step])).map Attachment.consumer).count number := by
  have earlier := balanced.closed_eq number
  have now := booked.closed_eq number
  have entered : ((departedBy (steps ++ [step])).map Attachment.consumer).count number =
      ((departedBy steps).map Attachment.consumer).count number +
        ((step.move.departs? step.turn).map Attachment.consumer).toList.count number := by
    rw [departedBy_concat, List.map_append, List.count_append, Step.departs?, Option.toList_map]
  unfold Step.after
  omega

theorem departed_subset_concat : departedBy (steps ++ [step]) ⊆ joinedBy (steps ++ [step]) := by
  intro attachment member
  rw [departedBy_concat] at member
  rcases List.mem_append.mp member with earlier | now
  · rw [joinedBy_concat]
    exact List.mem_append_left _ (balanced.departed_subset earlier)
  · rw [← balanced.owner_iff_concat booked]
    exact Move.owner_of_departs (Option.mem_toList.mp now)

omit booked in
/-- What a detached consumer held has been given back or is owed. -/
theorem repaid_concat (calm : step.turn.violation? = none) :
    (returnedBy (steps ++ [step]) ++ (repaymentOf (steps ++ [step])).owing.reduceOption).Perm
      (departedBy (steps ++ [step])) := by
  rw [returnedBy, repaymentOf_concat, departedBy_concat, Repayment.enter, List.append_assoc]
  refine ((step.repays_owes_perm calm _).append_left _).trans ?_
  rw [← List.append_assoc]
  exact balanced.repaid.append_right _

/-- The unfinished calls know what they owe. -/
theorem owing_concat (calm : step.turn.violation? = none) :
    step.after.agenda.map Frame.owes? =
      (repaymentOf (steps ++ [step])).owing.map (Option.map Attachment.producer) := by
  have rest : (step.move.base step.before.agenda).map Frame.owes? =
      (step.move.base (repaymentOf steps).owing).map (Option.map Attachment.producer) := by
    rw [Move.map_base, balanced.owing_eq, Move.map_base]
  rw [repaymentOf_concat, Repayment.enter]
  unfold Step.after Step.owes Step.departs?
  cases ended : step.turn with
  | violation violation after =>
    rw [ended] at calm
    cases calm
  | answer answer after =>
    rw [ended] at booked
    have agenda : after.agenda = _ := booked.quiet rfl
    exact (congrArg (List.map Frame.owes?) agenda).trans rest
  | event event after =>
    rw [ended] at booked
    obtain ⟨frame, agenda, owed, _⟩ := booked.raised nofun
    rw [agenda, List.map_cons, List.map_cons, owed, rest]

/-- They fit the supply. -/
theorem fits_concat :
    ∀ frame ∈ step.after.agenda, step.after.Fits frame := by
  have stays : ∀ frame ∈ step.move.base step.before.agenda, step.after.Fits frame := by
    intro frame member
    refine (balanced.fits frame (Move.base_subset step.move _ member)).mono ?_
    exact fun number id owner => (booked.owner_iff number id).mpr (Or.inl owner)
  unfold Step.after at stays ⊢
  cases raised : step.turn.event? with
  | none => rwa [booked.quiet raised]
  | some event =>
    obtain ⟨frame, agenda, _, fits⟩ := booked.raised (raised ▸ nofun)
    rw [agenda]
    exact List.forall_mem_cons.mpr ⟨fits, stays⟩

/-- **Every step keeps the balance.** -/
theorem concat (tidy : step.before.Tidy) (calm : step.turn.violation? = none) :
    Balanced (steps ++ [step]) step.after where
  references_eq := balanced.references_concat booked calm
  owner_iff := balanced.owner_iff_concat booked
  joined_nodup := balanced.joined_nodup_concat tidy
  departed_subset := balanced.departed_subset_concat booked
  closed_eq := balanced.closed_concat booked
  repaid := balanced.repaid_concat calm
  owing_eq := balanced.owing_concat booked calm
  fits := balanced.fits_concat booked

end Steps

end Balanced

/-! ## Courses -/

/-- The only rule that some steps may break is not to give back more than was taken. -/
def Lenient (steps : List Step) : Prop :=
  ∀ step ∈ steps, ∀ violation, step.turn.violation? = some violation →
    ∃ producer, violation = .releaseOfReleased producer

/-- Calls never give back more references than they have taken. -/
def Covered (steps : List Step) : Prop :=
  ∀ early, early <+: steps → ∀ id, (givenBy early).count id ≤ (takenBy early).count id

theorem Lenient.of_calm (calm : Calm steps) : Lenient steps := by
  intro step member violation broken
  rw [calm step member] at broken
  cases broken

theorem Lenient.of_append {later : List Step} (lenient : Lenient (steps ++ later)) :
    Lenient steps :=
  (List.forall_mem_append.mp lenient).1

theorem Covered.of_append {later : List Step} (covered : Covered (steps ++ later)) :
    Covered steps :=
  fun early before => covered early (before.trans (List.prefix_append steps later))

/-- A step that finds the books balanced leaves them so, and breaks no rule. -/
theorem Balanced.next (balanced : Balanced steps step.before) (tidy : step.before.Tidy)
    (aligned : step.before.Aligned) (lenient : Lenient [step])
    (covered : Covered (steps ++ [step])) :
    step.turn.violation? = none ∧ Balanced (steps ++ [step]) step.after := by
  have enters : step.before.Enters step.move step.turn := Step.enters tidy aligned balanced.fits
  have calm : step.turn.violation? = none := by
    refine Option.eq_none_iff_forall_ne_some.mpr fun violation broken => ?_
    obtain ⟨producer, rfl⟩ := lenient step List.mem_cons_self violation broken
    have unanswered : step.turn.answer? = none := by
      cases ended : step.turn with
      | answer answer after =>
        rw [ended] at broken
        cases broken
      | event event after => rfl
      | violation violation after => rfl
    obtain ⟨missing, repays⟩ := enters.missing broken
    have there := balanced.references_pos (step.move.takes?_of_unanswered unanswered)
      (covered _ (List.prefix_refl _) _) repays
    exact absurd missing (Nat.ne_of_gt there)
  exact ⟨calm, balanced.concat (enters.booked calm) tidy calm⟩

/-- Along a course the books balance, and no rule is broken. -/
theorem Course.balanced (course : Course {} steps supply) (lenient : Lenient steps)
    (covered : Covered steps) : Calm steps ∧ Balanced steps supply := by
  induction course with
  | start => exact ⟨nofun, .empty⟩
  | @step steps before earlier move ih =>
    obtain ⟨lenientBefore, lenientNow⟩ := List.forall_mem_append.mp lenient
    obtain ⟨calm, balanced⟩ := ih lenientBefore covered.of_append
    obtain ⟨tidy, aligned⟩ := earlier.aligned calm
    have next := Balanced.next balanced tidy aligned lenientNow covered
    exact ⟨List.forall_mem_append.mpr ⟨calm, List.forall_mem_singleton.mpr next.1⟩, next.2⟩

/-! ## When no call is unfinished -/

namespace Balanced

/-- Who has subscribed has detached or is attached. -/
theorem countOn_joined (balanced : Balanced steps supply) (id : SupplyId) :
    countOn id (joinedBy steps) =
      countOn id (departedBy steps) + countOn id (attachedBy steps) := by
  have departed : ((joinedBy steps).filter fun attachment =>
      decide (attachment ∈ departedBy steps)).Perm (departedBy steps) := by
    refine (List.perm_ext_iff_of_nodup (balanced.joined_nodup.filter _)
      balanced.departed_nodup).mpr fun attachment => ?_
    simpa using fun departed => balanced.departed_subset departed
  have attached : ((joinedBy steps).filter fun attachment =>
      !decide (attachment ∈ departedBy steps)) = attachedBy steps := by
    simp only [attachedBy, decide_not]
  have split := List.filter_append_perm (fun attachment => decide (attachment ∈ departedBy steps))
    (joinedBy steps)
  rw [attached] at split
  rw [← countOn_append]
  exact countOn_perm id (split.symm.trans (departed.append_right _))

/-- The references on a producer, at any time: its users hold theirs, and consumers theirs
until it is given back. -/
theorem references_add_returned (balanced : Balanced steps supply) (covered : Covered steps)
    (id : SupplyId) : supply.references id + countOn id (returnedBy steps) =
      heldBy steps id + countOn id (joinedBy steps) := by
  have references_eq := balanced.references_eq id
  have enough := covered steps (List.prefix_refl steps) id
  unfold heldBy
  omega

/-- Whoever has detached has given back its reference when no call is unfinished. -/
theorem returned_perm (balanced : Balanced steps supply) (rest : supply.agenda = []) :
    (returnedBy steps).Perm (departedBy steps) := by
  have owing_eq := balanced.owing_eq
  rw [rest] at owing_eq
  have repaid := balanced.repaid
  rwa [List.map_eq_nil_iff.mp owing_eq.symm, List.reduceOption_nil, List.append_nil] at repaid

/-- A consumer departs from the producer that it has subscribed to. -/
theorem departed_iff (balanced : Balanced steps supply) {number : SupplyId}
    (owner : supply.owner? number = some id) :
    number ∈ (departedBy steps).map Attachment.consumer ↔ ⟨number, id⟩ ∈ departedBy steps := by
  refine ⟨fun listed => ?_, List.mem_map_of_mem⟩
  obtain ⟨attachment, departed, rfl⟩ := List.mem_map.mp listed
  have same := (balanced.owner_iff attachment.consumer attachment.producer).mpr
    (balanced.departed_subset departed)
  cases owner.symm.trans same
  exact departed

/-- A consumer is attached if its subscription is not flagged, when nobody is to be told the
end. -/
theorem attached_iff (balanced : Balanced steps supply) (told : supply.told = [])
    (number id : SupplyId) : ⟨number, id⟩ ∈ attachedBy steps ↔
      supply.owner? number = some id ∧ supply.isClosed number = false := by
  have flag : supply.isClosed number = false ↔
      number ∉ (departedBy steps).map Attachment.consumer := by
    have closed_eq := balanced.closed_eq number
    rw [told, List.count_nil, Nat.zero_add] at closed_eq
    rw [← List.count_eq_zero, ← closed_eq, Bool.toNat_eq_zero]
  rw [attachedBy, List.mem_filter, decide_eq_true_iff, ← balanced.owner_iff, flag]
  exact and_congr_right fun owner => not_congr (balanced.departed_iff owner).symm

end Balanced

/-- What a course leaves when references are settled. -/
structure Settled (steps : List Step) (supply : Supply) : Prop where
  /-- No rule has been broken; in particular no reference was missing. -/
  calm : Calm steps
  /-- Nobody has detached without having subscribed, or twice. -/
  departed : departedBy steps ⊆ joinedBy steps ∧ (departedBy steps).Nodup
  /-- No consumer has given back its reference twice, or without having detached. -/
  returned_le : ∀ attachment,
    (returnedBy steps).count attachment ≤ (departedBy steps).count attachment
  /-- Each holds a reference from when it has subscribed until it has given it back. -/
  holding : ∀ id, supply.references id + countOn id (returnedBy steps) =
    heldBy steps id + countOn id (joinedBy steps)
  /-- When no call is unfinished, every consumer that has detached has given it back. -/
  returned_eq : supply.agenda = [] → ∀ attachment ∈ departedBy steps,
    (returnedBy steps).count attachment = 1
  /-- Then the references on a producer are those that its users hold, and one for each
  attached consumer. -/
  references_eq : supply.agenda = [] → ∀ id,
    supply.references id = heldBy steps id + countOn id (attachedBy steps)
  /-- The attached consumers are then those whose subscriptions are not closed. -/
  attached_iff : supply.agenda = [] → ∀ number id, ⟨number, id⟩ ∈ attachedBy steps ↔
    ∃ subscription, supply.subscription? number = some subscription ∧
      subscription.producer = id ∧ subscription.closed = false

theorem Balanced.settled (balanced : Balanced steps supply) (calm : Calm steps)
    (covered : Covered steps) : Settled steps supply where
  calm := calm
  departed := ⟨balanced.departed_subset, balanced.departed_nodup⟩
  returned_le attachment := by
    rw [← balanced.repaid.count_eq, List.count_append]
    exact Nat.le_add_right _ _
  holding := balanced.references_add_returned covered
  returned_eq rest attachment member := by
    rw [(balanced.returned_perm rest).count_eq]
    exact List.count_eq_one_of_mem balanced.departed_nodup member
  references_eq rest id := by
    have holding := balanced.references_add_returned covered id
    have joined_eq := balanced.countOn_joined id
    have returned_eq := countOn_perm id (balanced.returned_perm rest)
    omega
  attached_iff rest number id := by
    have told : supply.told = [] := by
      rw [Supply.told, rest]
      rfl
    rw [balanced.attached_iff told]
    unfold owner? isClosed
    cases supply.subscription? number with
    | none => simp
    | some subscription => simp

/-- **References are settled.** Along every course in which calls give back no more
references than they have taken, no step finds a reference missing. Each consumer that
detaches gives its reference back, once, and whenever no call is unfinished the references
on a producer are those that its users hold and one for each attached consumer. -/
theorem references_settled (course : Course {} steps supply) (lenient : Lenient steps)
    (covered : Covered steps) : Settled steps supply :=
  have balanced := course.balanced lenient covered
  balanced.2.settled balanced.1 covered

/-- What calls give back can be compared with what they have taken along the steps. -/
theorem Covered.of_forall_take
    (check : ∀ length < steps.length + 1, ∀ id ∈ givenBy (steps.take length),
      (givenBy (steps.take length)).count id ≤ (takenBy (steps.take length)).count id) :
    Covered steps := by
  intro early before id
  have enough := check early.length (Nat.lt_succ_of_le before.length_le)
  rw [← List.prefix_iff_eq_take.mp before] at enough
  by_cases given : id ∈ givenBy early
  · exact enough id given
  · rw [List.count_eq_zero.mpr given]
    exact Nat.zero_le _

/-- Consumers detach in all ways: one cancels; one is closed while another is given a quote;
that one is told the end while it asks for more, and gives back a reference of its maker then;
one subscribes and asks after the end. Another producer ends without a candidate, and its last
reference is that of a consumer which has come too late. -/
def departing : List Move :=
  [.call (.create price), .call (.subscribe 0), .call (.subscribe 0), .call (.subscribe 0),
    .call (.cancel 3), .call (.push 0 (quote "spot")), .call (.addReference 0), .call (.close 2),
    .back, .call (.ask 1), .call (.finish 0), .call (.release 0), .back, .back, .back,
    .call (.subscribe 0), .call (.ask 4), .back, .back, .call (.subscribe 0), .back,
    .call (.create price), .call (.finish 6), .call (.subscribe 6), .call (.release 6), .back]

theorem references_settled_departing :
    ∃ (steps : List Step) (supply : Supply), Course {} steps supply ∧ Lenient steps ∧
      Covered steps ∧ supply.agenda = [] ∧ supply.references 0 = 2 ∧ supply.references 6 = 0 ∧
        departedBy steps = [⟨3, 0⟩, ⟨2, 0⟩, ⟨1, 0⟩, ⟨4, 0⟩, ⟨7, 6⟩] ∧
          attachedBy steps = [⟨5, 0⟩] ∧ Settled steps supply := by
  let steps := stepsOf {} departing
  have calm : Calm steps := by
    unfold Calm
    decide +kernel
  have covered : Covered steps := .of_forall_take (by decide +kernel)
  have course : Course {} steps (endOf {} departing) := course_stepsOf {} departing
  refine ⟨steps, endOf {} departing, course, .of_calm calm, covered, ?rest, ?first, ?second,
    ?departed, ?attached, references_settled course (.of_calm calm) covered⟩
  case rest => decide +kernel
  case first => decide +kernel
  case second => decide +kernel
  case departed => decide +kernel
  case attached => decide +kernel

end Supply

end ValueEngine
