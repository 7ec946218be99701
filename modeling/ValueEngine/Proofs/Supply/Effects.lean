import ValueEngine.Proofs.Supply.Sources

/-!
# The effects of calls

All that a call can do, from its start or when it goes on, is one of a few effects
(`Supply.Effect`). An invariant of the supply has to be checked for these alone.
-/

set_option autoImplicit false

namespace ValueEngine.Supply

/-- The subscription that a call asks for more. -/
def Call.asked? : Call → Option SupplyId
  | ask number => some number
  | _ => none

/-- What a call or the rest of one does. The first index is the subscription that is
asked for more. -/
inductive Effect (supply : Supply) :
    Option SupplyId → Option SupplyEvent → Supply → Prop where
  | aside {event : Option SupplyEvent} {after : Supply}
      (kept : supply.KeptAside event after) : Effect supply none event after
  | attaches {event : Option SupplyEvent} {after : Supply} {offer : Offer}
      {waiting : SortedSet SupplyId} {subscription : Subscription}
      (attached : offer.Attached supply.nextId event waiting subscription)
      (moves : supply.Moves offer waiting subscription after) :
      Effect supply none event after
  | serves {number : SupplyId} {before : Subscription} {event : Option SupplyEvent}
      {after : Supply} {offer : Offer} {waiting : SortedSet SupplyId}
      {subscription : Subscription} (known : supply.subscription? number = some before)
      (opened : before.closed = false)
      (asked : offer.Asked before event waiting subscription)
      (moves : supply.Moves offer waiting subscription after) :
      Effect supply (some number) event after
  | abandons {number : SupplyId} {before : Subscription} {after : Supply}
      (known : supply.subscription? number = some before)
      (gone : supply.isAlive before.producer = false) (kept : supply.Kept after) :
      Effect supply (some number) (some (.failed number none)) after
  | leaves {number : SupplyId} {event : Option SupplyEvent} {after : Supply}
      (leaves : supply.Leaves number event after) : Effect supply none event after
  | pushes {event : Option SupplyEvent} {after pushed : Supply} {offer : Offer}
      {value : Candidate} (pushes : supply.Pushes offer value pushed)
      (hands : pushed.Hands event after) : Effect supply none event after
  | ends {event : Option SupplyEvent} {after ended : Supply} {offer : Offer}
      (ends : supply.Ends offer ended) (hands : ended.Hands event after) :
      Effect supply none event after
  | hands {event : Option SupplyEvent} {after middle : Supply} (kept : supply.Kept middle)
      (hands : middle.Hands event after) : Effect supply none event after

variable {supply : Supply}

theorem purge_kept (supply : Supply) : supply.purge.Ensures supply.KeptAside :=
  ⟨kept_of_eq rfl rfl rfl rfl, rfl⟩

theorem disown_kept (supply : Supply) (id : SupplyId) :
    (supply.disown id).Ensures supply.KeptAside :=
  ⟨kept_of_eq rfl rfl rfl rfl, rfl⟩

/-- **Every call has one of the effects.** -/
theorem perform_effect (tidy : supply.Tidy) (call : Call) :
    (supply.perform call).Ensures (supply.Effect (Call.asked? call)) := by
  cases call with
  | create requirement => exact (create_kept tidy requirement).mono fun _ _ => .aside
  | obtain requirement => exact (obtain_kept tidy requirement).mono fun _ _ => .aside
  | releaseRegistered requirement =>
    exact (releaseRegistered_kept tidy requirement).mono fun _ _ => .aside
  | purge => exact (purge_kept supply).mono fun _ _ => .aside
  | disown id => exact (disown_kept supply id).mono fun _ _ => .aside
  | subscribe id =>
    refine (subscribe_ensures tidy id).mono ?_
    rintro event after ⟨offer, waiting, subscription, attached, moves⟩
    exact .attaches attached moves
  | ask number =>
    refine (ask_ensures tidy number).mono ?_
    rintro event after ⟨before, known, ⟨opened, offer, waiting, subscription, asked, moves⟩ |
      ⟨gone, rfl, kept⟩⟩
    · exact .serves known opened asked moves
    · exact .abandons known gone kept
  | cancel number =>
    exact (cancel_ensures tidy number).mono fun _ _ => Or.rec .aside .leaves
  | close number =>
    exact (close_ensures tidy number).mono fun _ _ => Or.rec .aside .leaves
  | push id value =>
    refine (push_ensures tidy id value).mono ?_
    rintro event after (kept | ⟨offer, pushed, pushes, hands⟩)
    · exact .aside kept
    · exact .pushes pushes hands
  | finish id =>
    refine (finish_ensures tidy id).mono ?_
    rintro event after ⟨offer, ended, ends, hands⟩
    exact .ends ends hands
  | recordFailure id cause => exact (recordFailure_kept tidy id cause).mono fun _ _ => .aside
  | addReference id => exact (addReference_kept tidy id).mono fun _ _ => .aside
  | release id => exact (releaseThen_kept tidy id _).mono fun _ _ => .aside
  | results id => exact (results_kept supply id).mono fun _ _ => .aside
  | seek id => exact (seek_kept supply id).mono fun _ _ => .aside

/-- What is left of a call has one of the effects when it goes on. -/
theorem resume_pushFrame_effect (tidy : supply.Tidy) (frame : Frame) :
    (supply.pushFrame frame).resume.Ensures ((supply.pushFrame frame).Effect none) := by
  cases frame with
  | answering producer answer => exact .aside ⟨pushFrame_kept supply rfl rfl, rfl⟩
  | releasing id answer =>
    exact (releaseThen_kept tidy id fun _ => answer).mono fun _ _ released =>
      .aside ((pushFrame_kept supply rfl rfl).aside released)
  | delivering id deliveries =>
    exact (deliver_ensures supply id deliveries).mono fun _ _ => .hands (Kept.refl _)
  | failing id failure numbers =>
    unfold resume pushFrame
    dsimp only
    have quiet := event?_releaseThen supply id fun _ => .done
    have released := releaseThen_kept tidy id fun _ => .done
    cases turn : supply.releaseThen id fun _ => .done with
    | answer answer middle =>
      rw [turn] at released
      exact (tellEnd_ensures middle id failure numbers).mono fun _ _ =>
        .hands (released.1.pushFrame _)
    | event event middle =>
      rw [turn] at quiet
      cases quiet
    | violation violation middle => exact trivial
  | installing requirement =>
    exact (install_kept tidy requirement).mono fun _ _ installed =>
      .aside ((pushFrame_kept supply rfl rfl).aside installed)

/-- **So has every call that goes on.** -/
theorem resume_effect (tidy : supply.Tidy) : supply.resume.Ensures (supply.Effect none) := by
  cases agenda : supply.agenda with
  | nil =>
    rw [resume, agenda]
    exact .aside ⟨Kept.refl supply, rfl⟩
  | cons frame outer =>
    have whole : { supply with agenda := outer }.pushFrame frame = supply := by
      rw [pushFrame, ← agenda]
    rw [← whole]
    have rest : Tidy { supply with agenda := outer } :=
      ⟨tidy.producer_id, tidy.subscription_id, tidy.waits, tidy.genuine⟩
    exact resume_pushFrame_effect rest frame

/-- An effect keeps the supply tidy. -/
theorem Tidy.effect {asked : Option SupplyId} {event : Option SupplyEvent} {after : Supply}
    (tidy : supply.Tidy) (effect : supply.Effect asked event after) : after.Tidy := by
  cases effect with
  | aside kept => exact tidy.kept kept.1
  | attaches attached moves => exact tidy.moves moves
  | serves known opened asked moves => exact tidy.moves moves
  | abandons known gone kept => exact tidy.kept kept
  | leaves leaves =>
    obtain ⟨before, offer, middle, known, moves, kept⟩ := leaves
    exact (tidy.moves moves).kept kept.1
  | pushes pushes hands => exact (tidy.announces pushes.toAnnounces).hands hands
  | ends ends hands => exact (tidy.announces ends.toAnnounces).hands hands
  | hands kept hands => exact (tidy.kept kept).hands hands

end ValueEngine.Supply
