import ValueEngine.Proofs.Supply.Evolution
import ValueEngine.Proofs.Supply.References

/-!
# The registry

User code has the producer of a requirement from the registry. When there is none to be had, it
is asked to make a source for a new one, and may do anything meanwhile: it may have the same
producer from the registry, give back references, end it, or purge the registry. So the registry
is looked at once more before the new producer takes the place of another one.

Only a producer without references is ever removed or replaced, and no reference can be taken on
it any more. Therefore a producer that the registry has handed out is registered as long as it has
references, and giving back a reference by requirement hits the producer that it was taken on
(`Supply.registry_guarded`). This holds whatever rules are broken; who holds the references is
known only when calls do not give back more than they have taken (`Supply.Guarded.held`).
-/

set_option autoImplicit false

namespace ValueEngine

/-! ## Usage -/

/-- The requirement whose producer a move is to hand out: the call has just been made, or goes on
after the source has been made. -/
def Move.wants? (supply : Supply) : Move → Option Requirement
  | .call (.obtain requirement) => some requirement
  | .back => supply.agenda.head?.bind Frame.installs?
  | _ => none

/-- The requirement of a producer stays. -/
theorem Producer.Change.requirement_eq {move : Move} {producer changed : Producer}
    (change : producer.Change move changed) : changed.requirement = producer.requirement := by
  cases change with
  | serve => rfl
  | add => rfl
  | finish => rfl
  | @record cause told => exact congrArg Offer.requirement (producer.offer_recordFailure cause)

/-- No reference is taken on a producer once all have been given back. -/
theorem Producer.Change.spent {move : Move} {producer changed : Producer}
    (change : producer.Change move changed) (spent : producer.references = 0) :
    changed.references = 0 := by
  cases change with
  | serve stays => exact stays spent
  | add => exact spent
  | finish => exact spent
  | @record cause told => exact (producer.references_recordFailure cause).trans spent

/-- A step at which the registry hands out a producer for a requirement. -/
structure Step.Provides (step : Step) (requirement : Requirement) (id : SupplyId) : Prop where
  wanted : step.move.wants? step.before = some requirement
  answered : step.turn.answer? = some (.producer id)

namespace Supply

/-- What user code does to a supply: steps, and between them it may look up a producer in the
registry, which it then owns. -/
inductive Usage : List Step → Supply → Prop where
  | start : Usage [] {}
  | step {steps : List Step} {supply : Supply} (earlier : Usage steps supply) (move : Move) :
      Usage (steps ++ [⟨supply, move⟩]) (Step.after ⟨supply, move⟩)
  | fetch {steps : List Step} {supply : Supply} (earlier : Usage steps supply)
      (requirement : Requirement) : Usage steps (supply.fetch requirement).2

/-- The registry has handed out a producer. -/
structure Furnishes (supply : Supply) (requirement : Requirement) (id : SupplyId) (after : Supply) :
    Prop where
  /-- It is the one that is registered for the requirement. -/
  registered : after.registered? requirement = some id
  /-- It is for the requirement. -/
  made : ∃ producer, after.producer? id = some producer ∧ producer.requirement = requirement
  /-- It has one more reference. -/
  references_eq : after.references id = supply.references id + 1
  /-- No other producer has changed. -/
  elsewhere : ∀ other, other ≠ id → after.producer? other = supply.producer? other
  /-- The caller owns it. -/
  owned : after.owned = id :: supply.owned

/-- A reference that is given back by requirement is given back on a producer. -/
def Returns (supply : Supply) (requirement : Requirement) (id : SupplyId) : Prop :=
  ∃ after, supply.releaseRegistered requirement =
      .answer (.countIfKnown (some (supply.references id - 1))) after ∧
    after.references id = supply.references id - 1 ∧
      ∀ other, other ≠ id → after.producer? other = supply.producer? other

/-- The producer registered for a requirement is for it. -/
def Indexed (supply : Supply) : Prop :=
  ∀ requirement id, supply.registered? requirement = some id →
    ∃ producer, supply.producer? id = some producer ∧ producer.requirement = requirement

variable {supply after : Supply} {steps : List Step} {step : Step} {move : Move}
  {requirement : Requirement} {id : SupplyId} {producer changed : Producer}

/-! ## Producers that are registered -/

theorem indexed_empty : Indexed {} := by
  intro requirement id registered
  cases registered

/-- A producer that is registered after a step had been so before, or has just been made. -/
theorem Registers.cases_registered (registers : supply.Registers move after)
    (registered : after.registered? requirement = some id) :
    supply.registered? requirement = some id ∨
      move = .back ∧ supply.agenda.head?.bind Frame.installs? = some requirement ∧
        after.producer? id = some { id, requirement } := by
  unfold registered? at registered
  cases registers with
  | same registry =>
    rw [registry] at registered
    exact .inl registered
  | release _ _ _ _ registry =>
    rw [registry, SortedMap.get?_erase] at registered
    split at registered
    case isTrue => cases registered
    case isFalse => exact .inl registered
  | purge _ registry _ =>
    rw [registry, SortedMap.get?_filter] at registered
    exact .inl (Option.filter_eq_some_iff.mp registered).1
  | install resumed wanted _ registry made =>
    rw [registry, SortedMap.get?_insert] at registered
    split at registered
    case isFalse => exact .inl registered
    case isTrue same =>
      cases same
      cases registered
      exact .inr ⟨resumed, wanted, made⟩

/-- Producers are registered for their requirements after a step. -/
theorem Indexed.evolves (indexed : supply.Indexed) (evolves : supply.Evolves move after) :
    after.Indexed := by
  intro requirement id registered
  rcases evolves.registers.cases_registered registered with before | ⟨_, _, made⟩
  · obtain ⟨producer, found, rfl⟩ := indexed requirement id before
    obtain ⟨changed, present, change⟩ := evolves.known id producer found
    exact ⟨changed, present, change.requirement_eq⟩
  · exact ⟨_, made, rfl⟩

/-- A registered producer that has references can be handed out. -/
theorem referenced?_of_registered (registered : supply.registered? requirement = some id)
    (found : supply.producer? id = some producer) (held : producer.references ≠ 0) :
    supply.referenced? requirement = some producer := by
  unfold referenced?
  rw [registered, Option.bind_some, found, Option.filter_some, if_pos (decide_eq_true held)]

/-- How a producer leaves the registry: all references to it have been given back, and it is
finished and removed, or another one takes its place. -/
inductive Vacates (supply : Supply) (requirement : Requirement) (id : SupplyId) (move : Move)
    (after : Supply) : Prop where
  | removed {producer : Producer} (present : after.producer? id = some producer)
      (spent : producer.references = 0) (finished : producer.finished = true)
      (gone : after.registered? requirement = none)
      (made : move = .call .purge ∨ move = .call (.releaseRegistered requirement))
  | replaced {producer : Producer} (present : after.producer? id = some producer)
      (spent : producer.references = 0) (wanted : move = .back)
      (new : after.registered? requirement = some supply.nextId)

/-- A producer stays registered or leaves in one of these ways. -/
theorem Indexed.vacates (indexed : supply.Indexed) (evolves : supply.Evolves move after)
    (registered : supply.registered? requirement = some id) :
    after.registered? requirement = some id ∨ supply.Vacates requirement id move after := by
  obtain ⟨producer, found, own⟩ := indexed requirement id registered
  cases evolves.registers with
  | same registry =>
    left
    rw [registered?, registry]
    exact registered
  | @release other number released made listed finished spent registry =>
    have looked : after.registered? requirement =
        if other = requirement then none else supply.registered? requirement := by
      rw [registered?, registry, SortedMap.get?_erase, registered?]
    by_cases same : other = requirement
    · subst same
      cases listed.symm.trans registered
      exact .inr (.removed spent rfl finished (looked.trans (if_pos rfl)) (.inr made))
    · exact .inl (looked.trans ((if_neg same).trans registered))
  | purge made registry producers =>
    have looked : after.registered? requirement =
        (supply.registered? requirement).filter fun id => supply.isNeeded id := by
      rw [registered?, registry, SortedMap.get?_filter, registered?]
    rw [registered, Option.filter_some] at looked
    by_cases needed : supply.isNeeded id = true
    · exact .inl (looked.trans (if_pos needed))
    · have stays : after.producer? id = some producer := by
        rw [producer?, producers]
        exact found
      have unneeded : producer.references = 0 ∧ producer.finished = true := by
        simpa [isNeeded, found] using needed
      exact .inr (.removed stays unneeded.1 unneeded.2 (looked.trans (if_neg needed)) (.inl made))
  | @install other resumed wanted spent registry made =>
    have looked : after.registered? requirement =
        if other = requirement then some supply.nextId else supply.registered? requirement := by
      rw [registered?, registry, SortedMap.get?_insert, registered?]
    by_cases same : other = requirement
    · subst same
      obtain ⟨changed, present, change⟩ := evolves.known id producer found
      have none : producer.references = 0 := by
        by_contra held
        cases spent.symm.trans (referenced?_of_registered registered found held)
      exact .inr (.replaced present (change.spent none) resumed (looked.trans (if_pos rfl)))
    · exact .inl (looked.trans ((if_neg same).trans registered))

/-- A producer that is registered stays so as long as it has references. -/
theorem Indexed.registered (indexed : supply.Indexed) (evolves : supply.Evolves move after)
    (registered : supply.registered? requirement = some id) (held : after.references id ≠ 0) :
    after.registered? requirement = some id := by
  rcases indexed.vacates evolves registered with stays | leaves
  · exact stays
  · cases leaves with
    | removed present spent => exact absurd ((references_of_found present).trans spent) held
    | replaced present spent => exact absurd ((references_of_found present).trans spent) held

/-! ## Producers that are handed out -/

/-- The registered producer is handed out when it has references. -/
theorem furnishes_handOut (filed : supply.Filed) (indexed : supply.Indexed)
    (listed : supply.referenced? requirement = some producer) :
    supply.Furnishes requirement producer.id (supply.handOut producer).supply := by
  obtain ⟨known, _⟩ := Option.filter_eq_some_iff.mp listed
  obtain ⟨id, registered, found⟩ := Option.bind_eq_some_iff.mp known
  cases (filed id producer found).1
  obtain ⟨same, present, own⟩ := indexed requirement producer.id registered
  cases found.symm.trans present
  have looked : ∀ other, (supply.handOut producer).supply.producer? other =
      if producer.id = other then some { producer with references := producer.references + 1 }
      else supply.producer? other := fun other => producer?_putProducer _ _ other
  have here := (looked producer.id).trans (if_pos rfl)
  exact {
    registered := registered
    made := ⟨_, here, own⟩
    references_eq := by rw [references_of_found here, references_of_found found]
    elsewhere := fun other differs => (looked other).trans (if_neg differs.symm)
    owned := rfl }

/-- A producer is handed out when the source has been made, and it is a new one unless the one
that is registered has references. -/
theorem exists_furnishes_install (filed : supply.Filed) (indexed : supply.Indexed)
    (requirement : Requirement) : ∃ id, (supply.install requirement).answer? = some (.producer id) ∧
      supply.Furnishes requirement id (supply.install requirement).supply := by
  unfold install
  split
  case h_1 producer listed => exact ⟨producer.id, rfl, furnishes_handOut filed indexed listed⟩
  case h_2 spent =>
    refine ⟨supply.nextId, rfl, ?_⟩
    have unknown : supply.references supply.nextId = 0 := by
      unfold references
      cases found : supply.producer? supply.nextId with
      | none => rfl
      | some producer => exact absurd (filed _ producer found).2 (Nat.lt_irrefl _)
    let made : Producer := { id := supply.nextId, requirement }
    have here : ({ supply with registry := supply.registry.insert requirement supply.nextId }.create
        requirement).supply.producer? supply.nextId = some made :=
      (producer?_putProducer _ made _).trans (if_pos rfl)
    exact {
      registered := SortedMap.get?_insert_self _ _ _
      made := ⟨made, here, rfl⟩
      references_eq := by rw [references_of_found here, unknown]
      elsewhere := fun other differs =>
        (producer?_putProducer _ made other).trans (if_neg differs.symm)
      owned := rfl }

/-- A producer is handed out at once, or a source is asked for. -/
theorem furnishes_obtain (filed : supply.Filed) (indexed : supply.Indexed)
    (requirement : Requirement) :
    (∃ id, (supply.obtain requirement).answer? = some (.producer id) ∧
      supply.Furnishes requirement id (supply.obtain requirement).supply) ∨
    supply.obtain requirement =
      .event (.sourcing requirement) (supply.pushFrame (.installing requirement)) := by
  unfold Supply.obtain
  split
  case h_1 producer listed => exact .inl ⟨producer.id, rfl, furnishes_handOut filed indexed listed⟩
  case h_2 => exact .inr rfl

/-- The call goes on when the source has been made. -/
theorem resume_installing {outer : List Frame}
    (agenda : supply.agenda = .installing requirement :: outer) :
    supply.resume = Supply.install { supply with agenda := outer } requirement := by
  unfold resume
  rw [agenda]

/-- A producer is handed out by the call that goes on then. -/
theorem exists_furnishes_resume (filed : supply.Filed) (indexed : supply.Indexed)
    {outer : List Frame} (agenda : supply.agenda = .installing requirement :: outer) :
    ∃ id, supply.resume.answer? = some (.producer id) ∧
      supply.Furnishes requirement id supply.resume.supply := by
  have rest : Filed { supply with agenda := outer } := filed
  have index : Indexed { supply with agenda := outer } := indexed
  rw [resume_installing agenda]
  obtain ⟨id, answered, handed⟩ := exists_furnishes_install rest index requirement
  exact ⟨id, answered, handed.registered, handed.made, handed.references_eq, handed.elsewhere,
    handed.owned⟩

end Supply

/-- What a step hands out is the registered producer, with one more reference. -/
theorem Step.Provides.furnishes {step : Step} {requirement : Requirement} {id : SupplyId}
    (provides : step.Provides requirement id) (filed : step.before.Filed)
    (indexed : step.before.Indexed) : step.before.Furnishes requirement id step.after := by
  obtain ⟨before, move⟩ := step
  obtain ⟨wanted, answered⟩ := provides
  cases move with
  | call made =>
    cases made with
    | obtain other =>
      cases wanted
      rcases Supply.furnishes_obtain filed indexed requirement with ⟨given, same, handed⟩ | asked
      · cases same.symm.trans answered
        exact handed
      · have silent : (before.obtain requirement).answer? = none := by rw [asked]; rfl
        cases silent.symm.trans answered
    | _ => cases wanted
  | back =>
    obtain ⟨outer, agenda⟩ := Supply.exists_installing wanted
    obtain ⟨given, same, handed⟩ := Supply.exists_furnishes_resume filed indexed agenda
    cases same.symm.trans answered
    exact handed

/-- A producer that is registered after a step had been so before, or is handed out. -/
theorem Step.registered_or_provides (step : Step) (filed : step.before.Filed)
    (indexed : step.before.Indexed) {requirement : Requirement} {id : SupplyId}
    (registered : step.after.registered? requirement = some id) :
    step.before.registered? requirement = some id ∨ step.Provides requirement id := by
  rcases (step.evolves filed).registers.cases_registered registered with before | ⟨back, wanted, _⟩
  · exact .inl before
  · obtain ⟨before, move⟩ := step
    cases back
    obtain ⟨outer, agenda⟩ := Supply.exists_installing wanted
    obtain ⟨given, answered, furnishes⟩ := Supply.exists_furnishes_resume filed indexed agenda
    cases registered.symm.trans furnishes.registered
    exact .inr ⟨wanted, answered⟩

namespace Supply

variable {supply after : Supply} {steps : List Step} {step : Step} {move : Move}
  {requirement : Requirement} {id : SupplyId} {producer changed : Producer}

/-! ## Giving back by requirement -/

/-- A reference that is given back by requirement is given back on the producer that is
registered. -/
theorem returns_of_registered (filed : supply.Filed)
    (registered : supply.registered? requirement = some id) (held : supply.references id ≠ 0) :
    supply.Returns requirement id := by
  cases found : supply.producer? id with
  | none => exact absurd (by simp [references, found]) held
  | some producer =>
    cases (filed id producer found).1
    rw [references_of_found found] at held
    have counted := references_of_found found
    -- Leaving the registry makes no difference to the producers.
    have given : ∀ middle : Supply, middle.producers = supply.producers →
        ∃ after, (middle.releaseThen producer.id fun remaining => .countIfKnown (some remaining)) =
            .answer (.countIfKnown (some (producer.references - 1))) after ∧
          after.references producer.id = producer.references - 1 ∧
            ∀ other, other ≠ producer.id → after.producer? other = supply.producer? other := by
      intro middle same
      have looked : ∀ other, middle.producer? other = supply.producer? other := by
        intro other
        rw [producer?, same, producer?]
      let changed : Producer := { producer with references := producer.references - 1 }
      have there := (looked producer.id).trans found
      refine ⟨middle.putProducer changed, releaseThen_of_held there held _, ?_, ?_⟩
      · rw [references_putProducer]
        exact if_pos rfl
      · intro other differs
        rw [producer?_putProducer, ← looked]
        exact if_neg differs.symm
    unfold Returns releaseRegistered
    rw [registered, Option.bind_some, found, counted]
    dsimp only
    split
    case isTrue => exact given _ rfl
    case isFalse => exact given _ rfl

/-! ## Along a usage -/

/-- What holds of the registry and the producers after some steps. -/
structure Watched (steps : List Step) (supply : Supply) : Prop where
  filed : supply.Filed
  indexed : supply.Indexed
  /-- Whatever is registered has been handed out. -/
  made : ∀ requirement id, supply.registered? requirement = some id →
    ∃ step ∈ steps, step.Provides requirement id
  /-- A producer that the registry has handed out is registered unless it is without
  references. -/
  provided : ∀ step ∈ steps, ∀ requirement id, step.Provides requirement id →
    ∃ producer, supply.producer? id = some producer ∧
      (supply.references id ≠ 0 → supply.registered? requirement = some id)
  /-- A producer without references remains so. -/
  spent : ∀ step ∈ steps, ∀ id producer, step.before.producer? id = some producer →
    producer.references = 0 → ∃ later, supply.producer? id = some later ∧ later.references = 0
  /-- What a step has handed out was the registered producer, with one more reference. -/
  handed : ∀ step ∈ steps, ∀ requirement id, step.Provides requirement id →
    step.before.Furnishes requirement id step.after
  /-- A producer has left the registry in one of the ways. -/
  vacates : ∀ step ∈ steps, ∀ requirement id, step.before.registered? requirement = some id →
    step.after.registered? requirement = some id ∨
      step.before.Vacates requirement id step.move step.after

theorem Watched.congr (watched : Watched steps supply) (alike : supply.Alike after) :
    Watched steps after := by
  have registered : ∀ requirement,
      after.registered? requirement = supply.registered? requirement := by
    intro requirement
    rw [registered?, alike.registry_eq, registered?]
  have references : ∀ id, after.references id = supply.references id := by
    intro id
    rw [Supply.references, alike.producer?_eq, Supply.references]
  refine ⟨?_, ?_, ?_, ?_, ?_, watched.handed, watched.vacates⟩
  · intro id producer found
    rw [alike.producer?_eq] at found
    rw [alike.next_eq]
    exact watched.filed id producer found
  · intro requirement id listed
    rw [registered] at listed
    rw [alike.producer?_eq]
    exact watched.indexed requirement id listed
  · intro requirement id listed
    rw [registered] at listed
    exact watched.made requirement id listed
  · intro step member requirement id provides
    rw [alike.producer?_eq, registered, references]
    exact watched.provided step member requirement id provides
  · intro step member id producer found none
    rw [alike.producer?_eq]
    exact watched.spent step member id producer found none

/-- Looking up a producer changes neither producers nor the registry. -/
theorem alike_fetch (supply : Supply) (requirement : Requirement) :
    supply.Alike (supply.fetch requirement).2 := by
  unfold fetch
  split <;> exact ⟨rfl, rfl, rfl⟩

/-- **Every step keeps the registry.** -/
theorem Watched.concat (watched : Watched steps step.before) :
    Watched (steps ++ [step]) step.after := by
  have evolves := step.evolves watched.filed
  have stays : ∀ id producer, step.before.producer? id = some producer → producer.references = 0 →
      ∃ later, step.after.producer? id = some later ∧ later.references = 0 := by
    intro id producer found none
    obtain ⟨changed, present, change⟩ := evolves.known id producer found
    exact ⟨changed, present, change.spent none⟩
  refine ⟨evolves.filed watched.filed, watched.indexed.evolves evolves, ?made, ?provided, ?spent,
    ?handed, ?vacates⟩
  case made =>
    intro requirement id registered
    rcases step.registered_or_provides watched.filed watched.indexed registered with before | now
    · obtain ⟨earlier, member, provides⟩ := watched.made requirement id before
      exact ⟨earlier, List.mem_append_left _ member, provides⟩
    · exact ⟨step, List.mem_append_right _ List.mem_cons_self, now⟩
  case provided =>
    refine List.forall_mem_append.mpr ⟨fun earlier member requirement id provides => ?before,
      List.forall_mem_singleton.mpr fun requirement id provides => ?now⟩
    case before =>
      obtain ⟨producer, found, registered⟩ :=
        watched.provided earlier member requirement id provides
      obtain ⟨changed, present, change⟩ := evolves.known id producer found
      refine ⟨changed, present, fun held => ?_⟩
      have before : step.before.references id ≠ 0 := by
        rw [references_of_found found]
        rw [references_of_found present] at held
        exact fun none => held (change.spent none)
      exact watched.indexed.registered evolves (registered before) held
    case now =>
      have handed := provides.furnishes watched.filed watched.indexed
      obtain ⟨producer, present, _⟩ := handed.made
      exact ⟨producer, present, fun _ => handed.registered⟩
  case spent =>
    refine List.forall_mem_append.mpr ⟨fun earlier member id producer found none => ?_,
      List.forall_mem_singleton.mpr stays⟩
    obtain ⟨later, present, spent⟩ := watched.spent earlier member id producer found none
    exact stays id later present spent
  case handed =>
    exact List.forall_mem_append.mpr ⟨watched.handed, List.forall_mem_singleton.mpr
      fun _ _ provides => provides.furnishes watched.filed watched.indexed⟩
  case vacates =>
    exact List.forall_mem_append.mpr ⟨watched.vacates, List.forall_mem_singleton.mpr
      fun _ _ registered => watched.indexed.vacates evolves registered⟩

theorem Usage.watched (usage : Usage steps supply) : Watched steps supply := by
  induction usage with
  | start => exact ⟨filed_empty, indexed_empty, nofun, nofun, nofun, nofun, nofun⟩
  | step _ move ih => exact Watched.concat ih
  | fetch _ requirement ih => exact ih.congr (alike_fetch _ requirement)

/-! ## References that are held -/

/-- Looking up a producer concerns no consumer. -/
theorem kept_fetch (supply : Supply) (requirement : Requirement) :
    supply.Kept (supply.fetch requirement).2 := by
  unfold fetch
  split
  · exact Kept.refl supply
  · exact kept_of_eq rfl rfl rfl rfl

/-- Looking up a producer does not touch the books. -/
theorem Balanced.fetch (balanced : Balanced steps supply) (requirement : Requirement) :
    Balanced steps (supply.fetch requirement).2 := by
  unfold Supply.fetch
  split
  case h_1 => exact balanced
  case h_2 =>
    exact ⟨balanced.references_eq, balanced.owner_iff, balanced.joined_nodup,
      balanced.departed_subset, balanced.closed_eq, balanced.repaid, balanced.owing_eq,
      fun frame member => (balanced.fits frame member).mono fun _ _ owner => owner⟩

/-- Along a usage the books balance, as they do along a course. -/
theorem Usage.balanced (usage : Usage steps supply) (lenient : Lenient steps)
    (covered : Covered steps) :
    Calm steps ∧ supply.Tidy ∧ supply.Aligned ∧ Balanced steps supply := by
  induction usage with
  | start => exact ⟨nofun, tidy_empty, aligned_empty, .empty⟩
  | @step steps before earlier move ih =>
    obtain ⟨lenientBefore, lenientNow⟩ := List.forall_mem_append.mp lenient
    obtain ⟨calm, tidy, aligned, balanced⟩ := ih lenientBefore covered.of_append
    obtain ⟨calmNow, balancedNow⟩ := Balanced.next balanced tidy aligned lenientNow covered
    have effect := Step.effect tidy calmNow
    exact ⟨List.forall_mem_append.mpr ⟨calm, List.forall_mem_singleton.mpr calmNow⟩,
      tidy.effect effect, aligned.effect tidy effect, balancedNow⟩
  | @fetch steps before earlier requirement ih =>
    obtain ⟨calm, tidy, aligned, balanced⟩ := ih lenient covered
    have kept := kept_fetch before requirement
    exact ⟨calm, tidy.kept kept, aligned.kept kept, balanced.fetch requirement⟩

/-! ## What the registry guarantees -/

/-- What a usage finds of the registry. -/
structure Guarded (steps : List Step) (supply : Supply) : Prop where
  /-- Whatever is registered has been handed out. -/
  made : ∀ requirement id, supply.registered? requirement = some id →
    ∃ step ∈ steps, step.Provides requirement id
  /-- A producer that has been handed out is registered as long as it has references. -/
  registered : ∀ step ∈ steps, ∀ requirement id, step.Provides requirement id →
    supply.references id ≠ 0 → supply.registered? requirement = some id
  /-- There is one such producer for a requirement at most. -/
  unique : ∀ step ∈ steps, ∀ requirement id, step.Provides requirement id →
    ∀ later ∈ steps, ∀ other, later.Provides requirement other →
      supply.references id ≠ 0 → supply.references other ≠ 0 → id = other
  /-- A reference that is given back by requirement is given back on it. -/
  returns : ∀ step ∈ steps, ∀ requirement id, step.Provides requirement id →
    supply.references id ≠ 0 → supply.Returns requirement id
  /-- It has references as long as somebody holds one that a call has taken. -/
  held : Lenient steps → Covered steps → ∀ id, heldBy steps id ≠ 0 → supply.references id ≠ 0
  /-- Nobody gets a reference any more once all have been given back. -/
  spent : ∀ step ∈ steps, ∀ id producer, step.before.producer? id = some producer →
    producer.references = 0 → supply.references id = 0
  /-- A producer that is handed out is the registered one, for the requirement, and has one more
  reference for the caller. -/
  handed : ∀ step ∈ steps, ∀ requirement id, step.Provides requirement id →
    step.before.Furnishes requirement id step.after
  /-- Who wants a producer is given one, or asked for a source. -/
  obtained : ∀ requirement, (∃ id, (supply.obtain requirement).answer? = some (.producer id)) ∨
    supply.obtain requirement =
      .event (.sourcing requirement) (supply.pushFrame (.installing requirement))
  /-- Who has been asked for a source is given a producer afterwards. -/
  resumed : ∀ requirement outer, supply.agenda = .installing requirement :: outer →
    ∃ id, supply.resume.answer? = some (.producer id)
  /-- A producer leaves the registry only when it has no references: it is removed, by calls that
  are for that and only when it is finished, or another one takes its place. -/
  vacates : ∀ step ∈ steps, ∀ requirement id, step.before.registered? requirement = some id →
    step.after.registered? requirement = some id ∨
      step.before.Vacates requirement id step.move step.after

/-- **The registry keeps what is referenced.** However the registry and its producers are used,
and whatever is done while a source is made, a producer that has been handed out is registered
as long as it has references, it gets none once it has lost all, and only producers without
references leave the registry. -/
theorem registry_guarded (usage : Usage steps supply) : Guarded steps supply := by
  have watched := usage.watched
  have registered : ∀ step ∈ steps, ∀ requirement id, step.Provides requirement id →
      supply.references id ≠ 0 → supply.registered? requirement = some id := by
    intro step member requirement id provides held
    obtain ⟨producer, found, listed⟩ := watched.provided step member requirement id provides
    exact listed held
  exact {
    made := watched.made
    registered := registered
    unique := fun step member requirement id provides later among other gives held kept =>
      Option.some.inj ((registered step member requirement id provides held).symm.trans
        (registered later among requirement other gives kept))
    returns := fun step member requirement id provides held =>
      returns_of_registered watched.filed (registered step member requirement id provides held) held
    held := fun lenient covered id holds => by
      obtain ⟨_, _, _, balanced⟩ := usage.balanced lenient covered
      exact Nat.ne_of_gt (balanced.references_pos_of_held (Nat.lt_of_sub_ne_zero holds))
    spent := fun step member id producer found none => by
      obtain ⟨later, present, gone⟩ := watched.spent step member id producer found none
      exact (references_of_found present).trans gone
    handed := watched.handed
    obtained := fun requirement =>
      (furnishes_obtain watched.filed watched.indexed requirement).imp_left
        fun ⟨id, answered, _⟩ => ⟨id, answered⟩
    resumed := fun requirement outer agenda => by
      obtain ⟨id, answered, _⟩ := exists_furnishes_resume watched.filed watched.indexed agenda
      exact ⟨id, answered⟩
    vacates := watched.vacates }

/-- A course is a usage without looking up producers. -/
theorem Course.usage (course : Course {} steps supply) : Usage steps supply := by
  induction course with
  | start => exact .start
  | step _ move ih => exact ih.step move

/-- While a source for the price is made, the producer of the price is had from the registry and
given back, but not ended. The call that goes on makes another one in its place, on which one
more reference is taken. -/
def replacing : List Move :=
  [.call (.obtain price), .call (.obtain price), .back, .call (.releaseRegistered price), .back,
    .call (.addReference 1)]

theorem registry_guarded_replacing :
    ∃ (steps : List Step) (first second : Step) (supply : Supply), Usage steps supply ∧
      first ∈ steps ∧ first.Provides price 0 ∧ second ∈ steps ∧ second.Provides price 1 ∧
        supply.references 0 = 0 ∧ supply.references 1 = 2 ∧ Guarded steps supply := by
  let found : Supply := ((endOf {} replacing).fetch price).2
  let steps : List Step := stepsOf {} replacing ++ [⟨found, .call (.disown 1)⟩]
  have usage : Usage steps (Step.after ⟨found, .call (.disown 1)⟩) :=
    ((course_stepsOf {} replacing).usage.fetch price).step (.call (.disown 1))
  refine ⟨steps, ⟨endOf {} (replacing.take 2), .back⟩, ⟨endOf {} (replacing.take 4), .back⟩, _,
    usage, ?made, ⟨?wanted, ?given⟩, ?remade, ⟨?asked, ?regiven⟩, ?gone, ?held,
    registry_guarded usage⟩
  case made => exact List.mem_of_getElem? (i := 2) rfl
  case wanted => decide +kernel
  case given => decide +kernel
  case remade => exact List.mem_of_getElem? (i := 4) rfl
  case asked => decide +kernel
  case regiven => decide +kernel
  case gone => decide +kernel
  case held => decide +kernel

end Supply

end ValueEngine
