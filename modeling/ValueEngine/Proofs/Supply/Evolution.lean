import ValueEngine.Proofs.Supply.Ledger

/-!
# How producers and the registry change

A step changes a producer in one of a few ways (`Producer.Change`) and the registry in one of a
few ways (`Supply.Registers`), whether or not it breaks a rule, and a producer that is new after
a step is as it was made (`Supply.Evolves`). What holds of every producer along a course, no
matter which rules are broken, has to be checked for these changes alone.
-/

set_option autoImplicit false

namespace ValueEngine

/-- The requirement for which an unfinished call is to register a producer. -/
def Frame.installs? : Frame → Option Requirement
  | installing requirement => some requirement
  | _ => none

theorem Frame.eq_installing {frame : Frame} {requirement : Requirement}
    (installs : frame.installs? = some requirement) : frame = .installing requirement := by
  cases frame with
  | installing => cases installs; rfl
  | _ => cases installs

/-- The call that goes on next is the one that is to register a producer. -/
theorem Supply.exists_installing {supply : Supply} {requirement : Requirement}
    (wanted : supply.agenda.head?.bind Frame.installs? = some requirement) :
    ∃ outer, supply.agenda = .installing requirement :: outer := by
  obtain ⟨frame, first, installs⟩ := Option.bind_eq_some_iff.mp wanted
  cases Frame.eq_installing installs
  exact List.head?_eq_some_iff.mp first

/-- What a step that makes a move can do to a producer. -/
inductive Producer.Change (move : Move) (producer : Producer) : Producer → Prop where
  /-- References are taken or given back and subscriptions start or stop waiting. No reference
  is taken once all have been given back. -/
  | serve {references : Nat} {waiting : SortedSet SupplyId}
      (spent : producer.references = 0 → references = 0) :
      Change move producer { producer with references, waiting }
  /-- A candidate is found. -/
  | add {value : Candidate} (pushed : move = .call (.push producer.id value)) :
      Change move producer (producer.add value)
  /-- The end is declared. -/
  | finish (declared : move = .call (.finish producer.id)) :
      Change move producer { producer with finished := true, waiting := ∅ }
  /-- A cause of failure is recorded. -/
  | record {cause : Failure} (told : move = .call (.recordFailure producer.id cause)) :
      Change move producer (producer.recordFailure cause).1

namespace Producer

variable {move : Move} {producer changed : Producer}

/-- A producer may stay as it is. -/
theorem Change.refl (move : Move) (producer : Producer) : producer.Change move producer :=
  .serve fun spent => spent

theorem id_recordFailure (producer : Producer) (cause : Failure) :
    (producer.recordFailure cause).1.id = producer.id :=
  congrArg Offer.id (producer.offer_recordFailure cause)

theorem Change.id_eq (change : producer.Change move changed) : changed.id = producer.id := by
  cases change with
  | serve => rfl
  | add => rfl
  | finish => rfl
  | @record cause told => exact producer.id_recordFailure cause

end Producer

namespace Supply

/-- What a step that makes a move can do to the registry. -/
inductive Registers (supply : Supply) (move : Move) (after : Supply) : Prop where
  /-- It stays as it is. -/
  | same (registry : after.registry = supply.registry)
  /-- A finished producer leaves it with its last reference. -/
  | release {requirement : Requirement} {id : SupplyId} {producer : Producer}
      (made : move = .call (.releaseRegistered requirement))
      (registered : supply.registered? requirement = some id)
      (finished : producer.finished = true)
      (spent : after.producer? id = some { producer with references := 0 })
      (registry : after.registry = supply.registry.erase requirement)
  /-- All producers leave it that are not needed. -/
  | purge (made : move = .call .purge)
      (registry : after.registry = supply.registry.filter fun _ id => supply.isNeeded id)
      (producers : after.producers = supply.producers)
  /-- A producer is made for a requirement and takes the place of one without references. -/
  | install {requirement : Requirement} (resumed : move = .back)
      (wanted : supply.agenda.head?.bind Frame.installs? = some requirement)
      (spent : supply.referenced? requirement = none)
      (registry : after.registry = supply.registry.insert requirement supply.nextId)
      (made : after.producer? supply.nextId = some { id := supply.nextId, requirement })

/-- What a step that makes a move can do to the producers and the registry. -/
structure Evolves (supply : Supply) (move : Move) (after : Supply) : Prop where
  next_le : supply.nextId ≤ after.nextId
  /-- A producer stays, and changes in one of the ways. -/
  known : ∀ id producer, supply.producer? id = some producer →
    ∃ changed, after.producer? id = some changed ∧ producer.Change move changed
  /-- A producer that is new has just been made, under the next number. -/
  fresh : ∀ id producer, after.producer? id = some producer → supply.producer? id = none →
    id = supply.nextId ∧ id < after.nextId ∧ ∃ requirement, producer = { id, requirement }
  /-- The registry changes in one of the ways. -/
  registers : supply.Registers move after

/-- Producers, their numbers and the registry are the same. -/
structure Alike (supply after : Supply) : Prop where
  producers_eq : after.producers = supply.producers
  next_eq : after.nextId = supply.nextId
  registry_eq : after.registry = supply.registry

/-- Producers stand under their numbers. -/
def Filed (supply : Supply) : Prop :=
  ∀ id producer, supply.producer? id = some producer → producer.id = id ∧ id < supply.nextId

variable {supply middle after : Supply} {move : Move} {id : SupplyId}
  {producer changed : Producer}

theorem filed_empty : Filed {} := by
  intro id producer found
  cases found

theorem Evolves.filed (evolves : supply.Evolves move after) (filed : supply.Filed) :
    after.Filed := by
  intro id producer found
  cases before : supply.producer? id with
  | none =>
    obtain ⟨_, below, requirement, rfl⟩ := evolves.fresh id producer found before
    exact ⟨rfl, below⟩
  | some earlier =>
    obtain ⟨changed, same, change⟩ := evolves.known id earlier before
    cases found.symm.trans same
    obtain ⟨own, below⟩ := filed id earlier before
    exact ⟨change.id_eq.trans own, Nat.lt_of_lt_of_le below evolves.next_le⟩

theorem Alike.refl (supply : Supply) : supply.Alike supply := ⟨rfl, rfl, rfl⟩

theorem Alike.trans (first : supply.Alike middle) (second : middle.Alike after) :
    supply.Alike after :=
  ⟨second.producers_eq.trans first.producers_eq, second.next_eq.trans first.next_eq,
    second.registry_eq.trans first.registry_eq⟩

theorem Alike.producer?_eq (alike : supply.Alike after) (id : SupplyId) :
    after.producer? id = supply.producer? id := by
  rw [producer?, alike.producers_eq, producer?]

theorem Registers.congr (registers : supply.Registers move middle) (alike : middle.Alike after) :
    supply.Registers move after := by
  cases registers with
  | same registry => exact .same (alike.registry_eq.trans registry)
  | release made registered finished spent registry =>
    exact .release made registered finished ((alike.producer?_eq _).trans spent)
      (alike.registry_eq.trans registry)
  | purge made registry producers =>
    exact .purge made (alike.registry_eq.trans registry) (alike.producers_eq.trans producers)
  | install resumed wanted spent registry made =>
    exact .install resumed wanted spent (alike.registry_eq.trans registry)
      ((alike.producer?_eq _).trans made)

theorem Evolves.congr (evolves : supply.Evolves move middle) (alike : middle.Alike after) :
    supply.Evolves move after where
  next_le := alike.next_eq ▸ evolves.next_le
  known id producer found := by
    rw [alike.producer?_eq]
    exact evolves.known id producer found
  fresh id producer found absent := by
    rw [alike.producer?_eq] at found
    rw [alike.next_eq]
    exact evolves.fresh id producer found absent
  registers := evolves.registers.congr alike

/-- Unfinished calls do not matter as long as the registry stays as it is. -/
theorem Evolves.of_agenda (agenda : List Frame)
    (evolves : Evolves { supply with agenda } move after)
    (registry : after.registry = supply.registry) : supply.Evolves move after where
  next_le := evolves.next_le
  known := evolves.known
  fresh := evolves.fresh
  registers := .same registry

/-! ## Steps that change one producer at most -/

/-- Nothing changes. -/
theorem Evolves.refl (supply : Supply) (move : Move) : supply.Evolves move supply where
  next_le := Nat.le_refl _
  known id producer found := ⟨producer, found, .refl move producer⟩
  fresh id producer found absent := by cases found.symm.trans absent
  registers := .same rfl

theorem Alike.evolves (alike : supply.Alike after) (move : Move) : supply.Evolves move after :=
  (Evolves.refl supply move).congr alike

theorem evolves_of_eq (producers : after.producers = supply.producers)
    (next : after.nextId = supply.nextId) (registry : after.registry = supply.registry) :
    supply.Evolves move after :=
  Alike.evolves ⟨producers, next, registry⟩ move

/-- One producer changes. -/
theorem evolves_of_change (found : supply.producer? id = some producer)
    (here : after.producer? id = some changed) (change : producer.Change move changed)
    (elsewhere : ∀ other, other ≠ id → after.producer? other = supply.producer? other)
    (next : supply.nextId ≤ after.nextId) (registry : after.registry = supply.registry) :
    supply.Evolves move after where
  next_le := next
  known other earlier known := by
    by_cases same : other = id
    · subst same
      cases found.symm.trans known
      exact ⟨changed, here, change⟩
    · exact ⟨earlier, (elsewhere other same).trans known, .refl move earlier⟩
  fresh other earlier known absent := by
    by_cases same : other = id
    · subst same
      cases found.symm.trans absent
    · cases ((elsewhere other same).symm.trans known).symm.trans absent
  registers := .same registry

/-- One producer is written down anew. -/
theorem Filed.evolves_put (filed : supply.Filed)
    (found : supply.producer? id = some producer) (change : producer.Change move changed)
    (producers : after.producers = (supply.putProducer changed).producers)
    (next : supply.nextId ≤ after.nextId) (registry : after.registry = supply.registry) :
    supply.Evolves move after := by
  have own : changed.id = id := change.id_eq.trans (filed id producer found).1
  have looked : ∀ other, after.producer? other =
      if changed.id = other then some changed else supply.producer? other := by
    intro other
    rw [← producer?_putProducer, producer?, producers, producer?]
  refine evolves_of_change found ?_ change (fun other differs => ?_) next registry
  · rw [looked, if_pos own]
  · rw [looked, if_neg (own ▸ differs.symm)]

/-- A reference that is held is given back. -/
theorem releaseThen_of_held (found : supply.producer? id = some producer)
    (held : producer.references ≠ 0) (answer : Nat → Answer) :
    supply.releaseThen id answer = .answer (answer (producer.references - 1))
      (supply.putProducer { producer with references := producer.references - 1 }) := by
  unfold releaseThen
  rw [found]
  exact if_neg held

/-- A reference is given back on a producer whose waiting subscriptions may have changed. -/
theorem Filed.evolves_releaseThen (filed : supply.Filed)
    (found : supply.producer? id = some producer) {waiting : SortedSet SupplyId}
    (here : middle.producer? id = some { producer with waiting })
    (elsewhere : ∀ other, other ≠ id → middle.producer? other = supply.producer? other)
    (next : supply.nextId ≤ middle.nextId) (registry : middle.registry = supply.registry)
    (answer : Nat → Answer) : supply.Evolves move (middle.releaseThen id answer).supply := by
  have own : producer.id = id := (filed id producer found).1
  unfold releaseThen
  rw [here]
  dsimp only
  split
  case isTrue none =>
    exact evolves_of_change found here (.serve fun spent => spent) elsewhere next registry
  case isFalse held =>
    have looked : ∀ other, (middle.putProducer
        { producer with waiting, references := producer.references - 1 }).producer? other =
          if producer.id = other then
            some { producer with waiting, references := producer.references - 1 }
          else middle.producer? other := fun other => producer?_putProducer _ _ other
    have change : producer.Change move
        { producer with waiting, references := producer.references - 1 } :=
      .serve fun spent => absurd spent held
    refine evolves_of_change found ((looked id).trans (if_pos own)) change ?_ next registry
    intro other differs
    exact (looked other).trans ((if_neg (own ▸ differs.symm)).trans (elsewhere other differs))

/-- A reference is given back. -/
theorem Filed.evolves_release (filed : supply.Filed) (id : SupplyId)
    (answer : Nat → Answer) : supply.Evolves move (supply.releaseThen id answer).supply := by
  cases found : supply.producer? id with
  | none =>
    unfold releaseThen
    rw [found]
    exact evolves_of_eq rfl rfl rfl
  | some producer =>
    exact filed.evolves_releaseThen found found (fun _ _ => rfl) (Nat.le_refl _) rfl answer

/-- Giving back a reference does not change the registry. -/
theorem registry_releaseThen (supply : Supply) (id : SupplyId) (answer : Nat → Answer) :
    (supply.releaseThen id answer).supply.registry = supply.registry := by
  unfold releaseThen
  split
  case h_1 => rfl
  case h_2 => split <;> rfl

/-! ## Calls -/

theorem evolves_create (filed : supply.Filed) (requirement : Requirement) :
    supply.Evolves move (supply.create requirement).supply where
  next_le := Nat.le_succ _
  known id producer found := by
    refine ⟨producer, ?_, .refl move producer⟩
    refine (producer?_putProducer supply { id := supply.nextId, requirement } id).trans ?_
    have below := (filed id producer found).2
    rw [if_neg (Nat.ne_of_gt below), found]
  fresh id producer found absent := by
    have looked := producer?_putProducer supply { id := supply.nextId, requirement } id
    by_cases same : supply.nextId = id
    · rw [if_pos same] at looked
      cases found.symm.trans looked
      exact ⟨same.symm, same ▸ Nat.lt_succ_self _, requirement, by rw [same]⟩
    · rw [if_neg same] at looked
      cases (found.symm.trans looked).trans absent
  registers := .same rfl

theorem evolves_handOut (filed : supply.Filed) {requirement : Requirement}
    (found : supply.referenced? requirement = some producer) :
    supply.Evolves move (supply.handOut producer).supply := by
  obtain ⟨known, held⟩ := Option.filter_eq_some_iff.mp found
  obtain ⟨id, _, present⟩ := Option.bind_eq_some_iff.mp known
  have change : producer.Change move { producer with references := producer.references + 1 } :=
    .serve fun spent => absurd spent (of_decide_eq_true held)
  exact filed.evolves_put present change rfl (Nat.le_refl _) rfl

theorem evolves_install (filed : supply.Filed) {requirement : Requirement} {outer : List Frame}
    (agenda : supply.agenda = .installing requirement :: outer) :
    supply.Evolves .back (install { supply with agenda := outer } requirement).supply := by
  have rest : Filed { supply with agenda := outer } := filed
  unfold install
  split
  case h_1 producer found =>
    have handed : Evolves { supply with agenda := outer } .back
        (handOut { supply with agenda := outer } producer).supply := evolves_handOut rest found
    exact handed.of_agenda outer rfl
  case h_2 spent =>
    have created : Evolves { supply with agenda := outer } .back
        (create { supply with agenda := outer } requirement).supply :=
      evolves_create rest requirement
    have wanted : supply.agenda.head?.bind Frame.installs? = some requirement := by
      rw [agenda]
      rfl
    refine ⟨created.next_le, created.known, created.fresh, .install rfl wanted spent rfl ?_⟩
    exact (producer?_putProducer _ _ _).trans (if_pos rfl)

theorem evolves_obtain (filed : supply.Filed) (requirement : Requirement) :
    supply.Evolves move (supply.obtain requirement).supply := by
  unfold Supply.obtain
  split
  case h_1 producer found => exact evolves_handOut filed found
  case h_2 => exact evolves_of_eq rfl rfl rfl

theorem evolves_releaseRegistered (filed : supply.Filed) (requirement : Requirement) :
    supply.Evolves (.call (.releaseRegistered requirement))
      (supply.releaseRegistered requirement).supply := by
  unfold releaseRegistered
  split
  case h_1 => exact evolves_of_eq rfl rfl rfl
  case h_2 producer found =>
    dsimp only
    split
    case isFalse => exact filed.evolves_release _ _
    case isTrue last =>
      obtain ⟨once, finished⟩ := Bool.and_eq_true_iff.mp last
      obtain ⟨id, registered, known⟩ := Option.bind_eq_some_iff.mp found
      cases (filed id producer known).1
      let erased : Supply := { supply with registry := supply.registry.erase requirement }
      have filedErased : erased.Filed := filed
      have released : erased.Evolves (.call (.releaseRegistered requirement))
          (erased.releaseThen producer.id fun remaining => .countIfKnown (some remaining)).supply :=
        filedErased.evolves_release producer.id _
      have ended : (erased.releaseThen producer.id fun remaining =>
          .countIfKnown (some remaining)) =
          .answer (.countIfKnown (some (producer.references - 1)))
            (erased.putProducer { producer with references := producer.references - 1 }) := by
        have there : erased.producer? producer.id = some producer := known
        exact releaseThen_of_held there (of_decide_eq_true once ▸ Nat.one_ne_zero) _
      refine ⟨released.next_le, released.known, released.fresh, ?_⟩
      rw [ended]
      refine .release rfl registered finished ?_ rfl
      refine (producer?_putProducer _ _ _).trans ((if_pos rfl).trans ?_)
      rw [of_decide_eq_true once]

theorem evolves_addReference (filed : supply.Filed) (id : SupplyId) :
    supply.Evolves move (supply.addReference id).supply := by
  unfold addReference
  split
  case h_1 => exact evolves_of_eq rfl rfl rfl
  case h_2 producer found =>
    split
    case isTrue => exact evolves_of_eq rfl rfl rfl
    case isFalse held =>
      have change : producer.Change move { producer with references := producer.references + 1 } :=
        .serve fun spent => absurd spent held
      exact filed.evolves_put found change rfl (Nat.le_refl _) rfl

theorem evolves_results (supply : Supply) (id : SupplyId) :
    supply.Evolves move (supply.results id).supply := by
  unfold results
  split
  case h_1 => exact evolves_of_eq rfl rfl rfl
  case h_2 => split <;> exact evolves_of_eq rfl rfl rfl

/-- What becomes of the producer when a cause of failure is recorded, even when the cause is
refused. -/
theorem producers_recordFailure (found : supply.producer? id = some producer) (cause : Failure) :
    (supply.recordFailure id cause).supply.producers =
      (supply.putProducer (producer.recordFailure cause).1).producers := by
  unfold recordFailure
  rw [found]
  dsimp only
  split
  case h_1 changed recorded => rw [recorded]; rfl
  case h_2 changed mixed recorded => rw [recorded]; rfl

theorem evolves_recordFailure (filed : supply.Filed) (id : SupplyId) (cause : Failure) :
    supply.Evolves (.call (.recordFailure id cause)) (supply.recordFailure id cause).supply := by
  have next : (supply.recordFailure id cause).supply.nextId = supply.nextId := by
    unfold recordFailure
    split
    case h_1 => rfl
    case h_2 => split <;> rfl
  have registry : (supply.recordFailure id cause).supply.registry = supply.registry := by
    unfold recordFailure
    split
    case h_1 => rfl
    case h_2 => split <;> rfl
  cases found : supply.producer? id with
  | none =>
    refine evolves_of_eq ?_ next registry
    unfold recordFailure
    rw [found]
    rfl
  | some producer =>
    have own := (filed id producer found).1
    exact filed.evolves_put found (.record (by rw [own])) (producers_recordFailure found cause)
      (Nat.le_of_eq next.symm) registry

/-! ## Calls about subscriptions -/

theorem evolves_subscribe (filed : supply.Filed) (id : SupplyId) :
    supply.Evolves move (supply.subscribe id).supply := by
  unfold subscribe
  split
  case h_1 => exact evolves_of_eq rfl rfl rfl
  case h_2 producer found =>
    split
    case isTrue => exact evolves_of_eq rfl rfl rfl
    case isFalse held =>
      have gains : ∀ waiting, producer.Change move
          { producer with references := producer.references + 1, waiting } :=
        fun _ => .serve fun spent => absurd spent held
      dsimp only
      split
      case h_1 => exact filed.evolves_put found (gains _) rfl (Nat.le_succ _) rfl
      case h_2 =>
        split
        case isTrue => exact filed.evolves_put found (gains _) rfl (Nat.le_succ _) rfl
        case isFalse => exact filed.evolves_put found (gains _) rfl (Nat.le_succ _) rfl

theorem evolves_ask (filed : supply.Filed) (number : SupplyId) :
    supply.Evolves move (supply.ask number).supply := by
  unfold ask
  split
  case h_1 => exact evolves_of_eq rfl rfl rfl
  case h_2 subscription known =>
    split
    case h_1 => exact evolves_of_eq rfl rfl rfl
    case h_2 producer found =>
      split
      case isFalse => exact evolves_of_eq rfl rfl rfl
      case isTrue =>
        dsimp only
        split
        case isTrue => exact evolves_of_eq rfl rfl rfl
        case isFalse =>
          split
          case h_1 => exact evolves_of_eq rfl rfl rfl
          case h_2 =>
            split
            case h_1 => exact evolves_of_eq rfl rfl rfl
            case h_2 =>
              split
              case isTrue => exact evolves_of_eq rfl rfl rfl
              case isFalse =>
                split
                case isTrue => exact evolves_of_eq rfl rfl rfl
                case isFalse =>
                  have waits : producer.Change move
                      { producer with waiting := producer.waiting.insert number } :=
                    .serve fun spent => spent
                  split <;> exact filed.evolves_put found waits rfl (Nat.le_refl _) rfl

/-- A consumer leaves a producer, which gets a reference back. -/
theorem Filed.evolves_leave (filed : supply.Filed) {subscription : Subscription}
    (found : supply.producer? subscription.producer = some producer)
    (waiting : SortedSet SupplyId) (answer : Nat → Answer) :
    supply.Evolves move (((supply.putSubscription { subscription with closed := true }).putProducer
      { producer with waiting }).releaseThen producer.id answer).supply := by
  have own : producer.id = subscription.producer := (filed _ producer found).1
  have looked : ∀ other, ((supply.putSubscription { subscription with closed := true }).putProducer
      { producer with waiting }).producer? other =
        if producer.id = other then some { producer with waiting } else supply.producer? other :=
    fun other => producer?_putProducer _ _ other
  have here := (looked producer.id).trans (if_pos rfl)
  refine filed.evolves_releaseThen (own ▸ found) here (fun other differs => ?_) (Nat.le_refl _) rfl
    answer
  exact (looked other).trans (if_neg differs.symm)

theorem evolves_cancel (filed : supply.Filed) (number : SupplyId) :
    supply.Evolves move (supply.cancel number).supply := by
  unfold cancel
  split
  case h_1 => exact evolves_of_eq rfl rfl rfl
  case h_2 =>
    split
    case h_1 => exact evolves_of_eq rfl rfl rfl
    case h_2 producer found =>
      split
      case isTrue => exact filed.evolves_leave found _ _
      case isFalse => exact evolves_of_eq rfl rfl rfl

theorem evolves_close (filed : supply.Filed) (number : SupplyId) :
    supply.Evolves move (supply.close number).supply := by
  unfold close
  split
  case h_1 => exact evolves_of_eq rfl rfl rfl
  case h_2 =>
    split
    case h_1 => exact evolves_of_eq rfl rfl rfl
    case h_2 producer found =>
      split
      case isFalse => exact evolves_of_eq rfl rfl rfl
      case isTrue =>
        split
        case isTrue => exact evolves_of_eq rfl rfl rfl
        case isFalse => exact filed.evolves_leave found _ _

/-! ## Candidates and the end -/

theorem alike_deliver (supply : Supply) (id : SupplyId)
    (deliveries : List (SupplyId × Candidate)) :
    supply.Alike (supply.deliver id deliveries).supply := by
  cases deliveries with
  | nil => exact .refl supply
  | cons delivery rest => exact ⟨rfl, rfl, rfl⟩

theorem alike_tellEnd (supply : Supply) (id : SupplyId) (failure : Option Failure)
    (numbers : List SupplyId) : supply.Alike (supply.tellEnd id failure numbers).supply := by
  cases numbers with
  | nil => exact .refl supply
  | cons number rest => exact ⟨rfl, rfl, rfl⟩

/-- Showing candidates to subscriptions changes no producer. -/
theorem alike_foldl_collect (results : List Candidate) (numbers : List SupplyId)
    (state : Supply × List (SupplyId × Candidate)) :
    state.1.Alike (numbers.foldl (collect results) state).1 := by
  induction numbers generalizing state with
  | nil => exact .refl _
  | cons number rest ih =>
    have next : state.1.Alike (collect results state number).1 := by
      unfold collect
      split
      case h_1 => exact .refl _
      case h_2 =>
        dsimp only
        split <;> exact ⟨rfl, rfl, rfl⟩
    exact next.trans (ih _)

/-- Neither does marking them as closed. -/
theorem alike_foldl_markClosed (numbers : List SupplyId) (supply : Supply) :
    supply.Alike (numbers.foldl markClosed supply) := by
  induction numbers generalizing supply with
  | nil => exact .refl supply
  | cons number rest ih =>
    have next : supply.Alike (supply.markClosed number) := by
      unfold markClosed
      split <;> exact ⟨rfl, rfl, rfl⟩
    exact next.trans (ih _)

theorem evolves_push (filed : supply.Filed) (id : SupplyId) (value : Candidate) :
    supply.Evolves (.call (.push id value)) (supply.push id value).supply := by
  unfold push
  split
  case h_1 => exact evolves_of_eq rfl rfl rfl
  case h_2 producer found =>
    split
    case isTrue => exact evolves_of_eq rfl rfl rfl
    case isFalse =>
      split
      case isTrue => exact evolves_of_eq rfl rfl rfl
      case isFalse =>
        split
        case isTrue => exact evolves_of_eq rfl rfl rfl
        case isFalse =>
          have added : supply.Evolves (.call (.push id value))
              (supply.putProducer (producer.add value)) :=
            filed.evolves_put found (.add (by rw [(filed id producer found).1])) rfl
              (Nat.le_refl _) rfl
          refine added.congr ?_
          exact (alike_foldl_collect _ producer.waiting.toList (_, [])).trans (alike_deliver _ _ _)

theorem evolves_finish (filed : supply.Filed) (id : SupplyId) :
    supply.Evolves (.call (.finish id)) (supply.finish id).supply := by
  unfold finish
  split
  case h_1 => exact evolves_of_eq rfl rfl rfl
  case h_2 producer found =>
    split
    case isTrue => exact evolves_of_eq rfl rfl rfl
    case isFalse =>
      have ended : supply.Evolves (.call (.finish id))
          (supply.putProducer { producer with finished := true, waiting := ∅ }) :=
        filed.evolves_put found (.finish (by rw [(filed id producer found).1])) rfl
          (Nat.le_refl _) rfl
      exact ended.congr ((alike_foldl_markClosed _ _).trans (alike_tellEnd _ _ _ _))

/-! ## All steps -/

/-- **Every call changes producers and the registry in one of the ways.** -/
theorem perform_evolves (filed : supply.Filed) (call : Call) :
    supply.Evolves (.call call) (supply.perform call).supply := by
  cases call with
  | create requirement => exact evolves_create filed requirement
  | obtain requirement => exact evolves_obtain filed requirement
  | releaseRegistered requirement => exact evolves_releaseRegistered filed requirement
  | purge =>
    have same := Evolves.refl supply (.call .purge)
    exact ⟨same.next_le, same.known, same.fresh, .purge rfl rfl rfl⟩
  | disown id => exact evolves_of_eq rfl rfl rfl
  | subscribe id => exact evolves_subscribe filed id
  | ask number => exact evolves_ask filed number
  | cancel number => exact evolves_cancel filed number
  | close number => exact evolves_close filed number
  | push id value => exact evolves_push filed id value
  | finish id => exact evolves_finish filed id
  | recordFailure id cause => exact evolves_recordFailure filed id cause
  | addReference id => exact evolves_addReference filed id
  | release id => exact filed.evolves_release id .count
  | results id => exact evolves_results supply id
  | seek id => exact evolves_of_eq rfl rfl rfl

/-- **So does every call that goes on.** -/
theorem resume_evolves (filed : supply.Filed) :
    supply.Evolves .back supply.resume.supply := by
  unfold resume
  split
  case h_1 => exact evolves_of_eq rfl rfl rfl
  case h_2 frame outer agenda =>
    have rest : Filed { supply with agenda := outer } := filed
    cases frame with
    | answering producer answer => exact evolves_of_eq rfl rfl rfl
    | releasing id answer =>
      exact (rest.evolves_release id fun _ => answer).of_agenda outer (registry_releaseThen _ _ _)
    | delivering id deliveries =>
      have alike := alike_deliver { supply with agenda := outer } id deliveries
      exact (alike.evolves .back).of_agenda outer alike.registry_eq
    | failing id failure numbers =>
      have released : supply.Evolves .back
          (Supply.releaseThen { supply with agenda := outer } id fun _ => .done).supply :=
        (rest.evolves_release id fun _ => .done).of_agenda outer (registry_releaseThen _ _ _)
      dsimp only
      split
      case h_1 answer middle ended =>
        rw [ended] at released
        exact released.congr (alike_tellEnd middle id failure numbers)
      case h_2 => exact released
    | installing requirement => exact evolves_install filed agenda

end Supply

/-- **So does every step.** -/
theorem Step.evolves (step : Step) (filed : step.before.Filed) :
    step.before.Evolves step.move step.after := by
  obtain ⟨before, move⟩ := step
  cases move with
  | call call => exact Supply.perform_evolves filed call
  | back => exact Supply.resume_evolves filed

/-- Along a course producers stand under their numbers. -/
theorem Supply.Course.filed {steps : List Step} {supply : Supply}
    (course : Supply.Course {} steps supply) : supply.Filed := by
  induction course with
  | start => exact Supply.filed_empty
  | step earlier move ih => exact (Step.evolves ⟨_, move⟩ ih).filed ih

end ValueEngine
