import ValueEngine.Proofs.Supply.Findings
import ValueEngine.Proofs.Supply.Registry

/-!
# What a recorded failure is about

A cause of failure is merged into what its producer has recorded so far: earlier causes, and
the candidates that have been found (`Producer.recorded?`). Merging needs two failures for one
requirement, so that a cause for another requirement is refused. It leaves nothing of itself
then; the failure has only been brought up to date.

The first cause of a producer that has found no candidate is not merged with anything, and is
kept whatever it is about. If it is about another requirement then so is the failure of the
producer from then on, and causes for its own requirement are refused
(`Supply.own_cause_refused`). As long as every such first cause is about the requirement of its
producer, so is the failure, and all later causes are checked (`Supply.causes_checked`).
-/

set_option autoImplicit false

namespace ValueEngine

namespace Producer

variable {producer : Producer} {start cause : Failure}

/-- What a producer has recorded so far, or the first candidate when it has recorded nothing. -/
def recorded? (producer : Producer) : Option Failure :=
  match producer.failure, producer.results with
  | some known, _ => some known
  | none, first :: _ => some (Failure.ofNote producer.requirement (.resolvedValue first))
  | none, [] => none

/-- What has been recorded is about the requirement of the producer. -/
def Relevant (producer : Producer) : Prop :=
  ∀ failure, producer.failure = some failure → failure.requirement = producer.requirement

/-- What there is so far is about the requirement, too. -/
theorem Relevant.requirement_eq (relevant : producer.Relevant)
    (recorded : producer.recorded? = some start) : start.requirement = producer.requirement := by
  unfold recorded? at recorded
  split at recorded
  case h_1 known failed =>
    cases recorded
    exact relevant start failed
  case h_2 first rest failed found =>
    cases recorded
    rfl
  case h_3 => cases recorded

@[simp] theorem requirement_failureWithResults (producer : Producer) (failure : Failure) :
    (producer.failureWithResults failure).requirement = failure.requirement := by
  unfold failureWithResults
  induction producer.results.drop failure.resolvedCount generalizing failure with
  | nil => rfl
  | cons candidate rest ih => exact ih (failure.addResolved candidate)

/-- A failure that shows as many values as there are candidates is up to date. -/
theorem failureWithResults_eq_self (shown : producer.results.length ≤ start.resolvedCount) :
    producer.failureWithResults start = start := by
  unfold failureWithResults
  rw [List.drop_eq_nil_of_le shown]
  rfl

/-- A cause is merged into what there is, which has been brought up to date. One that comes first
is kept as it is. -/
theorem recordFailure_def (producer : Producer) (cause : Failure) :
    producer.recordFailure cause =
      match producer.recorded? with
      | none => ({ producer with failure := some cause }, none)
      | some start =>
        match (producer.failureWithResults start).merge cause with
        | .ok merged => ({ producer with failure := some merged }, none)
        | .error mixed =>
          ({ producer with failure := some (producer.failureWithResults start) }, some mixed) :=
  rfl

theorem recordFailure_of_none (nothing : producer.recorded? = none) (cause : Failure) :
    producer.recordFailure cause = ({ producer with failure := some cause }, none) := by
  rw [recordFailure_def, nothing]

/-- It is accepted if it is about the same requirement. -/
theorem recordFailure_of_same (recorded : producer.recorded? = some start)
    (same : start.requirement = cause.requirement) :
    producer.recordFailure cause =
      ({ producer with failure := some ((producer.failureWithResults start).absorb cause) },
        none) := by
  have alike : (producer.failureWithResults start).requirement = cause.requirement :=
    (requirement_failureWithResults producer start).trans same
  rw [recordFailure_def, recorded]
  dsimp only
  rw [Failure.merge_of_same alike]

/-- Otherwise it is refused, as merging refuses it, and leaves nothing of itself. -/
theorem recordFailure_of_other (recorded : producer.recorded? = some start)
    (other : start.requirement ≠ cause.requirement) :
    producer.recordFailure cause =
      ({ producer with failure := some (producer.failureWithResults start) },
        some ⟨start.requirement, cause.requirement⟩) := by
  rw [recordFailure_def, recorded]
  dsimp only
  rw [Failure.merge, requirement_failureWithResults, if_neg other]

/-- A change keeps what is recorded about the requirement, if a cause that comes first is. -/
theorem Change.relevant {move : Move} {changed : Producer}
    (change : producer.Change move changed) (relevant : producer.Relevant)
    (first : ∀ cause, move = .call (.recordFailure producer.id cause) →
      producer.recorded? = none → cause.requirement = producer.requirement) :
    changed.Relevant := by
  cases change with
  | serve => exact relevant
  | add => exact relevant
  | finish => exact relevant
  | @record cause told =>
    cases recorded : producer.recorded? with
    | none =>
      rw [recordFailure_of_none recorded]
      rintro failure ⟨⟩
      exact first _ told recorded
    | some start =>
      have about := relevant.requirement_eq recorded
      by_cases same : start.requirement = cause.requirement
      · rw [recordFailure_of_same recorded same]
        rintro failure ⟨⟩
        rw [Failure.requirement_absorb, requirement_failureWithResults]
        exact about
      · rw [recordFailure_of_other recorded same]
        rintro failure ⟨⟩
        rw [requirement_failureWithResults]
        exact about

end Producer

/-! ## Usage -/

namespace Supply

/-- A cause that is recorded for a producer before anything else, candidates included, is about
its requirement. -/
def WellBegun (id : SupplyId) (steps : List Step) : Prop :=
  ∀ step ∈ steps, ∀ cause ∈ step.move.cause? id, ∀ producer ∈ step.before.producer? id,
    producer.recorded? = none → cause.requirement = producer.requirement

variable {steps : List Step} {supply : Supply} {id : SupplyId} {producer : Producer}

/-- As long as such first causes are recorded, what is recorded stays about the requirement. -/
theorem Usage.relevant (usage : Usage steps supply) (begun : WellBegun id steps)
    (found : supply.producer? id = some producer) : producer.Relevant := by
  induction usage generalizing producer with
  | start => cases found
  | fetch earlier requirement ih =>
    exact ih begun ((alike_fetch _ requirement).producer?_eq id ▸ found)
  | @step steps before earlier move ih =>
    obtain ⟨begunBefore, begunNow⟩ := List.forall_mem_append.mp begun
    have filed : before.Filed := earlier.watched.filed
    have evolves := Step.evolves ⟨before, move⟩ filed
    cases known : before.producer? id with
    | none =>
      obtain ⟨_, _, requirement, rfl⟩ := evolves.fresh id producer found known
      exact nofun
    | some was =>
      obtain ⟨changed, present, change⟩ := evolves.known id was known
      cases found.symm.trans present
      refine change.relevant (ih begunBefore known) fun cause told => ?_
      refine begunNow ⟨before, move⟩ List.mem_cons_self cause ?_ was known
      rw [told, (filed id was known).1]
      exact if_pos rfl

/-- What a supply does with causes of failure for a producer. -/
structure ChecksCauses (supply : Supply) (id : SupplyId) (producer : Producer) : Prop where
  /-- What has been recorded is about the requirement of the producer. -/
  relevant : producer.Relevant
  /-- A cause for that requirement is never refused. -/
  accepted : ∀ cause, cause.requirement = producer.requirement →
    ∃ failure, failure.requirement = producer.requirement ∧ supply.recordFailure id cause =
      .answer .done (supply.putProducer { producer with failure := some failure })
  /-- Any other cause is refused in the way in which merging refuses it, unless it comes first.
  It leaves nothing of itself: what has been recorded is only brought up to date. -/
  refused : ∀ cause, cause.requirement ≠ producer.requirement →
    ∀ start, producer.recorded? = some start →
      ∃ mixed, start.merge cause = .error mixed ∧ supply.recordFailure id cause =
        (supply.putProducer { producer with
          failure := some (producer.failureWithResults start) }).breaks (.mixedFailures mixed)
  /-- If all candidates have been recorded already nothing changes at all. -/
  unchanged : ∀ cause, cause.requirement ≠ producer.requirement →
    ∀ known, producer.failure = some known → producer.results.length ≤ known.resolvedCount →
      (supply.recordFailure id cause).supply = { supply with agenda := [] }
  /-- A cause that comes first is not checked. -/
  unchecked : producer.recorded? = none → ∀ cause, supply.recordFailure id cause =
    .answer .done (supply.putProducer { producer with failure := some cause })

/-- **Causes of failure are checked**, provided that those which come first are about the
requirement of the producer. -/
theorem causes_checked (usage : Usage steps supply) (begun : WellBegun id steps)
    (found : supply.producer? id = some producer) : ChecksCauses supply id producer := by
  have relevant := usage.relevant begun found
  have accepts : ∀ {cause changed}, producer.recordFailure cause = (changed, none) →
      supply.recordFailure id cause = .answer .done (supply.putProducer changed) := by
    intro cause changed accepted
    simp only [recordFailure, found, accepted]
  have refuses : ∀ {cause changed mixed}, producer.recordFailure cause = (changed, some mixed) →
      supply.recordFailure id cause =
        (supply.putProducer changed).breaks (.mixedFailures mixed) := by
    intro cause changed mixed broken
    simp only [recordFailure, found, broken]
  have unchecked : producer.recorded? = none → ∀ cause, supply.recordFailure id cause =
      .answer .done (supply.putProducer { producer with failure := some cause }) :=
    fun nothing cause => accepts (Producer.recordFailure_of_none nothing cause)
  have refused : ∀ cause, cause.requirement ≠ producer.requirement →
      ∀ start, producer.recorded? = some start →
        ∃ mixed, start.merge cause = .error mixed ∧ supply.recordFailure id cause =
          (supply.putProducer { producer with
            failure := some (producer.failureWithResults start) }).breaks
              (.mixedFailures mixed) := by
    intro cause other start recorded
    have differs : start.requirement ≠ cause.requirement :=
      fun same => other (same.symm.trans (relevant.requirement_eq recorded))
    exact ⟨_, if_neg differs, refuses (Producer.recordFailure_of_other recorded differs)⟩
  refine ⟨relevant, fun cause same => ?_, refused, fun cause other known failed shown => ?_,
    unchecked⟩
  · cases recorded : producer.recorded? with
    | none => exact ⟨cause, same, unchecked recorded cause⟩
    | some start =>
      have about := relevant.requirement_eq recorded
      refine ⟨(producer.failureWithResults start).absorb cause, ?_, ?_⟩
      · rw [Failure.requirement_absorb, Producer.requirement_failureWithResults, about]
      · exact accepts (Producer.recordFailure_of_same recorded (about.trans same.symm))
  · have recorded : producer.recorded? = some known := by
      unfold Producer.recorded?
      rw [failed]
    obtain ⟨mixed, _, broken⟩ := refused cause other known recorded
    have here : supply.producer? producer.id = some producer :=
      (usage.watched.filed id producer found).1.symm ▸ found
    rw [broken, Producer.failureWithResults_eq_self shown, ← failed, putProducer_eq_self here]
    rfl

/-- A cause that is not about a price. -/
def curveless : Failure := Failure.uncurved .noFunctions

/-- One producer of prices is told first that there is no curve. Another one has found a quote
before it is told so. -/
def misleading : List Move :=
  [.call (.create price), .call (.recordFailure 0 curveless), .call (.create price),
    .call (.push 1 (quote "spot"))]

/-- The failure of the first one is about the curve from then on, and a cause for the price is
refused. The other one refuses to be told about a curve, but has a failure then which it did not
have before. -/
theorem own_cause_refused :
    ∃ (steps : List Step) (supply after : Supply) (first second changed : Producer)
        (mixed another : Failure.MixedRequirements) (failure : Failure),
      Course {} steps supply ∧ Calm steps ∧
      supply.producer? 0 = some first ∧ first.requirement = price ∧
      first.failure = some curveless ∧ curveless.requirement ≠ price ∧
      supply.perform (.recordFailure 0 (Failure.ofNote price .noFunctions)) =
        .violation (.mixedFailures mixed) supply ∧
      supply.producer? 1 = some second ∧ second.requirement = price ∧ second.failure = none ∧
      supply.perform (.recordFailure 1 curveless) = .violation (.mixedFailures another) after ∧
      after.producer? 1 = some changed ∧ changed.failure = some failure := by
  let supply := endOf {} misleading
  let found := Failure.ofNote price (.resolvedValue (quote "spot"))
  let first : Producer := { id := 0, requirement := price, failure := some curveless }
  let second : Producer := { id := 1, requirement := price, results := [quote "spot"] }
  let changed : Producer := { second with failure := some found }
  refine ⟨stepsOf {} misleading, supply, supply.putProducer changed, first, second, changed,
    ⟨curveless.requirement, price⟩, ⟨price, curveless.requirement⟩, found,
    course_stepsOf {} misleading, ?calm, ?known, rfl, rfl, ?differs, ?refused, ?other, rfl, rfl,
    ?broken, ?after, rfl⟩
  case calm =>
    unfold Calm
    decide +kernel
  case known => decide +kernel
  case differs => decide +kernel
  case refused => decide +kernel
  case other => decide +kernel
  case broken => decide +kernel
  case after => decide +kernel

/-- A producer of prices is told that no function produces one, and then finds a quote. -/
def informing : List Move :=
  [.call (.create price), .call (.recordFailure 0 (Failure.ofNote price .noFunctions)),
    .call (.push 0 (quote "spot"))]

/-- It refuses to be told about a curve; its failure shows the quote then. -/
theorem causes_checked_informing :
    ∃ (steps : List Step) (supply : Supply) (producer : Producer),
      Usage steps supply ∧ WellBegun 0 steps ∧ supply.producer? 0 = some producer ∧
      supply.recordFailure 0 curveless =
        (supply.putProducer { producer with failure := some (Failure.intro price
          [.note .noFunctions, .note (.resolvedValue (quote "spot"))]) }).breaks
            (.mixedFailures ⟨price, curveless.requirement⟩) ∧
      ChecksCauses supply 0 producer := by
  let producer : Producer :=
    { id := 0, requirement := price, results := [quote "spot"],
      failure := some (Failure.ofNote price .noFunctions) }
  have usage := (course_stepsOf {} informing).usage
  have begun : WellBegun 0 (stepsOf {} informing) := by
    unfold WellBegun
    decide +kernel
  have found : (endOf {} informing).producer? 0 = some producer := by decide +kernel
  exact ⟨_, _, producer, usage, begun, found, by decide +kernel,
    causes_checked usage begun found⟩

end Supply

end ValueEngine
