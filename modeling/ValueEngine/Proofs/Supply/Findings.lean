import ValueEngine.Proofs.Failure.Trails
import ValueEngine.Proofs.Supply.Evolution

/-!
# What a recorded failure shows of the candidates

When a cause of failure is recorded, the failure is first brought up to date: it shows the
candidates that the producer has found. How many of them it shows already is told by counting
the values in it, whoever recorded them. As long as causes record no values that the producer
has not found, the values in the failure are the first of its candidates, and bringing it up to
date adds the others (`Supply.found_recorded`). A cause that records a value of its own takes
the place of a candidate, which is never shown then (`Supply.found_not_recorded`).
-/

set_option autoImplicit false

namespace ValueEngine

/-! ## The values in a failure -/

/-- The value that an attempt has found. -/
def Attempt.value? : Attempt → Option Candidate
  | .note (.resolvedValue value) => some value
  | _ => none

/-- The values that a failure records, in the order in which they were recorded. -/
def Failure.values (failure : Failure) : List Candidate :=
  failure.attempts.filterMap Attempt.value?

section Values

variable {value : Candidate} {attempt : Attempt} {attempts known : List Attempt}

theorem Attempt.value?_eq_some_iff :
    attempt.value? = some value ↔ attempt = .note (.resolvedValue value) := by
  unfold value?
  split
  case h_1 other => simp only [Option.some.injEq, Attempt.note.injEq, Note.resolvedValue.injEq]
  case h_2 differs =>
    refine iff_of_false nofun ?_
    rintro rfl
    exact differs value rfl

theorem Failure.mem_values {failure : Failure} :
    value ∈ failure.values ↔ .note (.resolvedValue value) ∈ failure.attempts := by
  simp [values, List.mem_filterMap, Attempt.value?_eq_some_iff]

theorem Failure.isResolved_eq (attempt : Attempt) :
    Failure.isResolved attempt = attempt.value?.isSome := by
  unfold Attempt.value?
  split
  case h_1 => rfl
  case h_2 differs =>
    unfold Failure.isResolved
    split
    case h_1 value => exact absurd rfl (differs value)
    case h_2 => rfl

/-- The count of values counts them. -/
theorem Failure.resolvedCount_eq (failure : Failure) :
    failure.resolvedCount = failure.values.length := by
  unfold resolvedCount values
  rw [List.length_filterMap_eq_countP]
  exact congrArg (fun test => failure.attempts.countP test) (funext isResolved_eq)

@[simp] theorem Failure.values_addResolved (failure : Failure) (value : Candidate) :
    (failure.addResolved value).values = failure.values ++ [value] := by
  simp [values, addResolved, attempts, Attempt.value?]

theorem Failure.values_foldl_addResolved (candidates : List Candidate) (failure : Failure) :
    (candidates.foldl addResolved failure).values = failure.values ++ candidates := by
  induction candidates generalizing failure with
  | nil => simp
  | cons candidate rest ih => simp [ih]

/-- The values in a failure stay the first ones when it grows. -/
theorem values_prefix_of_grow (grow : AttemptsGrow attempts known) :
    attempts.filterMap Attempt.value? <+: known.filterMap Attempt.value? := by
  induction attempts generalizing known with
  | nil => exact List.nil_prefix
  | cons attempt rest ih =>
    cases known with
    | nil => cases grow
    | cons grown others =>
      have same : grown.value? = attempt.value? := by
        cases attempt with
        | note plain => exact congrArg Attempt.value? grow.1
        | failedFunction application causes =>
          obtain ⟨more, rfl, _⟩ := grow.1
          rfl
      simp only [List.filterMap_cons, same]
      cases attempt.value? with
      | none => exact ih grow.2
      | some value => exact (List.prefix_cons_inj value).mpr (ih grow.2)

/-- The causes of a function that failed hold no values. -/
theorem Attempt.value?_mapCauses (change : List Failure → List Failure) (attempt : Attempt) :
    (attempt.mapCauses change).value? = attempt.value? := by
  cases attempt <;> rfl

/-- Recording an attempt that shows no new value leaves the values as they are. -/
theorem filterMap_value?_absorbAttempt
    (shown : ∀ value ∈ attempt.value?, value ∈ known.filterMap Attempt.value?) :
    (absorbAttempt known attempt).filterMap Attempt.value? = known.filterMap Attempt.value? := by
  cases attempt with
  | note plain =>
    rw [absorbAttempt]
    split
    case isTrue => rfl
    case isFalse absent =>
      cases found : Attempt.value? (.note plain) with
      | none => simp [found]
      | some value =>
        obtain ⟨attempt, listed, equal⟩ := List.mem_filterMap.mp (shown value found)
        rw [Attempt.value?_eq_some_iff] at found equal
        exact absurd (found ▸ equal ▸ listed) absent
  | failedFunction application causes =>
    rw [absorbAttempt]
    split
    case isTrue => exact filterMap_changeFirst (Attempt.value?_mapCauses _)
    case isFalse => simp [Attempt.value?]

theorem filterMap_value?_absorbAttempts
    (shown : attempts.filterMap Attempt.value? ⊆ known.filterMap Attempt.value?) :
    (absorbAttempts known attempts).filterMap Attempt.value? =
      known.filterMap Attempt.value? := by
  induction attempts generalizing known with
  | nil => rw [absorbAttempts]
  | cons attempt rest ih =>
    have first : (absorbAttempt known attempt).filterMap Attempt.value? =
        known.filterMap Attempt.value? :=
      filterMap_value?_absorbAttempt fun value found =>
        shown (List.mem_filterMap.mpr ⟨attempt, List.mem_cons_self, found⟩)
    rw [absorbAttempts, ih, first]
    rw [first]
    intro value member
    obtain ⟨other, listed, found⟩ := List.mem_filterMap.mp member
    exact shown (List.mem_filterMap.mpr ⟨other, List.mem_cons_of_mem _ listed, found⟩)

end Values

/-! ## Bringing a failure up to date -/

namespace Producer

variable {producer : Producer} {failure cause : Failure}

/-- The values in the failure are the first of the candidates. -/
def UpToNow (producer : Producer) : Prop :=
  ∀ failure, producer.failure = some failure → failure.values <+: producer.results

/-- Replaying the candidates that are missing shows all of them. -/
theorem values_failureWithResults (early : failure.values <+: producer.results) :
    (producer.failureWithResults failure).values = producer.results := by
  unfold failureWithResults
  rw [Failure.values_foldl_addResolved, Failure.resolvedCount_eq]
  exact List.prefix_iff_eq_append.mp early

/-- What becomes of a failure that is brought up to date when a cause is recorded: the cause is
merged into it, unless it is about another requirement. -/
def update (producer : Producer) (failure cause : Failure) : Failure :=
  match (producer.failureWithResults failure).merge cause with
  | .ok merged => merged
  | .error _ => producer.failureWithResults failure

/-- The failure of a producer after a cause has been recorded. -/
def nextFailure (producer : Producer) (cause : Failure) : Failure :=
  match producer.failure, producer.results with
  | some known, _ => producer.update known cause
  | none, first :: _ =>
    producer.update (Failure.ofNote producer.requirement (.resolvedValue first)) cause
  | none, [] => cause

theorem recordFailure_eq (producer : Producer) (cause : Failure) :
    (producer.recordFailure cause).1 =
      { producer with failure := some (producer.nextFailure cause) } := by
  unfold recordFailure nextFailure update
  cases producer.failure with
  | some known =>
    dsimp only
    cases (producer.failureWithResults known).merge cause <;> rfl
  | none =>
    cases producer.results with
    | nil => rfl
    | cons first rest =>
      let start := Failure.ofNote producer.requirement (.resolvedValue first)
      dsimp only
      cases (producer.failureWithResults start).merge cause <;> rfl

/-- An update shows all candidates first, and nothing else unless the cause does. -/
theorem values_update (early : failure.values <+: producer.results) (cause : Failure) :
    producer.results <+: (producer.update failure cause).values ∧
      (cause.values ⊆ producer.results →
        (producer.update failure cause).values = producer.results) := by
  have shown := values_failureWithResults early
  unfold update Failure.merge
  by_cases same : (producer.failureWithResults failure).requirement = cause.requirement
  · rw [if_pos same]
    dsimp only
    constructor
    · have grows := Failure.grows_absorb cause (producer.failureWithResults failure)
      cases recorded : producer.failureWithResults failure with
      | intro requirement attempts =>
        rw [recorded] at grows shown
        rw [← shown]
        exact values_prefix_of_grow grows.2
    · intro known
      unfold Failure.values at shown known ⊢
      rw [Failure.attempts_absorb, filterMap_value?_absorbAttempts (shown.symm ▸ known), shown]
  · rw [if_neg same]
    exact ⟨shown ▸ List.prefix_refl _, fun _ => shown⟩

/-- **What recording a cause does with the values.** If those in the failure were the first of
the candidates, then all candidates come first in the next one. They are all that it shows
unless the cause shows others. -/
theorem UpToNow.values_nextFailure (upToNow : producer.UpToNow) (cause : Failure) :
    producer.results <+: (producer.nextFailure cause).values ∧
      (cause.values ⊆ producer.results →
        (producer.nextFailure cause).values = producer.results) := by
  unfold nextFailure
  split
  case h_1 known recorded => exact values_update (upToNow known recorded) cause
  case h_2 first rest recorded found =>
    refine values_update ?_ cause
    rw [found]
    exact (List.prefix_cons_inj first).mpr List.nil_prefix
  case h_3 recorded found =>
    rw [found]
    exact ⟨List.nil_prefix, List.eq_nil_of_subset_nil⟩

/-- A change keeps the values in the failure the first of the candidates, if a cause that is
recorded shows no others. -/
theorem Change.upToNow {move : Move} {changed : Producer} (change : producer.Change move changed)
    (upToNow : producer.UpToNow)
    (vouched : ∀ cause, move = .call (.recordFailure producer.id cause) →
      cause.values ⊆ producer.results) : changed.UpToNow := by
  cases change with
  | serve => exact upToNow
  | add => exact fun failure recorded =>
      (upToNow failure recorded).trans (List.prefix_append _ _)
  | finish => exact upToNow
  | record told =>
    rw [recordFailure_eq]
    intro failure recorded
    cases recorded
    exact (upToNow.values_nextFailure _).2 (vouched _ told) ▸ List.prefix_refl _

end Producer

/-! ## Courses -/

/-- The cause that a move records for a producer. -/
def Move.cause? (id : SupplyId) : Move → Option Failure
  | .call (.recordFailure other cause) => if other = id then some cause else none
  | _ => none

namespace Supply

/-- The causes recorded for a producer show only candidates that it had found by then. -/
def Vouched (id : SupplyId) (steps : List Step) : Prop :=
  ∀ step ∈ steps, ∀ cause ∈ step.move.cause? id, ∀ producer ∈ step.before.producer? id,
    cause.values ⊆ producer.results

variable {steps : List Step} {supply : Supply} {id : SupplyId} {producer : Producer}

/-- Along a course with such causes, the values in the failure stay the first candidates. -/
theorem Course.upToNow (course : Course {} steps supply) (vouched : Vouched id steps)
    (found : supply.producer? id = some producer) : producer.UpToNow := by
  induction course generalizing producer with
  | start => cases found
  | @step steps before earlier move ih =>
    obtain ⟨vouchedBefore, vouchedNow⟩ := List.forall_mem_append.mp vouched
    have evolves := Step.evolves ⟨before, move⟩ earlier.filed
    cases known : before.producer? id with
    | none =>
      obtain ⟨_, _, requirement, rfl⟩ := evolves.fresh id producer found known
      exact nofun
    | some was =>
      obtain ⟨changed, present, change⟩ := evolves.known id was known
      cases found.symm.trans present
      refine change.upToNow (ih vouchedBefore known) fun cause told => ?_
      refine vouchedNow ⟨before, move⟩ List.mem_cons_self cause ?_ was known
      rw [told, (earlier.filed id was known).1]
      exact if_pos rfl

/-- **Every candidate found is recorded.** Right after a cause of failure has been recorded, the
failure shows every candidate that the producer has found, provided that the causes recorded
before showed only candidates that it had found by then. -/
theorem found_recorded (course : Course {} steps supply) (vouched : Vouched id steps)
    (found : supply.producer? id = some producer) (cause : Failure) :
    ∃ changed failure, (supply.recordFailure id cause).supply.producer? id = some changed ∧
      changed.results = producer.results ∧ changed.failure = some failure ∧
        ∀ value ∈ producer.results, .note (.resolvedValue value) ∈ failure.attempts := by
  have own := (course.filed id producer found).1
  have upToNow := course.upToNow vouched found
  refine ⟨{ producer with failure := some (producer.nextFailure cause) },
    producer.nextFailure cause, ?_, rfl, rfl, fun value member => ?_⟩
  · rw [producer?, producers_recordFailure found cause, Producer.recordFailure_eq]
    exact (producer?_putProducer _ _ _).trans (if_pos own)
  · exact Failure.mem_values.mp ((upToNow.values_nextFailure cause).1.subset member)

/-- A first cause has found a quote of its own; then a quote is found. -/
def crediting : List Move :=
  [.call (.create price),
    .call (.recordFailure 0 (Failure.ofNote price (.resolvedValue (quote "futures")))),
    .call (.push 0 (quote "spot"))]

/-- When another cause is recorded then, the quote that was found is not: the failure shows one
value already. -/
theorem found_not_recorded :
    ∃ (steps : List Step) (supply : Supply) (producer changed : Producer) (failure : Failure),
      Course {} steps supply ∧ Calm steps ∧
      (∀ step ∈ steps, ∀ cause ∈ step.move.cause? 0, cause.requirement = price) ∧
      supply.producer? 0 = some producer ∧ producer.requirement = price ∧
      supply.recordFailure 0 (Failure.ofNote price .noFunctions) =
        .answer .done (supply.putProducer changed) ∧
      changed.results = [quote "spot"] ∧ changed.failure = some failure ∧
        .note (.resolvedValue (quote "spot")) ∉ failure.attempts := by
  let supply := endOf {} crediting
  let credited := Failure.ofNote price (.resolvedValue (quote "futures"))
  let producer : Producer :=
    { id := 0, requirement := price, results := [quote "spot"], failure := some credited }
  let failure : Failure :=
    .intro price [.note (.resolvedValue (quote "futures")), .note .noFunctions]
  refine ⟨stepsOf {} crediting, supply, producer, { producer with failure := some failure },
    failure, course_stepsOf {} crediting, ?calm, ?alike, ?found, rfl, ?recorded, rfl, rfl, ?absent⟩
  case calm =>
    unfold Calm
    decide +kernel
  case alike => decide +kernel
  case found => decide +kernel
  case recorded => decide +kernel
  case absent => decide +kernel

/-- Quotes are found before and after a cause that shows one of them is recorded. -/
def quoting : List Move :=
  [.call (.create price), .call (.push 0 (quote "spot")),
    .call (.recordFailure 0 (Failure.ofNote price (.resolvedValue (quote "spot")))),
    .call (.push 0 (quote "futures"))]

theorem found_recorded_quoting :
    ∃ (steps : List Step) (supply : Supply) (producer changed : Producer) (failure : Failure),
      Course {} steps supply ∧ Vouched 0 steps ∧ supply.producer? 0 = some producer ∧
      producer.results = [quote "spot", quote "futures"] ∧
      (supply.recordFailure 0 (Failure.ofNote price .noFunctions)).supply.producer? 0 =
        some changed ∧ changed.results = producer.results ∧ changed.failure = some failure ∧
          ∀ value ∈ producer.results, .note (.resolvedValue value) ∈ failure.attempts := by
  let producer : Producer :=
    { id := 0, requirement := price, results := [quote "spot", quote "futures"],
      failure := some (Failure.ofNote price (.resolvedValue (quote "spot"))) }
  have course := course_stepsOf {} quoting
  have vouched : Vouched 0 (stepsOf {} quoting) := by
    unfold Vouched
    decide +kernel
  have found : (endOf {} quoting).producer? 0 = some producer := by decide +kernel
  obtain ⟨changed, failure, recorded⟩ :=
    found_recorded course vouched found (Failure.ofNote price .noFunctions)
  exact ⟨_, _, producer, changed, failure, course, vouched, found, rfl, recorded⟩

end Supply

end ValueEngine
