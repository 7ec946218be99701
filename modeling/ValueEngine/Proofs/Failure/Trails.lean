import Mathlib.Data.List.Basic
import Mathlib.Data.Set.Basic
import ValueEngine.Failure.Merge

/-!
# The trails of a failure

A trail leads from the root of a failure down to something that is recorded in it. It
passes through functions that failed and, at each of them, through one of the
requirements that could not be met, and it ends at an attempt or at such a requirement.
The set of its trails says what a failure records, apart from the order of the attempts
and from how often the same function or requirement is listed.

Merging unites the trails of two failures, and whatever the first one records stays
where it is: functions that failed may get more causes, and all that is new is listed
behind (`Failure.merge_unites`). Up to trails, it does not matter in which order failures
are merged.

The proofs follow the recursion of merging, which is on the failure that is merged in.
-/

set_option autoImplicit false

namespace ValueEngine

/-! ## Trails -/

/-- A way down from the root of a failure. -/
inductive Trail where
  /-- It ends at an attempt without causes. -/
  | note (note : Note)
  /-- It ends at a function that failed. -/
  | failed (application : Application)
  /-- It ends at a requirement that the function lacked. -/
  | lacking (application : Application) (requirement : Requirement)
  /-- It goes on through that requirement. -/
  | through (application : Application) (requirement : Requirement) (rest : Trail)

/-- An attempt is passed by a trail. -/
def Attempt.Shows : Trail → Attempt → Prop
  | .note plain, attempt => attempt = .note plain
  | .failed application, attempt => ∃ causes, attempt = .failedFunction application causes
  | .lacking application requirement, attempt =>
    ∃ causes, attempt = .failedFunction application causes ∧
      ∃ cause ∈ causes, cause.requirement = requirement
  | .through application requirement rest, attempt =>
    ∃ causes, attempt = .failedFunction application causes ∧
      ∃ cause ∈ causes, cause.requirement = requirement ∧
        ∃ deeper ∈ cause.attempts, deeper.Shows rest

/-- The trails of a failure. -/
def Failure.trails (failure : Failure) : Set Trail :=
  {trail | ∃ attempt ∈ failure.attempts, attempt.Shows trail}

/-- The trails through one of the causes of a function that failed. -/
def Failure.trailsBelow (application : Application) (cause : Failure) : Set Trail :=
  {trail | trail = .lacking application cause.requirement ∨
    ∃ rest ∈ cause.trails, trail = .through application cause.requirement rest}

section Shows

variable {trail : Trail} {application : Application} {causes : List Failure}

/-- The trails of a function that failed are itself and those through its causes. -/
theorem Attempt.shows_failedFunction_iff :
    Attempt.Shows trail (.failedFunction application causes) ↔
      trail = .failed application ∨ ∃ cause ∈ causes, trail ∈ cause.trailsBelow application := by
  cases trail with
  | note plain => simp [Shows, Failure.trailsBelow]
  | failed other => simp [Shows, Failure.trailsBelow, eq_comm]
  | lacking other requirement => simp [Shows, Failure.trailsBelow]; grind
  | through other requirement rest => simp [Shows, Failure.trailsBelow, Failure.trails]; grind

end Shows

/-! ## Changing the first of its kind -/

section ChangeFirst

variable {α : Type} {test : α → Bool} {change : α → α} {list : List α}

/-- What is changed is the first element that passes the test; all others stay where they
are. -/
theorem exists_changeFirst (some : list.any test = true) :
    ∃ before first after, list = before ++ first :: after ∧ test first = true ∧
      changeFirst test change list = before ++ change first :: after := by
  induction list with
  | nil => cases some
  | cons head rest ih =>
    by_cases passes : test head = true
    · exact ⟨[], head, rest, rfl, passes, by simp [changeFirst, passes]⟩
    · have later : rest.any test = true := by simpa [passes] using some
      obtain ⟨before, first, after, rfl, passed, changed⟩ := ih later
      exact ⟨head :: before, first, after, rfl, passed, by simp [changeFirst, passes, changed]⟩

/-- What a change leaves alone is the same afterwards. -/
theorem filterMap_changeFirst {β : Type} {read : α → Option β}
    (same : ∀ element, read (change element) = read element) :
    (changeFirst test change list).filterMap read = list.filterMap read := by
  induction list with
  | nil => rfl
  | cons head rest ih =>
    unfold changeFirst
    split
    · simp only [List.filterMap_cons, same]
    · simp only [List.filterMap_cons, ih]

end ChangeFirst

theorem Attempt.eq_of_isFailureOf {application : Application} {attempt : Attempt}
    (failed : attempt.isFailureOf application = true) :
    ∃ causes, attempt = .failedFunction application causes := by
  cases attempt with
  | note note => cases failed
  | failedFunction known causes => exact ⟨causes, by rw [of_decide_eq_true failed]⟩

@[simp] theorem Failure.requirement_absorb (known other : Failure) :
    (known.absorb other).requirement = known.requirement := by
  cases other
  rw [Failure.absorb]
  rfl

theorem Failure.attempts_absorb (known other : Failure) :
    (known.absorb other).attempts = absorbAttempts known.attempts other.attempts := by
  cases other
  rw [Failure.absorb]
  rfl

/-! ## Merging unites trails -/

theorem exists_mem_append {α : Type} {holds : α → Prop} {before after : List α} :
    (∃ element ∈ before ++ after, holds element) ↔
      (∃ element ∈ before, holds element) ∨ ∃ element ∈ after, holds element := by
  simp only [List.mem_append, or_and_right, exists_or]

/-- Absorbing a cause for the same requirement unites the trails through the two. -/
theorem Failure.mem_trailsBelow_absorb {trail : Trail} {application : Application}
    {known cause : Failure} (same : known.requirement = cause.requirement)
    (unites : (known.absorb cause).trails = known.trails ∪ cause.trails) :
    trail ∈ (known.absorb cause).trailsBelow application ↔
      trail ∈ known.trailsBelow application ∨ trail ∈ cause.trailsBelow application := by
  unfold trailsBelow
  simp only [requirement_absorb, unites, same, Set.mem_ofPred_eq, Set.mem_union]
  grind

mutual

/-- **A failure that absorbs another one has the trails of both.** -/
theorem Failure.trails_absorb (known : Failure) :
    ∀ other : Failure, (known.absorb other).trails = known.trails ∪ other.trails
  | .intro requirement attempts => by
    ext trail
    change (∃ attempt ∈ (known.absorb (.intro requirement attempts)).attempts, _) ↔ _
    rw [Failure.attempts_absorb]
    exact exists_shows_absorbAttempts known.attempts attempts
termination_by structural other => other

/-- Recording attempts adds their trails. -/
theorem exists_shows_absorbAttempts {trail : Trail} (known : List Attempt) :
    ∀ attempts : List Attempt,
      (∃ attempt ∈ absorbAttempts known attempts, attempt.Shows trail) ↔
        (∃ attempt ∈ known, attempt.Shows trail) ∨ ∃ attempt ∈ attempts, attempt.Shows trail
  | [] => by simp [absorbAttempts]
  | attempt :: rest => by
    rw [absorbAttempts, exists_shows_absorbAttempts _ rest,
      exists_shows_absorbAttempt known attempt, List.exists_mem_cons_iff, or_assoc]

/-- So does recording a single one. -/
theorem exists_shows_absorbAttempt {trail : Trail} (known : List Attempt) :
    ∀ attempt : Attempt,
      (∃ recorded ∈ absorbAttempt known attempt, recorded.Shows trail) ↔
        (∃ recorded ∈ known, recorded.Shows trail) ∨ attempt.Shows trail
  | .note note => by
    rw [absorbAttempt]
    split
    case isTrue listed =>
      exact ⟨Or.inl, fun either => either.elim id fun shown => ⟨_, listed, shown⟩⟩
    case isFalse => simp
  | .failedFunction application causes => by
    rw [absorbAttempt]
    split
    case isTrue failed =>
      obtain ⟨before, first, after, rfl, found, changed⟩ := exists_changeFirst failed
      obtain ⟨existing, rfl⟩ := Attempt.eq_of_isFailureOf found
      rw [changed]
      simp only [exists_mem_append, List.exists_mem_cons_iff, Attempt.mapCauses,
        Attempt.shows_failedFunction_iff, exists_mem_absorbCauses application existing causes]
      exact iff_of_eq (by ac_rfl)
    case isFalse => simp

/-- Adding causes to a function that failed adds the trails through them. -/
theorem exists_mem_absorbCauses {trail : Trail} (application : Application)
    (known : List Failure) : ∀ causes : List Failure,
      (∃ cause ∈ absorbCauses known causes, trail ∈ cause.trailsBelow application) ↔
        (∃ cause ∈ known, trail ∈ cause.trailsBelow application) ∨
          ∃ cause ∈ causes, trail ∈ cause.trailsBelow application
  | [] => by simp [absorbCauses]
  | cause :: rest => by
    rw [absorbCauses, exists_mem_absorbCauses application _ rest, List.exists_mem_cons_iff,
      ← or_assoc]
    refine or_congr_left ?_
    split
    case isTrue met =>
      obtain ⟨before, first, after, rfl, about, changed⟩ := exists_changeFirst met
      have unites := Failure.trails_absorb first cause
      rw [changed]
      simp only [exists_mem_append, List.exists_mem_cons_iff,
        Failure.mem_trailsBelow_absorb (of_decide_eq_true about) unites]
      exact iff_of_eq (by ac_rfl)
    case isFalse => simp

end

/-! ## Merging keeps what is recorded in its place -/

mutual

/-- All that a failure records stands where it stood; there may be more behind it. -/
def Failure.Grows : Failure → Failure → Prop
  | .intro requirement attempts, after =>
    after.requirement = requirement ∧ AttemptsGrow attempts after.attempts
termination_by structural before => before

/-- Attempts stand where they stood, and may have grown. -/
def AttemptsGrow : List Attempt → List Attempt → Prop
  | [], _ => True
  | _ :: _, [] => False
  | attempt :: rest, grown :: others => attempt.Grows grown ∧ AttemptsGrow rest others

/-- An attempt is the same, except that a function that failed may have more causes. -/
def Attempt.Grows : Attempt → Attempt → Prop
  | .note plain, after => after = .note plain
  | .failedFunction application causes, after =>
    ∃ grown, after = .failedFunction application grown ∧ CausesGrow causes grown

/-- Causes stand where they stood, and may have grown. -/
def CausesGrow : List Failure → List Failure → Prop
  | [], _ => True
  | _ :: _, [] => False
  | cause :: rest, grown :: others => cause.Grows grown ∧ CausesGrow rest others

end

mutual

/-- Growth does not need to add anything. -/
theorem Failure.grows_refl : ∀ failure : Failure, failure.Grows failure
  | .intro _ attempts => ⟨rfl, attemptsGrow_append attempts attempts [] (List.append_nil _).symm⟩
termination_by structural failure => failure

/-- What is added behind attempts leaves them as they are. -/
theorem attemptsGrow_append : ∀ attempts grown added : List Attempt,
    grown = attempts ++ added → AttemptsGrow attempts grown
  | [], _, _, _ => trivial
  | attempt :: rest, _, added, rfl => ⟨attempt.grows_refl, attemptsGrow_append rest _ added rfl⟩

theorem Attempt.grows_refl : ∀ attempt : Attempt, attempt.Grows attempt
  | .note _ => rfl
  | .failedFunction _ causes =>
    ⟨causes, rfl, causesGrow_append causes causes [] (List.append_nil _).symm⟩

/-- What is added behind causes leaves them as they are. -/
theorem causesGrow_append : ∀ causes grown added : List Failure,
    grown = causes ++ added → CausesGrow causes grown
  | [], _, _, _ => trivial
  | cause :: rest, _, added, rfl => ⟨cause.grows_refl, causesGrow_append rest _ added rfl⟩

end

mutual

/-- What has grown twice has grown. -/
theorem Failure.Grows.trans : ∀ before middle after : Failure,
    before.Grows middle → middle.Grows after → before.Grows after
  | .intro _ attempts => by
    rintro ⟨_, more⟩ _ ⟨same, grown⟩ ⟨still, further⟩
    exact ⟨still.trans same, AttemptsGrow.trans attempts _ _ grown further⟩
termination_by structural before => before

theorem AttemptsGrow.trans : ∀ before middle after : List Attempt,
    AttemptsGrow before middle → AttemptsGrow middle after → AttemptsGrow before after
  | [] => fun _ _ _ _ => trivial
  | attempt :: rest => by
    rintro (_ | ⟨grown, others⟩) (_ | ⟨other, more⟩) first second
    · exact first
    · cases first
    · cases second
    · exact ⟨Attempt.Grows.trans attempt _ _ first.1 second.1,
        AttemptsGrow.trans rest _ _ first.2 second.2⟩

theorem Attempt.Grows.trans : ∀ before middle after : Attempt,
    before.Grows middle → middle.Grows after → before.Grows after
  | .note plain => by
    rintro _ _ rfl same
    exact same
  | .failedFunction application causes => by
    rintro _ _ ⟨grown, rfl, first⟩ ⟨more, rfl, second⟩
    exact ⟨more, rfl, CausesGrow.trans causes _ _ first second⟩

theorem CausesGrow.trans : ∀ before middle after : List Failure,
    CausesGrow before middle → CausesGrow middle after → CausesGrow before after
  | [] => fun _ _ _ _ => trivial
  | cause :: rest => by
    rintro (_ | ⟨grown, others⟩) (_ | ⟨other, more⟩) first second
    · exact first
    · cases first
    · cases second
    · exact ⟨Failure.Grows.trans cause _ _ first.1 second.1,
        CausesGrow.trans rest _ _ first.2 second.2⟩

end

/-- Attempts grow when one of them grows. -/
theorem attemptsGrow_middle {attempt grown : Attempt} {after : List Attempt}
    (grows : attempt.Grows grown) : ∀ before : List Attempt,
      AttemptsGrow (before ++ attempt :: after) (before ++ grown :: after)
  | [] => ⟨grows, attemptsGrow_append after after [] (List.append_nil _).symm⟩
  | first :: rest => ⟨first.grows_refl, attemptsGrow_middle grows rest⟩

/-- Causes grow when one of them grows. -/
theorem causesGrow_middle {cause grown : Failure} {after : List Failure}
    (grows : cause.Grows grown) : ∀ before : List Failure,
      CausesGrow (before ++ cause :: after) (before ++ grown :: after)
  | [] => ⟨grows, causesGrow_append after after [] (List.append_nil _).symm⟩
  | first :: rest => ⟨first.grows_refl, causesGrow_middle grows rest⟩

mutual

/-- **A failure that absorbs another one keeps in its place all that it records.** -/
theorem Failure.grows_absorb : ∀ (other known : Failure), known.Grows (known.absorb other)
  | .intro _ attempts, .intro _ known => by
    rw [Failure.absorb]
    exact ⟨rfl, attemptsGrow_absorbAttempts attempts known⟩
termination_by structural other => other

theorem attemptsGrow_absorbAttempts : ∀ attempts known : List Attempt,
    AttemptsGrow known (absorbAttempts known attempts)
  | [], known => by
    rw [absorbAttempts]
    exact attemptsGrow_append known known [] (List.append_nil _).symm
  | attempt :: rest, known => by
    rw [absorbAttempts]
    exact AttemptsGrow.trans _ _ _ (attemptsGrow_absorbAttempt attempt known)
      (attemptsGrow_absorbAttempts rest _)

theorem attemptsGrow_absorbAttempt : ∀ (attempt : Attempt) (known : List Attempt),
    AttemptsGrow known (absorbAttempt known attempt)
  | .note plain, known => by
    rw [absorbAttempt]
    split
    case isTrue => exact attemptsGrow_append known known [] (List.append_nil _).symm
    case isFalse => exact attemptsGrow_append known _ _ rfl
  | .failedFunction application causes, known => by
    rw [absorbAttempt]
    split
    case isTrue failed =>
      obtain ⟨before, first, after, rfl, found, changed⟩ := exists_changeFirst failed
      obtain ⟨existing, rfl⟩ := Attempt.eq_of_isFailureOf found
      rw [changed]
      have grows : Attempt.Grows (.failedFunction application existing)
          (.failedFunction application (absorbCauses existing causes)) :=
        ⟨_, rfl, causesGrow_absorbCauses causes existing⟩
      exact attemptsGrow_middle grows before
    case isFalse => exact attemptsGrow_append known _ _ rfl

theorem causesGrow_absorbCauses : ∀ causes known : List Failure,
    CausesGrow known (absorbCauses known causes)
  | [], known => by
    rw [absorbCauses]
    exact causesGrow_append known known [] (List.append_nil _).symm
  | cause :: rest, known => by
    rw [absorbCauses]
    refine CausesGrow.trans _ _ _ ?_ (causesGrow_absorbCauses rest _)
    split
    case isTrue met =>
      obtain ⟨before, first, after, rfl, _, changed⟩ := exists_changeFirst met
      rw [changed]
      exact causesGrow_middle (Failure.grows_absorb cause first) before
    case isFalse => exact causesGrow_append known _ _ rfl

end

/-! ## Merging -/

namespace Failure

variable {first second third : Failure}

theorem merge_of_same (same : first.requirement = second.requirement) :
    first.merge second = .ok (first.absorb second) :=
  if_pos same

/-- What merging does with failures. -/
structure Unites (first second third : Failure) : Prop where
  /-- Two failures can be merged. The merged one has the trails of both and no others, and all
  that the first one records stands in it where it stood. -/
  merged : ∃ merged, first.merge second = .ok merged ∧
    merged.trails = first.trails ∪ second.trails ∧ first.Grows merged
  /-- Up to trails, it does not matter which of two is merged into the other. -/
  commutes : (first.merge second).map trails = (second.merge first).map trails
  /-- Nor does it matter which two of three are merged first. -/
  associates : ((first.merge second).bind fun merged => merged.merge third).map trails =
    ((second.merge third).bind fun merged => first.merge merged).map trails

/-- **Merging unites failures for one requirement.** -/
theorem merge_unites (same : first.requirement = second.requirement)
    (alike : second.requirement = third.requirement) : Unites first second third := by
  have outer : (first.absorb second).merge third = .ok ((first.absorb second).absorb third) :=
    merge_of_same ((requirement_absorb first second).trans (same.trans alike))
  have inner : first.merge (second.absorb third) = .ok (first.absorb (second.absorb third)) :=
    merge_of_same (same.trans (requirement_absorb second third).symm)
  constructor
  case merged =>
    exact ⟨_, merge_of_same same, trails_absorb first second, grows_absorb second first⟩
  case commutes =>
    rw [merge_of_same same, merge_of_same same.symm]
    simp only [Except.map, trails_absorb, Set.union_comm]
  case associates =>
    rw [merge_of_same same, merge_of_same alike]
    simp only [Except.bind, outer, inner, Except.map, trails_absorb, Set.union_assoc]

/-- A bond could not be priced. -/
def unpriced (attempts : List Attempt) : Failure :=
  intro { name := "price", target := "bond" } attempts

/-- No discounting was possible for want of some values. -/
def undiscounted (causes : List Failure) : Attempt :=
  .failedFunction
    { function := { id := "discount" }, output := { name := "price", target := "bond" } } causes

/-- There was no curve. -/
def uncurved (note : Note) : Failure := ofNote { name := "curve", target := "EUR" } note

/-- Both failures list the same application and the same requirement twice: what the second one
lists joins the first of its kind in the first one. -/
theorem merge_unites_repeated :
    (unpriced [undiscounted [uncurved .noFunctions, uncurved .unsatisfied], undiscounted []]).merge
        (unpriced [undiscounted [], undiscounted [uncurved .couldNotResolve, uncurved .unsatisfied],
          .note .noFunctions]) =
      .ok (unpriced [undiscounted [intro { name := "curve", target := "EUR" }
            [.note .noFunctions, .note .couldNotResolve, .note .unsatisfied],
          uncurved .unsatisfied], undiscounted [], .note .noFunctions]) ∧
    Unites
      (unpriced [undiscounted [uncurved .noFunctions, uncurved .unsatisfied], undiscounted []])
      (unpriced [undiscounted [], undiscounted [uncurved .couldNotResolve, uncurved .unsatisfied],
        .note .noFunctions])
      (unpriced [.note .unsatisfied]) :=
  ⟨by decide +kernel, merge_unites rfl rfl⟩

end Failure

end ValueEngine
