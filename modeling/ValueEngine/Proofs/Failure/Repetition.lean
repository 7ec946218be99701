import ValueEngine.Proofs.Failure.Absorption

/-!
# What is listed twice in a failure

Failures come about from single attempts by merging (`Failure.Arises`). They are normal, and so
are the causes below them, down to any depth: a function that failed in one application is listed
once at a level, and its causes are merged requirement by requirement (`Failure.listed_once`).

An application is more than a function and an output: it has the requirements that were met as
well. So a function that failed twice for the same output is listed twice when more of its
requirements were met at the second time (`Failure.goal_listed_twice`), and only then.
-/

set_option autoImplicit false

namespace ValueEngine

/-! ## Failures that come about -/

/-- The failures that come about: single attempts, the causes of a function being for different
requirements, and whatever comes of merging. -/
inductive Failure.Arises : Failure → Prop where
  | note (requirement : Requirement) (plain : Note) : Arises (.ofNote requirement plain)
  | failedFunction (requirement : Requirement) (application : Application)
      {causes : List Failure} (requirements : (causes.map Failure.requirement).Nodup)
      (below : ∀ cause ∈ causes, Arises cause) :
      Arises (.ofAttempt requirement (.failedFunction application causes))
  | merge {known other merged : Failure} (first : Arises known) (second : Arises other)
      (done : known.merge other = .ok merged) : Arises merged

/-- The levels of a failure: itself, and the causes that are listed at any of its levels. -/
inductive Failure.Nests (failure : Failure) : Failure → Prop where
  | top : Nests failure failure
  | cause {level below : Failure} {application : Application} {causes : List Failure}
      (above : Nests failure level)
      (listed : .failedFunction application causes ∈ level.attempts) (member : below ∈ causes) :
      Nests failure below

/-- The function that was applied and the value it should produce. -/
def Application.goal (application : Application) : FunctionCall × Specification :=
  (application.function, application.output)

/-- The applications in which functions failed, as they are listed at the top of a failure. -/
def Failure.applications (failure : Failure) : List Application :=
  failure.attempts.filterMap Attempt.application?

namespace Failure

/-! ## They are normal -/

/-- A failure with a single attempt is normal if nothing is listed twice below the attempt. -/
theorem normal_ofAttempt (requirement : Requirement) {attempt : Attempt}
    (normal : attempt.Normal) : (ofAttempt requirement attempt).Normal := by
  have below : ∀ listed ∈ [attempt], listed.Normal := List.forall_mem_singleton.mpr normal
  cases attempt with
  | note plain => exact .intro (List.nodup_singleton plain) List.nodup_nil below
  | failedFunction application causes =>
    exact .intro List.nodup_nil (List.nodup_singleton application) below

theorem merge_eq_ok_iff {known other merged : Failure} :
    known.merge other = .ok merged ↔
      known.requirement = other.requirement ∧ known.absorb other = merged := by
  unfold merge
  split <;> simp_all

/-- **Failures that come about are normal.** -/
theorem Arises.normal {failure : Failure} (arises : failure.Arises) : failure.Normal := by
  induction arises with
  | note requirement plain => exact normal_ofAttempt requirement (.note plain)
  | failedFunction requirement application requirements _ ih =>
    exact normal_ofAttempt requirement (.failedFunction requirements ih)
  | merge _ _ done ihKnown ihOther =>
    obtain ⟨_, rfl⟩ := merge_eq_ok_iff.mp done
    exact ihOther.absorb _ _ ihKnown

/-- So are all their levels. -/
theorem Normal.of_nests {failure level : Failure} (normal : failure.Normal)
    (nests : failure.Nests level) : level.Normal := by
  induction nests with
  | top => exact normal
  | cause _ listed member ih =>
    have below := (normal_iff.mp ih).below _ listed
    exact (Attempt.normal_failedFunction_iff.mp below).below _ member

/-! ## Causes are merged requirement by requirement -/

/-- What fails a test stays out of the way of a lookup by another test. -/
theorem find?_changeFirst_of_apart {α : Type} {test other : α → Bool} {change : α → α}
    (same : ∀ element, other (change element) = other element)
    (apart : ∀ element, test element = true → other element = false) (list : List α) :
    (changeFirst test change list).find? other = list.find? other := by
  induction list with
  | nil => rfl
  | cons head rest ih =>
    unfold changeFirst
    split
    case isTrue passes =>
      have unseen := apart head passes
      rw [List.find?_cons, List.find?_cons, same, unseen]
    case isFalse => rw [List.find?_cons, List.find?_cons, ih]

/-- The cause that is known for a requirement after one more was added. -/
theorem find?_absorbCause (requirement : Requirement) (cause : Failure) (known : List Failure) :
    (absorbCauses known [cause]).find? (isAbout requirement) =
      Option.merge absorb (known.find? (isAbout requirement))
        ([cause].find? (isAbout requirement)) := by
  rw [absorbCauses, absorbCauses]
  by_cases about : cause.requirement = requirement
  · subst about
    have self : cause.isAbout cause.requirement = true := decide_eq_true rfl
    rw [List.find?_cons_of_pos self]
    split
    case isTrue met =>
      obtain ⟨existing, found⟩ := exists_find?_of_any met
      have still : (existing.absorb cause).isAbout cause.requirement = true := by
        have listed := List.find?_some found
        unfold isAbout at listed ⊢
        rwa [requirement_absorb]
      rw [find?_changeFirst found still, found]
      rfl
    case isFalse absent =>
      have none : known.find? (isAbout cause.requirement) = none := by
        rw [List.find?_eq_none]
        exact fun existing listed passes => absent (List.any_eq_true.mpr ⟨existing, listed, passes⟩)
      rw [find?_concat absent self, none]
      rfl
  · have other : cause.isAbout requirement = false := decide_eq_false about
    rw [List.find?_cons, other, List.find?_nil, Option.merge_none_right]
    split
    case isTrue =>
      refine find?_changeFirst_of_apart (fun existing => ?_) (fun existing passes => ?_) known
      · unfold isAbout
        rw [requirement_absorb]
      · have same := of_decide_eq_true passes
        exact decide_eq_false fun equal => about (same.symm.trans equal)
    case isFalse => rw [List.find?_append, List.find?_cons, other, List.find?_nil, Option.or_none]

/-- **Adding causes for different requirements merges them requirement by requirement**: what is
known for a requirement afterwards comes of what was known for it and of what was added for it. -/
theorem find?_absorbCauses (requirement : Requirement) {causes : List Failure}
    (nodup : (causes.map Failure.requirement).Nodup) (known : List Failure) :
    (absorbCauses known causes).find? (isAbout requirement) =
      Option.merge absorb (known.find? (isAbout requirement))
        (causes.find? (isAbout requirement)) := by
  induction causes generalizing known with
  | nil => rw [absorbCauses, List.find?_nil, Option.merge_none_right]
  | cons cause rest ih =>
    obtain ⟨fresh, later⟩ := List.nodup_cons.mp nodup
    have split_eq : absorbCauses known (cause :: rest) =
        absorbCauses (absorbCauses known [cause]) rest := by
      simp only [absorbCauses]
    rw [split_eq, ih later, find?_absorbCause]
    by_cases about : cause.requirement = requirement
    · have none : rest.find? (isAbout requirement) = none := by
        rw [List.find?_eq_none]
        intro other listed passes
        refine fresh (List.mem_map.mpr ⟨other, listed, ?_⟩)
        exact (of_decide_eq_true passes).trans about.symm
      have self : cause.isAbout requirement = true := decide_eq_true about
      rw [none, Option.merge_none_right, List.find?_cons_of_pos self, List.find?_cons_of_pos self]
    · have other : cause.isAbout requirement = false := decide_eq_false about
      rw [List.find?_cons, other, List.find?_nil, Option.merge_none_right, List.find?_cons, other]

/-! ## A function that failed again -/

section Again

variable {application : Application} {existing causes : List Failure}

theorem absorbAttempts_append (first second known : List Attempt) :
    absorbAttempts known (first ++ second) = absorbAttempts (absorbAttempts known first) second := by
  induction first generalizing known with
  | nil => rw [List.nil_append, absorbAttempts]
  | cons attempt rest ih => rw [List.cons_append, absorbAttempts, absorbAttempts, ih]

/-- Attempts in other applications do not add to the causes of a function that failed. -/
theorem find?_absorbAttempts_of_apart {attempts : List Attempt}
    (apart : ∀ attempt ∈ attempts, attempt.isFailureOf application = false) {known : List Attempt}
    (found : known.find? (Attempt.isFailureOf application) =
      some (.failedFunction application existing)) :
    (absorbAttempts known attempts).find? (Attempt.isFailureOf application) =
      some (.failedFunction application existing) := by
  induction attempts generalizing known with
  | nil => rwa [absorbAttempts]
  | cons attempt rest ih =>
    obtain ⟨other, others⟩ := List.forall_mem_cons.mp apart
    rw [absorbAttempts]
    refine ih others ?_
    cases attempt with
    | note plain =>
      rw [absorbAttempt]
      split
      case isTrue => exact found
      case isFalse => rw [List.find?_append, found, Option.some_or]
    | failedFunction applied added =>
      rw [absorbAttempt]
      split
      case isTrue =>
        rw [find?_changeFirst_of_apart (fun attempt => ?same) (fun attempt passes => ?apart), found]
        case same => cases attempt <;> rfl
        case apart =>
          obtain ⟨_, rfl⟩ := Attempt.eq_of_isFailureOf passes
          exact other
      case isFalse => rw [List.find?_append, found, Option.some_or]

/-- When a function fails again in the same application its causes join those that are known. -/
theorem find?_absorbAttempts_of_again {known attempts : List Attempt}
    (nodup : (attempts.filterMap Attempt.application?).Nodup)
    (found : known.find? (Attempt.isFailureOf application) =
      some (.failedFunction application existing))
    (again : .failedFunction application causes ∈ attempts) :
    (absorbAttempts known attempts).find? (Attempt.isFailureOf application) =
      some (.failedFunction application (absorbCauses existing causes)) := by
  obtain ⟨before, after, rfl⟩ := List.append_of_mem again
  have only : application ∉ before.filterMap Attempt.application? ∧
      application ∉ after.filterMap Attempt.application? := by
    rw [List.filterMap_append, List.filterMap_cons] at nodup
    have fresh := (List.nodup_cons.mp (List.nodup_middle.mp nodup)).1
    exact not_or.mp fun listed => fresh (List.mem_append.mpr listed)
  have apart : ∀ {others : List Attempt}, application ∉ others.filterMap Attempt.application? →
      ∀ attempt ∈ others, attempt.isFailureOf application = false := by
    intro others absent attempt listed
    refine Bool.eq_false_iff.mpr fun passes => absent ?_
    obtain ⟨_, rfl⟩ := Attempt.eq_of_isFailureOf passes
    exact List.mem_filterMap.mpr ⟨_, listed, rfl⟩
  rw [absorbAttempts_append, absorbAttempts]
  refine find?_absorbAttempts_of_apart (apart only.2) ?_
  have still := find?_absorbAttempts_of_apart (apart only.1) found
  rw [absorbAttempt, if_pos (any_of_find? still)]
  exact find?_changeFirst still (decide_eq_true rfl)

end Again

/-! ## What is listed once -/

/-- What is listed once at a level of a failure. -/
structure ListsOnce (level : Failure) : Prop where
  /-- Where a function is listed more than once for an output, the requirements that were met
  differ. -/
  satisfied_ne : level.applications.Pairwise fun first second =>
    first.goal = second.goal → first.satisfied ≠ second.satisfied
  /-- If those that are listed for a function and an output never differ in the requirements that
  were met, every function is listed once for an output. -/
  goals_nodup : (∀ first ∈ level.applications, ∀ second ∈ level.applications,
    first.goal = second.goal → first.satisfied = second.satisfied) →
      (level.applications.map Application.goal).Nodup
  /-- The causes of a function that failed are for different requirements. -/
  requirements_nodup : ∀ application causes, .failedFunction application causes ∈ level.attempts →
    (causes.map Failure.requirement).Nodup

theorem Normal.listsOnce {level : Failure} (normal : level.Normal) : level.ListsOnce := by
  have attempts := normal_iff.mp normal
  have apart : level.applications.Pairwise fun first second =>
      first.goal = second.goal → first.satisfied ≠ second.satisfied := by
    refine attempts.applications.imp fun {first second} differs alike met => differs ?_
    obtain ⟨function, output⟩ := Prod.mk.inj alike
    cases first
    cases second
    cases function
    cases output
    cases met
    rfl
  refine ⟨apart, fun agree => ?_, fun application causes listed => ?_⟩
  · refine List.pairwise_map.mpr (apart.imp_of_mem fun first second differs alike => ?_)
    exact differs alike (agree _ first _ second alike)
  · exact (Attempt.normal_failedFunction_iff.mp (attempts.below _ listed)).requirements

/-- **A failure lists a function once for an output and the requirements that were met**, at every
level and whatever was merged to make it. When another failure is merged in, the causes of a
function that failed in the same application are merged requirement by requirement. -/
theorem listed_once {failure : Failure} (arises : failure.Arises) :
    (∀ level, failure.Nests level → level.ListsOnce) ∧
    ∀ other, other.Arises → failure.requirement = other.requirement →
      ∃ merged, failure.merge other = .ok merged ∧ merged.Arises ∧
        ∀ application existing causes, .failedFunction application existing ∈ failure.attempts →
          .failedFunction application causes ∈ other.attempts →
            ∃ united, .failedFunction application united ∈ merged.attempts ∧
              ∀ requirement, united.find? (isAbout requirement) =
                Option.merge absorb (existing.find? (isAbout requirement))
                  (causes.find? (isAbout requirement)) := by
  refine ⟨fun level nests => (arises.normal.of_nests nests).listsOnce, fun other more same => ?_⟩
  have merged : failure.merge other = .ok (failure.absorb other) := merge_of_same same
  refine ⟨_, merged, .merge arises more merged, fun application existing causes known again => ?_⟩
  have attempts := normal_iff.mp arises.normal
  have others := normal_iff.mp more.normal
  have found : failure.attempts.find? (Attempt.isFailureOf application) =
      some (.failedFunction application existing) := by
    refine find?_of_unique known (decide_eq_true rfl) fun attempt listed passes => ?_
    obtain ⟨_, rfl⟩ := Attempt.eq_of_isFailureOf passes
    exact eq_of_nodup_filterMap attempts.applications listed known rfl rfl
  have united := find?_absorbAttempts_of_again others.applications found again
  rw [← attempts_absorb] at united
  have below := Attempt.normal_failedFunction_iff.mp (others.below _ again)
  exact ⟨_, List.mem_of_find?_eq_some united,
    fun requirement => find?_absorbCauses requirement below.requirements existing⟩

/-- Discounting failed for want of some values, though a quote was at hand. -/
def undiscountedQuote (causes : List Failure) : Attempt :=
  .failedFunction
    { function := { id := "discount" }
      output := { name := "price", target := "bond" }
      satisfied := SortedMap.ofList
        [({ name := "quote", target := "EUR" }, { name := "quote", target := "EUR" })] } causes

theorem arises_undiscounted (plain : Note) :
    (unpriced [undiscounted [uncurved plain]]).Arises :=
  .failedFunction _ _ (List.nodup_singleton _) (List.forall_mem_singleton.mpr (.note _ _))

theorem arises_undiscountedQuote (plain : Note) :
    (unpriced [undiscountedQuote [uncurved plain]]).Arises :=
  .failedFunction _ _ (List.nodup_singleton _) (List.forall_mem_singleton.mpr (.note _ _))

/-- Discounting failed twice, the second time with a quote at hand. -/
def undiscountedTwice : Failure :=
  unpriced [undiscounted [uncurved .couldNotResolve], undiscountedQuote [uncurved .noFunctions]]

theorem arises_undiscountedTwice : undiscountedTwice.Arises :=
  .merge (arises_undiscounted .couldNotResolve) (arises_undiscountedQuote .noFunctions)
    (by decide +kernel)

/-- When discounting fails a third time without the quote, its causes join those of the first
time. -/
theorem listed_once_undiscounted :
    undiscountedTwice.merge (unpriced [undiscounted [uncurved .unsatisfied]]) =
      .ok (unpriced [undiscounted [intro { name := "curve", target := "EUR" }
          [.note .couldNotResolve, .note .unsatisfied]],
        undiscountedQuote [uncurved .noFunctions]]) ∧
    (∀ level, undiscountedTwice.Nests level → level.ListsOnce) ∧
    ∃ merged, undiscountedTwice.merge (unpriced [undiscounted [uncurved .unsatisfied]]) =
      .ok merged ∧ merged.Arises := by
  obtain ⟨levels, more⟩ := listed_once arises_undiscountedTwice
  obtain ⟨merged, done, arises, _⟩ := more _ (arises_undiscounted .unsatisfied) (by decide +kernel)
  exact ⟨by decide +kernel, levels, merged, done, arises⟩

/-- A function that failed twice for the same output is listed twice when a requirement was met
at the second time only. -/
theorem goal_listed_twice :
    undiscountedTwice.Arises ∧ undiscountedTwice.Nests undiscountedTwice ∧
      ¬(undiscountedTwice.applications.map Application.goal).Nodup :=
  ⟨arises_undiscountedTwice, .top, by decide +kernel⟩

end Failure

end ValueEngine
