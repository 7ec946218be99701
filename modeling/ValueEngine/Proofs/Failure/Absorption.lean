import Mathlib.Data.List.Nodup
import Mathlib.Data.List.Pairwise
import ValueEngine.Proofs.Failure.Trails

/-!
# Merging a failure again

A failure is normal when nothing is listed twice in it: at no level the same note, a
function that failed in the same application, or causes for the same requirement
(`Failure.Normal`). Merging keeps failures normal.

Merging looks up everything that it is to record, and takes the first place that fits. A
failure covers another one when each of these lookups, at every level, comes to a place
where there is nothing left to record (`Failure.Covers`); merging the other failure then
changes nothing. A normal failure is covered by every failure into which it has been merged.
It stays covered when more is merged, since what is recorded keeps its place and what is new
stands behind, so that every lookup still comes to the same place (`Failure.Covers.grow`).
So merging a normal failure again never changes anything, whatever the failure looks like
into which it is merged (`Failure.merge_again`).
-/

set_option autoImplicit false

namespace ValueEngine

/-! ## Normal failures -/

/-- What an attempt without causes notes. -/
def Attempt.note? : Attempt → Option Note
  | note plain => some plain
  | failedFunction _ _ => none

/-- The application in which a function failed. -/
def Attempt.application? : Attempt → Option Application
  | note _ => none
  | failedFunction application _ => some application

mutual

/-- Nothing is listed twice, at no level. -/
inductive Failure.Normal : Failure → Prop where
  /-- No note and no application is listed twice, and the attempts are normal. -/
  | intro {requirement : Requirement} {attempts : List Attempt}
      (notes : (attempts.filterMap Attempt.note?).Nodup)
      (applications : (attempts.filterMap Attempt.application?).Nodup)
      (below : ∀ attempt ∈ attempts, Attempt.Normal attempt) :
      Failure.Normal (.intro requirement attempts)

/-- Nothing is listed twice below an attempt. -/
inductive Attempt.Normal : Attempt → Prop where
  | note (plain : Note) : Attempt.Normal (.note plain)
  /-- No two causes are for the same requirement, and the causes are normal. -/
  | failedFunction {application : Application} {causes : List Failure}
      (requirements : (causes.map Failure.requirement).Nodup)
      (below : ∀ cause ∈ causes, Failure.Normal cause) :
      Attempt.Normal (.failedFunction application causes)

end

/-- The attempts of a normal failure. -/
structure NormalAttempts (attempts : List Attempt) : Prop where
  notes : (attempts.filterMap Attempt.note?).Nodup
  applications : (attempts.filterMap Attempt.application?).Nodup
  below : ∀ attempt ∈ attempts, attempt.Normal

/-- The causes of a normal attempt. -/
structure NormalCauses (causes : List Failure) : Prop where
  requirements : (causes.map Failure.requirement).Nodup
  below : ∀ cause ∈ causes, cause.Normal

theorem Failure.normal_iff {failure : Failure} :
    failure.Normal ↔ NormalAttempts failure.attempts := by
  constructor
  · rintro ⟨notes, applications, below⟩
    exact ⟨notes, applications, below⟩
  · cases failure
    rintro ⟨notes, applications, below⟩
    exact .intro notes applications below

theorem Attempt.normal_failedFunction_iff {application : Application} {causes : List Failure} :
    Attempt.Normal (.failedFunction application causes) ↔ NormalCauses causes := by
  constructor
  · intro normal
    cases normal with
    | failedFunction requirements below => exact ⟨requirements, below⟩
  · rintro ⟨requirements, below⟩
    exact .failedFunction requirements below

/-! ## Lookups and changes -/

section Lookups

variable {α β : Type} {test : α → Bool} {change : α → α} {list : List α} {first : α}

/-- What a change leaves alone can be read off before it. -/
theorem map_changeFirst {read : α → β} (same : ∀ element, read (change element) = read element) :
    (changeFirst test change list).map read = list.map read := by
  rw [← List.filterMap_eq_map]
  exact filterMap_changeFirst fun element => congrArg some (same element)

theorem forall_mem_changeFirst {holds : α → Prop} (all : ∀ element ∈ list, holds element)
    (changed : ∀ element ∈ list, test element = true → holds element → holds (change element)) :
    ∀ element ∈ changeFirst test change list, holds element := by
  induction list with
  | nil => exact all
  | cons head rest ih =>
    obtain ⟨now, later⟩ := List.forall_mem_cons.mp all
    unfold changeFirst
    split
    case isTrue passes =>
      exact List.forall_mem_cons.mpr ⟨changed head List.mem_cons_self passes now, later⟩
    case isFalse =>
      refine List.forall_mem_cons.mpr ⟨now, ih later fun element member => ?_⟩
      exact changed element (List.mem_cons_of_mem _ member)

/-- The first element that passes a test is still found when it has changed. -/
theorem find?_changeFirst (found : list.find? test = some first)
    (still : test (change first) = true) :
    (changeFirst test change list).find? test = some (change first) := by
  induction list with
  | nil => cases found
  | cons head rest ih =>
    rw [List.find?_cons] at found
    unfold changeFirst
    cases passes : test head with
    | true =>
      rw [passes] at found
      cases found
      rw [if_pos rfl, List.find?_cons_of_pos still]
    | false =>
      rw [passes] at found
      rw [if_neg Bool.false_ne_true, List.find?_cons_of_neg (Bool.eq_false_iff.mp passes)]
      exact ih found

/-- Nothing changes when the first element that passes the test stays as it is. -/
theorem changeFirst_eq_self (found : list.find? test = some first) (same : change first = first) :
    changeFirst test change list = list := by
  induction list with
  | nil => cases found
  | cons head rest ih =>
    rw [List.find?_cons] at found
    unfold changeFirst
    cases passes : test head with
    | true =>
      rw [passes] at found
      cases found
      rw [if_pos rfl, same]
    | false =>
      rw [passes] at found
      rw [if_neg Bool.false_ne_true, ih found]

theorem any_of_find? (found : list.find? test = some first) : list.any test = true :=
  List.any_eq_true.mpr ⟨first, List.mem_of_find?_eq_some found, List.find?_some found⟩

theorem exists_find?_of_any (some : list.any test = true) :
    ∃ first, list.find? test = .some first := by
  obtain ⟨element, member, passes⟩ := List.any_eq_true.mp some
  exact Option.isSome_iff_exists.mp (List.find?_isSome.mpr ⟨element, member, passes⟩)

/-- An element that is new and passes the test is found at the end. -/
theorem find?_concat (none : list.any test ≠ true) (passes : test first = true) :
    (list ++ [first]).find? test = some first := by
  have absent : list.find? test = .none := by
    refine List.find?_eq_none.mpr fun element member passes => none ?_
    exact List.any_eq_true.mpr ⟨element, member, passes⟩
  rw [List.find?_append, absent, Option.none_or, List.find?_cons_of_pos passes]

/-- The only element that passes a test is found. -/
theorem find?_of_unique (member : first ∈ list) (passes : test first = true)
    (unique : ∀ element ∈ list, test element = true → element = first) :
    list.find? test = some first := by
  obtain ⟨element, found⟩ := exists_find?_of_any (List.any_eq_true.mpr ⟨first, member, passes⟩)
  rw [found, unique element (List.mem_of_find?_eq_some found) (List.find?_some found)]

/-- Elements with the same entry are the same, if no entry is listed twice. -/
theorem eq_of_nodup_filterMap {read : α → Option β} (nodup : (list.filterMap read).Nodup)
    {left right : α} (left_mem : left ∈ list) (right_mem : right ∈ list) {entry : β}
    (left_eq : read left = some entry) (right_eq : read right = some entry) : left = right := by
  by_contra different
  have apart := List.pairwise_filterMap.mp nodup
  have symmetric : Std.Symm fun one other : α =>
      ∀ entry, read one = some entry → ∀ another, read other = some another → entry ≠ another :=
    ⟨fun _ _ holds entry known another same equal => holds another same entry known equal.symm⟩
  exact apart.forall left_mem right_mem different entry left_eq entry right_eq rfl

end Lookups

/-! ## Merging keeps failures normal -/

section Recording

variable {known : List Attempt} {plain : Note} {application : Application}

theorem note?_eq_some_iff {attempt : Attempt} :
    attempt.note? = some plain ↔ attempt = .note plain := by
  cases attempt <;> simp [Attempt.note?]

/-- A new note keeps attempts normal. -/
theorem NormalAttempts.concat_note (normal : NormalAttempts known)
    (absent : .note plain ∉ known) : NormalAttempts (known ++ [.note plain]) where
  notes := by
    refine List.filterMap_append ▸ List.nodup_append.mpr ⟨normal.notes, List.nodup_singleton _, ?_⟩
    rintro noted member _ found rfl
    obtain ⟨attempt, listed, noted_eq⟩ := List.mem_filterMap.mp member
    cases List.mem_singleton.mp found
    exact absent (note?_eq_some_iff.mp noted_eq ▸ listed)
  applications := by simpa [List.filterMap_cons, Attempt.application?] using normal.applications
  below := List.forall_mem_append.mpr
    ⟨normal.below, List.forall_mem_singleton.mpr (.note plain)⟩

/-- So does a function that failed in a new application. -/
theorem NormalAttempts.concat_failedFunction (normal : NormalAttempts known)
    (absent : known.any (Attempt.isFailureOf application) ≠ true) {causes : List Failure}
    (below : Attempt.Normal (.failedFunction application causes)) :
    NormalAttempts (known ++ [.failedFunction application causes]) where
  notes := by simpa [List.filterMap_cons, Attempt.note?] using normal.notes
  applications := by
    refine List.filterMap_append ▸
      List.nodup_append.mpr ⟨normal.applications, List.nodup_singleton _, ?_⟩
    rintro other member _ found rfl
    obtain ⟨attempt, listed, known_eq⟩ := List.mem_filterMap.mp member
    cases List.mem_singleton.mp found
    refine absent (List.any_eq_true.mpr ⟨attempt, listed, ?_⟩)
    cases attempt with
    | note plain => cases known_eq
    | failedFunction other existing =>
      cases known_eq
      exact decide_eq_true rfl
  below := List.forall_mem_append.mpr ⟨normal.below, List.forall_mem_singleton.mpr below⟩

/-- So do more causes for functions that failed, if these stay normal. -/
theorem NormalAttempts.changeFirst (normal : NormalAttempts known)
    {change : List Failure → List Failure}
    (keeps : ∀ causes, NormalCauses causes → NormalCauses (change causes)) :
    NormalAttempts (changeFirst (Attempt.isFailureOf application) (Attempt.mapCauses change)
      known) where
  notes := by
    rw [filterMap_changeFirst fun attempt => by cases attempt <;> rfl]
    exact normal.notes
  applications := by
    rw [filterMap_changeFirst fun attempt => by cases attempt <;> rfl]
    exact normal.applications
  below := forall_mem_changeFirst normal.below fun attempt _ _ below => by
    cases attempt with
    | note plain => exact below
    | failedFunction other causes =>
      rw [Attempt.normal_failedFunction_iff] at below
      exact Attempt.normal_failedFunction_iff.mpr (keeps causes below)

end Recording

mutual

/-- **A normal failure that absorbs a normal one stays normal.** -/
theorem Failure.Normal.absorb : ∀ other : Failure, other.Normal →
    ∀ known : Failure, known.Normal → (known.absorb other).Normal
  | .intro _ attempts, normal, known, start => by
    rw [Failure.normal_iff] at start ⊢
    rw [Failure.attempts_absorb]
    exact normalAttempts_absorbAttempts attempts (Failure.normal_iff.mp normal).below _ start
termination_by structural other => other

theorem normalAttempts_absorbAttempts : ∀ attempts : List Attempt,
    (∀ attempt ∈ attempts, attempt.Normal) →
      ∀ known, NormalAttempts known → NormalAttempts (absorbAttempts known attempts)
  | [], _, known, start => by
    rw [absorbAttempts]
    exact start
  | attempt :: rest, normal, known, start => by
    obtain ⟨first, others⟩ := List.forall_mem_cons.mp normal
    rw [absorbAttempts]
    exact normalAttempts_absorbAttempts rest others _
      (normalAttempts_absorbAttempt attempt first known start)

theorem normalAttempts_absorbAttempt : ∀ attempt : Attempt, attempt.Normal →
    ∀ known, NormalAttempts known → NormalAttempts (absorbAttempt known attempt)
  | .note plain, _, known, start => by
    rw [absorbAttempt]
    split
    case isTrue => exact start
    case isFalse absent => exact start.concat_note absent
  | .failedFunction application causes, normal, known, start => by
    have below := (Attempt.normal_failedFunction_iff.mp normal).below
    rw [absorbAttempt]
    split
    case isTrue => exact start.changeFirst fun existing =>
      normalCauses_absorbCauses causes below existing
    case isFalse absent => exact start.concat_failedFunction absent normal

theorem normalCauses_absorbCauses : ∀ causes : List Failure, (∀ cause ∈ causes, cause.Normal) →
    ∀ known, NormalCauses known → NormalCauses (absorbCauses known causes)
  | [], _, known, start => by
    rw [absorbCauses]
    exact start
  | cause :: rest, normal, known, start => by
    obtain ⟨first, others⟩ := List.forall_mem_cons.mp normal
    rw [absorbCauses]
    refine normalCauses_absorbCauses rest others _ ?_
    split
    case isTrue =>
      constructor
      · rw [map_changeFirst fun existing => Failure.requirement_absorb existing cause]
        exact start.requirements
      · exact forall_mem_changeFirst start.below fun existing _ _ below =>
          Failure.Normal.absorb cause first existing below
    case isFalse absent =>
      constructor
      · refine List.map_append ▸
          List.nodup_append.mpr ⟨start.requirements, List.nodup_singleton _, ?_⟩
        rintro requirement member _ found rfl
        obtain ⟨existing, listed, same⟩ := List.mem_map.mp member
        refine absent (List.any_eq_true.mpr ⟨existing, listed, decide_eq_true ?_⟩)
        exact same.trans (List.mem_singleton.mp found)
      · exact List.forall_mem_append.mpr ⟨start.below, List.forall_mem_singleton.mpr first⟩

end

/-! ## Covering -/

mutual

/-- What a failure records is covered: each lookup that merging it makes comes to a place
where nothing is left to record. -/
def Failure.Covers (known : Failure) : Failure → Prop
  | .intro _ attempts => CoversAttempts known.attempts attempts
termination_by structural other => other

/-- Attempts are covered by those that are known. -/
def CoversAttempts (known : List Attempt) : List Attempt → Prop
  | [] => True
  | attempt :: rest => CoversAttempt known attempt ∧ CoversAttempts known rest

/-- A note is covered if it is known, and a function that failed if the first one known that
failed in the same application covers its causes. -/
def CoversAttempt (known : List Attempt) : Attempt → Prop
  | .note plain => .note plain ∈ known
  | .failedFunction application causes =>
    ∃ existing, known.find? (Attempt.isFailureOf application) =
      some (.failedFunction application existing) ∧ CoversCauses existing causes

/-- A cause is covered if the first one known for the same requirement covers it. -/
def CoversCauses (known : List Failure) : List Failure → Prop
  | [] => True
  | cause :: rest =>
    (∃ existing, known.find? (Failure.isAbout cause.requirement) = some existing ∧
      existing.Covers cause) ∧ CoversCauses known rest

end

mutual

/-- **Absorbing what is covered changes nothing.** -/
theorem Failure.absorb_of_covers : ∀ other known : Failure, known.Covers other →
    known.absorb other = known
  | .intro _ attempts, .intro requirement known, covers => by
    rw [Failure.absorb]
    exact congrArg (Failure.intro requirement) (absorbAttempts_of_covers attempts known covers)
termination_by structural other => other

theorem absorbAttempts_of_covers : ∀ attempts known : List Attempt, CoversAttempts known attempts →
    absorbAttempts known attempts = known
  | [], known, _ => by rw [absorbAttempts]
  | attempt :: rest, known, ⟨first, others⟩ => by
    rw [absorbAttempts, absorbAttempt_of_covers attempt known first,
      absorbAttempts_of_covers rest known others]

theorem absorbAttempt_of_covers : ∀ (attempt : Attempt) (known : List Attempt),
    CoversAttempt known attempt → absorbAttempt known attempt = known
  | .note plain, known, listed => by
    rw [absorbAttempt]
    exact if_pos listed
  | .failedFunction application causes, known, ⟨existing, found, covers⟩ => by
    have same := absorbCauses_of_covers causes existing covers
    rw [absorbAttempt, if_pos (any_of_find? found)]
    exact changeFirst_eq_self found (congrArg (Attempt.failedFunction application) same)

theorem absorbCauses_of_covers : ∀ causes known : List Failure, CoversCauses known causes →
    absorbCauses known causes = known
  | [], known, _ => by rw [absorbCauses]
  | cause :: rest, known, ⟨⟨existing, found, covers⟩, others⟩ => by
    have same := Failure.absorb_of_covers cause existing covers
    rw [absorbCauses, if_pos (any_of_find? found), changeFirst_eq_self found same]
    exact absorbCauses_of_covers rest known others

end

/-! ## Growth keeps what is covered -/

theorem Failure.Grows.requirement_eq {before after : Failure} (grows : before.Grows after) :
    after.requirement = before.requirement := by
  cases before
  exact grows.1

theorem Failure.Grows.attempts {before after : Failure} (grows : before.Grows after) :
    AttemptsGrow before.attempts after.attempts := by
  cases before
  exact grows.2

/-- Notes are still listed when attempts grow. -/
theorem AttemptsGrow.note_mem {plain : Note} {known grown : List Attempt}
    (grow : AttemptsGrow known grown) (listed : .note plain ∈ known) : .note plain ∈ grown := by
  induction known generalizing grown with
  | nil => cases listed
  | cons attempt rest ih =>
    cases grown with
    | nil => cases grow
    | cons now others =>
      rcases List.mem_cons.mp listed with rfl | later
      · exact grow.1 ▸ List.mem_cons_self
      · exact List.mem_cons_of_mem _ (ih grow.2 later)

theorem Attempt.Grows.isFailureOf_eq {attempt grown : Attempt} (grows : attempt.Grows grown)
    (application : Application) :
    grown.isFailureOf application = attempt.isFailureOf application := by
  cases attempt with
  | note plain => exact congrArg (Attempt.isFailureOf application) grows
  | failedFunction known causes =>
    obtain ⟨more, rfl, _⟩ := grows
    rfl

/-- The first function that failed in an application is still the first, with its causes grown. -/
theorem AttemptsGrow.find? {application : Application} {existing : List Failure}
    {known grown : List Attempt} (grow : AttemptsGrow known grown)
    (found : known.find? (Attempt.isFailureOf application) =
      some (.failedFunction application existing)) :
    ∃ more, grown.find? (Attempt.isFailureOf application) =
      some (.failedFunction application more) ∧ CausesGrow existing more := by
  induction known generalizing grown with
  | nil => cases found
  | cons attempt rest ih =>
    cases grown with
    | nil => cases grow
    | cons now others =>
      rw [List.find?_cons] at found ⊢
      rw [grow.1.isFailureOf_eq]
      cases passes : attempt.isFailureOf application with
      | true =>
        rw [passes] at found
        cases found
        obtain ⟨more, rfl, grown⟩ := grow.1
        exact ⟨more, rfl, grown⟩
      | false =>
        rw [passes] at found
        exact ih grow.2 found

/-- The first cause for a requirement is still the first, grown. -/
theorem CausesGrow.find? {requirement : Requirement} {existing : Failure}
    {known grown : List Failure} (grow : CausesGrow known grown)
    (found : known.find? (Failure.isAbout requirement) = some existing) :
    ∃ more, grown.find? (Failure.isAbout requirement) = some more ∧ existing.Grows more := by
  induction known generalizing grown with
  | nil => cases found
  | cons cause rest ih =>
    cases grown with
    | nil => cases grow
    | cons now others =>
      have same : now.isAbout requirement = cause.isAbout requirement := by
        unfold Failure.isAbout
        rw [grow.1.requirement_eq]
      rw [List.find?_cons] at found ⊢
      rw [same]
      cases passes : cause.isAbout requirement with
      | true =>
        rw [passes] at found
        cases found
        exact ⟨now, rfl, grow.1⟩
      | false =>
        rw [passes] at found
        exact ih grow.2 found

mutual

/-- **What is covered stays covered when more is recorded.** -/
theorem Failure.Covers.grow : ∀ other known grown : Failure, known.Grows grown →
    known.Covers other → grown.Covers other
  | .intro _ attempts => fun known grown grows covers =>
    CoversAttempts.grow attempts known.attempts grown.attempts grows.attempts covers
termination_by structural other => other

theorem CoversAttempts.grow : ∀ attempts known grown : List Attempt, AttemptsGrow known grown →
    CoversAttempts known attempts → CoversAttempts grown attempts
  | [] => fun _ _ _ _ => trivial
  | attempt :: rest => fun known grown grow covers =>
    ⟨CoversAttempt.grow attempt known grown grow covers.1,
      CoversAttempts.grow rest known grown grow covers.2⟩

theorem CoversAttempt.grow : ∀ (attempt : Attempt) (known grown : List Attempt),
    AttemptsGrow known grown → CoversAttempt known attempt → CoversAttempt grown attempt
  | .note _ => fun _ _ grow listed => grow.note_mem listed
  | .failedFunction _ causes => by
    rintro known grown grow ⟨existing, found, covers⟩
    obtain ⟨more, still, below⟩ := grow.find? found
    exact ⟨more, still, CoversCauses.grow causes existing more below covers⟩

theorem CoversCauses.grow : ∀ causes known grown : List Failure, CausesGrow known grown →
    CoversCauses known causes → CoversCauses grown causes
  | [] => fun _ _ _ _ => trivial
  | cause :: rest => by
    rintro known grown grow ⟨⟨existing, found, covers⟩, others⟩
    obtain ⟨more, still, grows⟩ := grow.find? found
    exact ⟨⟨more, still, Failure.Covers.grow cause existing more grows covers⟩,
      CoversCauses.grow rest known grown grow others⟩

end

/-! ## A normal failure is covered once it has been merged -/

mutual

/-- A normal failure covers itself. -/
theorem Failure.Normal.covers_self : ∀ failure : Failure, failure.Normal → failure.Covers failure
  | .intro _ attempts, normal =>
    have whole := Failure.normal_iff.mp normal
    coversAttempts_of_subset attempts attempts (List.Subset.refl _) whole.applications whole.below
termination_by structural failure => failure

/-- Attempts are covered by a list in which they are listed once. -/
theorem coversAttempts_of_subset : ∀ attempts known : List Attempt, attempts ⊆ known →
    (known.filterMap Attempt.application?).Nodup → (∀ attempt ∈ attempts, attempt.Normal) →
      CoversAttempts known attempts
  | [], _, _, _, _ => trivial
  | attempt :: rest, known, subset, nodup, normal => by
    obtain ⟨member, later⟩ := List.cons_subset.mp subset
    obtain ⟨first, others⟩ := List.forall_mem_cons.mp normal
    exact ⟨coversAttempt_of_mem attempt known member nodup first,
      coversAttempts_of_subset rest known later nodup others⟩

theorem coversAttempt_of_mem : ∀ (attempt : Attempt) (known : List Attempt), attempt ∈ known →
    (known.filterMap Attempt.application?).Nodup → attempt.Normal → CoversAttempt known attempt
  | .note _, _, member, _, _ => member
  | .failedFunction application causes, known, member, nodup, normal => by
    have below := Attempt.normal_failedFunction_iff.mp normal
    refine ⟨causes, find?_of_unique member (decide_eq_true rfl) fun attempt listed passes => ?_,
      coversCauses_of_subset causes causes (List.Subset.refl _) below.requirements below.below⟩
    obtain ⟨existing, rfl⟩ := Attempt.eq_of_isFailureOf passes
    exact eq_of_nodup_filterMap nodup listed member rfl rfl

/-- Causes are covered by a list in which each requirement is listed once. -/
theorem coversCauses_of_subset : ∀ causes known : List Failure, causes ⊆ known →
    (known.map Failure.requirement).Nodup → (∀ cause ∈ causes, cause.Normal) →
      CoversCauses known causes
  | [], _, _, _, _ => trivial
  | cause :: rest, known, subset, nodup, normal => by
    obtain ⟨member, later⟩ := List.cons_subset.mp subset
    obtain ⟨first, others⟩ := List.forall_mem_cons.mp normal
    refine ⟨⟨cause, find?_of_unique member (decide_eq_true rfl) fun other listed passes => ?_,
      Failure.Normal.covers_self cause first⟩, coversCauses_of_subset rest known later nodup others⟩
    exact List.inj_on_of_nodup_map nodup listed member (of_decide_eq_true passes)

end

mutual

/-- **A failure covers whatever normal failure it has absorbed.** -/
theorem Failure.covers_absorb : ∀ other : Failure, other.Normal →
    ∀ known : Failure, (known.absorb other).Covers other
  | .intro requirement attempts, normal, known => by
    have below := (Failure.normal_iff.mp normal).below
    have covers := coversAttempts_absorbAttempts attempts below known.attempts
    unfold Failure.Covers
    rw [Failure.attempts_absorb]
    exact covers
termination_by structural other => other

/-- Each attempt is covered when it has been recorded, and stays so while the others are. -/
theorem coversAttempts_absorbAttempts : ∀ attempts : List Attempt,
    (∀ attempt ∈ attempts, attempt.Normal) →
      ∀ known, CoversAttempts (absorbAttempts known attempts) attempts
  | [], _, _ => trivial
  | attempt :: rest, normal, known => by
    obtain ⟨first, others⟩ := List.forall_mem_cons.mp normal
    have covers := coversAttempt_absorbAttempt attempt first known
    rw [absorbAttempts]
    exact ⟨CoversAttempt.grow attempt _ _ (attemptsGrow_absorbAttempts rest _) covers,
      coversAttempts_absorbAttempts rest others _⟩

theorem coversAttempt_absorbAttempt : ∀ attempt : Attempt, attempt.Normal →
    ∀ known, CoversAttempt (absorbAttempt known attempt) attempt
  | .note plain, _, known => by
    unfold CoversAttempt
    rw [absorbAttempt]
    split
    case isTrue listed => exact listed
    case isFalse => exact List.mem_append_right _ (List.mem_singleton_self _)
  | .failedFunction application causes, normal, known => by
    have below := Attempt.normal_failedFunction_iff.mp normal
    unfold CoversAttempt
    rw [absorbAttempt]
    split
    case isTrue failed =>
      obtain ⟨attempt, found⟩ := exists_find?_of_any failed
      obtain ⟨existing, rfl⟩ := Attempt.eq_of_isFailureOf (List.find?_some found)
      exact ⟨_, find?_changeFirst found (decide_eq_true rfl),
        coversCauses_absorbCauses causes below.below existing⟩
    case isFalse absent =>
      exact ⟨causes, find?_concat absent (decide_eq_true rfl),
        coversCauses_of_subset causes causes (List.Subset.refl _) below.requirements below.below⟩

/-- So it is with causes. -/
theorem coversCauses_absorbCauses : ∀ causes : List Failure, (∀ cause ∈ causes, cause.Normal) →
    ∀ known, CoversCauses (absorbCauses known causes) causes
  | [], _, _ => trivial
  | cause :: rest, normal, known => by
    obtain ⟨first, others⟩ := List.forall_mem_cons.mp normal
    rw [absorbCauses]
    refine ⟨?_, coversCauses_absorbCauses rest others _⟩
    suffices recorded : CoversCauses (if known.any (Failure.isAbout cause.requirement) then
        changeFirst (Failure.isAbout cause.requirement)
          (fun existing => existing.absorb cause) known
        else known ++ [cause]) [cause] from
      (CoversCauses.grow [cause] _ _ (causesGrow_absorbCauses rest _) recorded).1
    refine ⟨?_, trivial⟩
    split
    case isTrue met =>
      obtain ⟨existing, found⟩ := exists_find?_of_any met
      have about := List.find?_some found
      have still : (existing.absorb cause).isAbout cause.requirement = true := by
        unfold Failure.isAbout at about ⊢
        rwa [Failure.requirement_absorb]
      exact ⟨_, find?_changeFirst found still, Failure.covers_absorb cause first existing⟩
    case isFalse absent =>
      exact ⟨cause, find?_concat absent (decide_eq_true rfl),
        Failure.Normal.covers_self cause first⟩

end

/-! ## Merging again -/

namespace Failure

variable {known other : Failure}

/-- Merging what is covered changes nothing. -/
theorem Covers.merge_eq (covers : known.Covers other)
    (same : known.requirement = other.requirement) : known.merge other = .ok known := by
  rw [merge_of_same same, absorb_of_covers other known covers]

/-- Failures for one requirement can be merged one after the other, and the first one grows. -/
theorem exists_foldlM_merge (others : List Failure)
    (same : ∀ other ∈ others, other.requirement = known.requirement) :
    ∃ grown, others.foldlM merge known = .ok grown ∧ known.Grows grown := by
  induction others generalizing known with
  | nil => exact ⟨known, rfl, known.grows_refl⟩
  | cons other rest ih =>
    obtain ⟨now, later⟩ := List.forall_mem_cons.mp same
    have still : ∀ next ∈ rest, next.requirement = (known.absorb other).requirement := by
      rwa [requirement_absorb]
    obtain ⟨grown, merged, grows⟩ := ih still
    refine ⟨grown, ?_, Grows.trans _ _ _ (grows_absorb other known) grows⟩
    rw [List.foldlM_cons, merge_of_same now.symm]
    exact merged

/-- What merging does when the failure that is merged in is normal. -/
structure Absorbs (known other : Failure) : Prop where
  /-- The two can be merged. The merged failure is normal if both are, and merging the second one
  into it again changes nothing. -/
  merged : ∃ merged, known.merge other = .ok merged ∧ (known.Normal → merged.Normal) ∧
    merged.merge other = .ok merged
  /-- Neither does it when other failures have been merged in the meantime. -/
  later : ∀ others : List Failure, (∀ next ∈ others, next.requirement = known.requirement) →
    ∃ grown, (other :: others).foldlM merge known = .ok grown ∧ grown.merge other = .ok grown
  /-- Nor does merging it into itself. -/
  itself : other.merge other = .ok other

/-- **Merging a normal failure again changes nothing**, literally and however it looks into which
it has been merged. If that is normal it stays so. -/
theorem merge_again (same : known.requirement = other.requirement) (normal : other.Normal) :
    Absorbs known other := by
  have merged : known.merge other = .ok (known.absorb other) := merge_of_same same
  have about : (known.absorb other).requirement = known.requirement :=
    requirement_absorb known other
  have covers : (known.absorb other).Covers other := covers_absorb other normal known
  constructor
  case merged =>
    exact ⟨_, merged, Normal.absorb other normal known, covers.merge_eq (about.trans same)⟩
  case later =>
    intro others alike
    rw [← about] at alike
    obtain ⟨grown, followed, grows⟩ := exists_foldlM_merge others alike
    have still : grown.Covers other := Covers.grow other _ grown grows covers
    refine ⟨grown, ?_, still.merge_eq (grows.requirement_eq.trans (about.trans same))⟩
    rw [List.foldlM_cons, merged]
    exact followed
  case itself => exact (normal.covers_self other).merge_eq rfl

/-- The first failure lists an application and a requirement twice. What the second one lists
joins the first of its kind, at the first merge as at the second. -/
theorem merge_again_repeated :
    (unpriced [.note .noFunctions, undiscounted [uncurved .couldNotResolve]]).Normal ∧
    (unpriced [undiscounted [uncurved .unsatisfied, uncurved .couldNotResolve],
        undiscounted []]).merge
        (unpriced [.note .noFunctions, undiscounted [uncurved .couldNotResolve]]) =
      .ok (unpriced [undiscounted [intro { name := "curve", target := "EUR" }
            [.note .unsatisfied, .note .couldNotResolve], uncurved .couldNotResolve],
          undiscounted [], .note .noFunctions]) ∧
    Absorbs
      (unpriced [undiscounted [uncurved .unsatisfied, uncurved .couldNotResolve], undiscounted []])
      (unpriced [.note .noFunctions, undiscounted [uncurved .couldNotResolve]]) := by
  have normal :
      (unpriced [.note .noFunctions, undiscounted [uncurved .couldNotResolve]]).Normal := by
    have curve : (uncurved .couldNotResolve).Normal :=
      .intro (by decide) (by decide) (List.forall_mem_singleton.mpr (.note _))
    have discount : (undiscounted [uncurved .couldNotResolve]).Normal :=
      .failedFunction (by decide) (List.forall_mem_singleton.mpr curve)
    refine .intro (by decide) (by decide) ?_
    exact List.forall_mem_cons.mpr ⟨.note _, List.forall_mem_singleton.mpr discount⟩
  exact ⟨normal, by decide +kernel, merge_again rfl normal⟩

end Failure

end ValueEngine
