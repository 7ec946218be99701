import ValueEngine.Execution.Run
import ValueEngine.Proofs.Plan.Links

/-!
# The books of a run

A report may come in while the tasks of other calls are still due, so the counters
of a fragment need not show how many of its inputs have completed. They do so
together with the tasks that are due: a fragment is blocked once for each input
that has not completed, and once for each due task that unblocks it
(`Run.Entry`). The books are right when every fragment has such an entry
(`Run.Books`).

What a call does between the moments at which user code is in control is summed up
in what it may change (`Run.Worked`). The values and times in the books go out with the
outcome, so what has been reported so far is either still there or in the outcome
(`Run.gathered`), and work does not change it.
-/

set_option autoImplicit false

namespace ValueEngine

universe u

variable {α : Type u}

/-- The run of a turn, unless its books are wrong. -/
def RunTurn.run? : RunTurn α → Option (Run α)
  | launched _ run => some run
  | returned run => some run
  | fault _ _ => none

/-- The job that a turn launches. -/
def RunTurn.job? : RunTurn α → Option (Job α)
  | launched job _ => some job
  | returned _ => none
  | fault _ _ => none

namespace Run

/-! ## Entries -/

/-- How many inputs of a fragment have not completed. -/
def pending (run : Run α) (fragment : Fragment) : Nat :=
  (fragment.inputs.toList.filter fun input => decide (input ∉ run.completed)).length

/-- A fragment has been launched. -/
def Launched (run : Run α) (id : FragmentId) : Prop :=
  ∃ progress, run.progress.get? id = some progress ∧ progress.launched = true

/-- A fragment, or one that it depends on, has failed. -/
def Failed (run : Run α) (id : FragmentId) : Prop :=
  ∃ progress, run.progress.get? id = some progress ∧ progress.failed = true

/-- The run is not settled with values. -/
def Unvalued (run : Run α) : Prop := ∀ values, run.outcome ≠ some (.ok values)

/-- The values and times reported so far: the outcome has taken them, or they are in the
books. -/
def gathered (run : Run α) : GraphValues α :=
  match run.outcome with
  | some (.ok values) => values
  | _ => run.values

/-- How far a fragment is, when so many tasks are due that launch or unblock it. -/
structure Entry (run : Run α) (fragment : Fragment) (progress : Progress)
    (launches unblocks : Nat) : Prop where
  /-- A fragment is blocked by its pending inputs and by what is due. -/
  blocked_eq : progress.blocked = run.pending fragment + unblocks
  /-- Only inputs block a fragment. -/
  blocked_le : progress.blocked ≤ fragment.inputs.size
  /-- Only an unlaunched fragment without inputs is to be launched, and once. -/
  leaf : 0 < launches → launches = 1 ∧ fragment.inputs.size = 0 ∧ progress.launched = false ∧
    fragment.id ≠ FragmentId.root
  /-- Launched fragments are not blocked. -/
  unblocked : progress.launched = true → progress.blocked = 0 ∧ fragment.id ≠ FragmentId.root
  /-- What is outstanding or completed has been launched. -/
  launched : fragment.id ∈ run.outstanding ∨ fragment.id ∈ run.completed →
    progress.launched = true
  /-- What is outstanding has not completed. -/
  exclusive : fragment.id ∈ run.outstanding → fragment.id ∉ run.completed
  /-- A launched fragment is outstanding until it completes or fails. -/
  answered : progress.launched = true →
    fragment.id ∈ run.outstanding ∨ fragment.id ∈ run.completed ∨ progress.failed = true
  /-- A fragment that is not blocked is launched, or is to be, unless it has failed. -/
  ready : fragment.id ≠ FragmentId.root → progress.blocked = 0 → progress.failed = false →
    progress.launched = true ∨ 0 < launches
  /-- When the root is not blocked, the run is settled. -/
  awaited : fragment.id = FragmentId.root → progress.blocked = 0 → run.outcome ≠ none

/-- Every fragment is in the books, and what is outstanding, completed or due is a
fragment. -/
structure Books (run : Run α) (due : List Task) : Prop where
  /-- Every fragment has an entry. -/
  entries : ∀ fragment ∈ run.plan.layout.all, ∃ progress,
    run.progress.get? fragment.id = some progress ∧
      run.Entry fragment progress (due.count (.launch fragment.id))
        (due.count (.unblock fragment.id))
  /-- Due tasks are about fragments of the plan. -/
  due_mem : ∀ task ∈ due, task.fragment ∈ run.plan.layout.all.map Fragment.id
  /-- Fragments of the plan are outstanding. -/
  outstanding_mem : ∀ id ∈ run.outstanding, id ∈ run.plan.layout.all.map Fragment.id
  /-- Fragments of the plan are completed. -/
  completed_mem : ∀ id ∈ run.completed, id ∈ run.plan.layout.all.map Fragment.id
  /-- There are values only when everything that the root waits for has completed. -/
  valued : ∀ values, run.outcome = some (.ok values) →
    ∀ id ∈ run.plan.layout.terminals, id ∈ run.completed

theorem pending_congr {run after : Run α} (completed_eq : after.completed = run.completed)
    (fragment : Fragment) : after.pending fragment = run.pending fragment := by
  rw [pending, pending, completed_eq]

theorem pending_eq_zero_iff {run : Run α} {fragment : Fragment} :
    run.pending fragment = 0 ↔ ∀ input ∈ fragment.inputs, input ∈ run.completed := by
  rw [pending, List.length_eq_zero_iff, List.filter_eq_nil_iff]
  simp [SortedSet.mem_toList]

/-- The entry of a fragment only depends on what the run says of this fragment and
of its inputs. -/
theorem Entry.congr {run after : Run α} {fragment : Fragment} {progress : Progress}
    {launches unblocks : Nat} (entry : run.Entry fragment progress launches unblocks)
    (completed_eq : after.completed = run.completed)
    (outstanding : fragment.id ∈ after.outstanding ↔ fragment.id ∈ run.outstanding)
    (outcome : run.outcome ≠ none → after.outcome ≠ none) :
    after.Entry fragment progress launches unblocks where
  blocked_eq := (pending_congr completed_eq fragment).symm ▸ entry.blocked_eq
  blocked_le := entry.blocked_le
  leaf := entry.leaf
  unblocked := entry.unblocked
  launched := by
    rw [outstanding, completed_eq]
    exact entry.launched
  exclusive := by
    rw [outstanding, completed_eq]
    exact entry.exclusive
  answered := by
    rw [outstanding, completed_eq]
    exact entry.answered
  ready := entry.ready
  awaited isRoot free := outcome (entry.awaited isRoot free)

/-! ## What has completed -/

section Completed

variable {graph : Graph} {run : Run α} {due : List Task} {fragment : Fragment} {id : FragmentId}

/-- What has completed has been launched. -/
theorem Books.launched_of_completed (books : run.Books due) (completed : id ∈ run.completed) :
    run.Launched id := by
  obtain ⟨fragment, member, rfl⟩ := List.mem_map.1 (books.completed_mem id completed)
  obtain ⟨progress, found, entry⟩ := books.entries fragment member
  exact ⟨progress, found, entry.launched (Or.inr completed)⟩

/-- The inputs of a launched fragment have completed. -/
theorem Books.completed_of_feeds (books : run.Books due)
    (member : fragment ∈ run.plan.layout.fragments) (launched : run.Launched fragment.id)
    {input : FragmentId} (feeds : input ∈ fragment.inputs) : input ∈ run.completed := by
  obtain ⟨progress, found, entry⟩ := books.entries fragment (Layout.mem_all_of_mem member)
  obtain ⟨_, same, flagged⟩ := launched
  cases found.symm.trans same
  have free := (entry.unblocked flagged).1
  have blocked_eq := entry.blocked_eq
  exact pending_eq_zero_iff.1 (by omega) input feeds

/-- When everything that the root waits for has completed, all fragments have. -/
theorem Books.all_completed (books : run.Books due) (sound : run.plan.layout.Sound graph)
    (done : ∀ id ∈ run.plan.layout.terminals, id ∈ run.completed)
    (member : fragment ∈ run.plan.layout.fragments) : fragment.id ∈ run.completed := by
  have path := sound.reaches_root member
  have notRoot := sound.id_ne_root member
  clear member
  generalize fragment.id = id at path notRoot
  induction path using Relation.ReflTransGen.head_induction_on with
  | refl => exact absurd rfl notRoot
  | head feeds _ ih =>
    obtain ⟨producer, producerMember, rfl, isRoot | ⟨consumer, consumerMember, rfl, consumed⟩⟩ :=
      sound.cases_of_feeds feeds
    · have linked := sound.linked producer (Layout.mem_all_of_mem producerMember) _
        Layout.root_mem_all
      rw [isRoot] at feeds
      exact done _ (linked.2 ((sound.feeds_iff (Layout.mem_all_of_mem producerMember)).1 feeds))
    · have completed := ih (sound.id_ne_root consumerMember)
      exact books.completed_of_feeds consumerMember (books.launched_of_completed completed) consumed

/-- There are values only when all fragments have completed. -/
theorem Books.completed_of_values (books : run.Books due) (sound : run.plan.layout.Sound graph)
    {values : GraphValues α} (settled : run.outcome = some (.ok values))
    (member : fragment ∈ run.plan.layout.fragments) : fragment.id ∈ run.completed :=
  books.all_completed sound (books.valued values settled) member

/-- As long as a fragment has not completed there are no values. -/
theorem Books.unvalued (books : run.Books due) (sound : run.plan.layout.Sound graph)
    (member : fragment ∈ run.plan.layout.fragments) (incomplete : fragment.id ∉ run.completed) :
    run.Unvalued :=
  fun _ settled => incomplete (books.completed_of_values sound settled member)

end Completed

/-! ## What has been reported -/

section Gathered

variable {before after : Run α}

theorem gathered_of_values {values : GraphValues α} (settled : before.outcome = some (.ok values)) :
    before.gathered = values := by
  rw [gathered, settled]

theorem Unvalued.gathered_eq (unvalued : before.Unvalued) : before.gathered = before.values := by
  unfold gathered
  split
  · rename_i values settled
    exact absurd settled (unvalued values)
  · rfl

theorem Unvalued.outputs_eq (unvalued : before.Unvalued) :
    before.gathered.outputs = before.outputs := by
  rw [unvalued.gathered_eq, values]

theorem gathered_congr (outcome_eq : after.outcome = before.outcome)
    (values_eq : after.values = before.values) : after.gathered = before.gathered := by
  rw [gathered, gathered, outcome_eq, values_eq]

theorem jobFor_congr (graph_eq : after.graph = before.graph) (plan_eq : after.plan = before.plan)
    (outputs_eq : after.outputs = before.outputs) (fragment : Fragment) :
    after.jobFor fragment = before.jobFor fragment := by
  simp only [jobFor, graph_eq, plan_eq, outputs_eq]

end Gathered

/-! ## What a piece of work does -/

/-- What working through tasks does to a run, up to the first job that is
launched, if there is one. The job is for a fragment that had not been launched and
whose inputs have completed; nothing else is launched, no value is reported and nothing
fails. The run is settled only when everything that the root waits for has completed, with
the values and times that are in the books. -/
structure Worked (before after : Run α) (job : Option (Job α)) : Prop where
  graph_eq : after.graph = before.graph
  plan_eq : after.plan = before.plan
  completed_eq : after.completed = before.completed
  failed : ∀ id, after.Failed id ↔ before.Failed id
  launched : ∀ id, after.Launched id ↔ before.Launched id ∨ ∃ sent ∈ job, sent.fragment = id
  outstanding : ∀ id, id ∈ after.outstanding ↔
    id ∈ before.outstanding ∨ ∃ sent ∈ job, sent.fragment = id
  running : ∀ id, id ∈ after.running ↔
    id ∈ before.running ∨ ∃ sent ∈ job, sent.fragment = id
  fresh : ∀ sent ∈ job, ¬ before.Launched sent.fragment
  unvalued : ∀ sent ∈ job, before.Unvalued
  job_eq : ∀ sent ∈ job, ∃ fragment ∈ before.plan.layout.fragments,
    sent = before.jobFor fragment ∧ fragment.id ∉ before.completed ∧
      ∀ input ∈ fragment.inputs, input ∈ before.completed
  outcome : after.outcome = before.outcome ∧ after.values = before.values ∨
    before.outcome = none ∧ after.outcome = some (.ok before.values) ∧
      ∀ id ∈ before.plan.layout.terminals, id ∈ before.completed

/-- What has been reported stays, in the books or in the outcome. -/
theorem Worked.gathered_eq {before after : Run α} {job : Option (Job α)}
    (worked : before.Worked after job) : after.gathered = before.gathered := by
  rcases worked.outcome with ⟨same, values_eq⟩ | ⟨unsettled, settled, _⟩
  · exact gathered_congr same values_eq
  · rw [gathered_of_values settled, gathered, unsettled]

/-- An outcome stays. -/
theorem Worked.outcome_eq {before after : Run α} {job : Option (Job α)}
    (worked : before.Worked after job) (settled : before.outcome ≠ none) :
    after.outcome = before.outcome := by
  rcases worked.outcome with ⟨same, _⟩ | ⟨unsettled, _⟩
  · exact same
  · exact absurd unsettled settled

theorem not_sent {id : FragmentId} :
    ¬ ∃ sent ∈ (none : Option (Job α)), sent.fragment = id :=
  fun ⟨_, member, _⟩ => Option.not_mem_none _ member

theorem Worked.refl (run : Run α) : run.Worked run none where
  graph_eq := rfl
  plan_eq := rfl
  completed_eq := rfl
  failed _ := Iff.rfl
  launched _ := (or_iff_left not_sent).symm
  outstanding _ := (or_iff_left not_sent).symm
  running _ := (or_iff_left not_sent).symm
  fresh _ member := absurd member (Option.not_mem_none _)
  unvalued _ member := absurd member (Option.not_mem_none _)
  job_eq _ member := absurd member (Option.not_mem_none _)
  outcome := Or.inl ⟨rfl, rfl⟩

/-- Work that launches nothing can go on. What it launches later is launched before there are
values, so its job has the values that were in the books from the start. -/
theorem Worked.trans {before between after : Run α} {job : Option (Job α)}
    (first : before.Worked between none) (second : between.Worked after job) :
    before.Worked after job := by
  have unchanged : ∀ sent ∈ job,
      between.outcome = before.outcome ∧ between.values = before.values := by
    intro sent member
    rcases first.outcome with same | ⟨_, settled, _⟩
    · exact same
    · exact absurd settled (second.unvalued sent member _)
  exact {
    graph_eq := second.graph_eq.trans first.graph_eq
    plan_eq := second.plan_eq.trans first.plan_eq
    completed_eq := second.completed_eq.trans first.completed_eq
    failed := fun id => (second.failed id).trans (first.failed id)
    launched := fun id => by
      rw [second.launched, first.launched, or_iff_left not_sent]
    outstanding := fun id => by
      rw [second.outstanding, first.outstanding, or_iff_left not_sent]
    running := fun id => by
      rw [second.running, first.running, or_iff_left not_sent]
    fresh := fun sent member early =>
      second.fresh sent member ((first.launched _).2 (Or.inl early))
    unvalued := fun sent member values settled =>
      second.unvalued sent member values ((unchanged sent member).1.trans settled)
    job_eq := fun sent member => by
      obtain ⟨fragment, inside, isJob, incomplete, supplied⟩ := second.job_eq sent member
      rw [first.completed_eq] at incomplete supplied
      refine ⟨fragment, first.plan_eq ▸ inside, ?_, incomplete, supplied⟩
      rw [isJob, jobFor_congr first.graph_eq first.plan_eq
        (congrArg GraphValues.outputs (unchanged sent member).2)]
    outcome := by
      rcases second.outcome with ⟨same, values_eq⟩ | ⟨unsettled, settled, done⟩
      · rcases first.outcome with ⟨kept, kept_eq⟩ | ⟨unsettled, settled, done⟩
        · exact Or.inl ⟨same.trans kept, values_eq.trans kept_eq⟩
        · exact Or.inr ⟨unsettled, same.trans settled, done⟩
      · rcases first.outcome with ⟨kept, kept_eq⟩ | ⟨_, early, _⟩
        · rw [first.plan_eq, first.completed_eq] at done
          exact Or.inr ⟨kept ▸ unsettled, kept_eq ▸ settled, done⟩
        · cases unsettled.symm.trans early }

variable {run : Run α}

/-- Entries do not depend on what is left of interrupted calls. -/
theorem Books.withAgenda {due : List Task} (books : run.Books due) (agenda : List (List Task)) :
    Books { run with agenda } due where
  entries fragment member := by
    obtain ⟨progress, found, entry⟩ := books.entries fragment member
    exact ⟨progress, found, entry.congr rfl Iff.rfl id⟩
  due_mem := books.due_mem
  outstanding_mem := books.outstanding_mem
  completed_mem := books.completed_mem
  valued := books.valued

theorem Worked.withAgenda {after : Run α} {job : Option (Job α)} (worked : run.Worked after job)
    (agenda : List (List Task)) : run.Worked { after with agenda } job where
  graph_eq := worked.graph_eq
  plan_eq := worked.plan_eq
  completed_eq := worked.completed_eq
  failed := worked.failed
  launched := worked.launched
  outstanding := worked.outstanding
  running := worked.running
  fresh := worked.fresh
  unvalued := worked.unvalued
  job_eq := worked.job_eq
  outcome := worked.outcome

end Run

end ValueEngine
