import ValueEngine.Proofs.Execution.Books

/-!
# Working through tasks

With right books the next due task finds the fragment that it is about, the
fragment is blocked if it is to be unblocked, and it has not been launched if it
is to be launched; the books are right afterwards (`Run.Books.step`). So a call
never meets a fault, however many calls it interrupts (`Run.Books.work`).
-/

set_option autoImplicit false

namespace ValueEngine

universe u

variable {α : Type u}

/-- The progress of a fragment that one input less blocks. -/
def Progress.unblocked (progress : Progress) : Progress :=
  { progress with blocked := progress.blocked - 1 }

namespace Run

/-! ## Steps -/

section Step

variable {graph : Graph} {run after : Run α} {task : Task} {rest : List Task}
  {fragment : Fragment} {progress changed : Progress}

/-- The books stay right when a task is done that changes the entry of its own
fragment only. -/
theorem Books.replace (books : run.Books (task :: rest)) (sound : run.plan.layout.Sound graph)
    (member : fragment ∈ run.plan.layout.all) (about : task.fragment = fragment.id)
    (plan_eq : after.plan = run.plan) (completed_eq : after.completed = run.completed)
    (progress_eq : ∀ id, after.progress.get? id =
      if fragment.id = id then some changed else run.progress.get? id)
    (outstanding : ∀ id, id ≠ fragment.id → (id ∈ after.outstanding ↔ id ∈ run.outstanding))
    (outcome : run.outcome ≠ none → after.outcome ≠ none)
    (valued : ∀ values, after.outcome = some (.ok values) → run.outcome = some (.ok values) ∨
      ∀ id ∈ run.plan.layout.terminals, id ∈ run.completed)
    (entry : after.Entry fragment changed (rest.count (.launch fragment.id))
      (rest.count (.unblock fragment.id))) : after.Books rest where
  entries := by
    rw [plan_eq]
    intro other otherMember
    rw [progress_eq]
    by_cases same : fragment.id = other.id
    · rw [if_pos same, ← sound.eq_of_id member otherMember same]
      exact ⟨changed, rfl, entry⟩
    · obtain ⟨kept, found, otherEntry⟩ := books.entries other otherMember
      have notLaunch : task ≠ .launch other.id := fun equal => same (about ▸ equal ▸ rfl)
      have notUnblock : task ≠ .unblock other.id := fun equal => same (about ▸ equal ▸ rfl)
      rw [List.count_cons_of_ne notLaunch, List.count_cons_of_ne notUnblock] at otherEntry
      rw [if_neg same]
      exact ⟨kept, found, otherEntry.congr completed_eq (outstanding _ (Ne.symm same)) outcome⟩
  due_mem other otherMember := by
    rw [plan_eq]
    exact books.due_mem other (List.mem_cons_of_mem _ otherMember)
  outstanding_mem id isOutstanding := by
    rw [plan_eq]
    by_cases same : id = fragment.id
    · exact List.mem_map.2 ⟨fragment, member, same.symm⟩
    · exact books.outstanding_mem id ((outstanding id same).1 isOutstanding)
  completed_mem id isCompleted := by
    rw [plan_eq]
    exact books.completed_mem id (completed_eq ▸ isCompleted)
  valued values settled := by
    rw [plan_eq, completed_eq]
    exact (valued values settled).elim (books.valued values) id

theorem get?_note (id other : FragmentId) : (run.note id changed).progress.get? other =
    if id = other then some changed else run.progress.get? other :=
  SortedMap.get?_insert _ _ _ _

theorem get?_noteLaunch (id other : FragmentId) :
    (run.noteLaunch id progress).progress.get? other =
      if id = other then some { progress with launched := true } else run.progress.get? other :=
  SortedMap.get?_insert _ _ _ _

/-- What a changed entry says of its fragment, all others being as they were. -/
theorem flag_iff_of_get? {id : FragmentId} (flag : Progress → Bool)
    (lookup : ∀ other, after.progress.get? other =
      if id = other then some changed else run.progress.get? other) (other : FragmentId) :
    (∃ entry, after.progress.get? other = some entry ∧ flag entry = true) ↔
      if id = other then flag changed = true
      else ∃ entry, run.progress.get? other = some entry ∧ flag entry = true := by
  rw [lookup]
  split <;> simp

/-- Noting something that launches and fails nothing. -/
theorem Worked.note {id : FragmentId} (found : run.progress.get? id = some progress)
    (launched_eq : changed.launched = progress.launched)
    (failed_eq : changed.failed = progress.failed) : run.Worked (run.note id changed) none where
  graph_eq := rfl
  plan_eq := rfl
  completed_eq := rfl
  failed other := by
    refine (flag_iff_of_get? Progress.failed (get?_note id) other).trans ?_
    split
    · rename_i same
      rw [failed_eq, Failed, ← same, found]
      simp
    · rfl
  launched other := by
    rw [or_iff_left not_sent]
    refine (flag_iff_of_get? Progress.launched (get?_note id) other).trans ?_
    split
    · rename_i same
      rw [launched_eq, Launched, ← same, found]
      simp
    · rfl
  outstanding _ := (or_iff_left not_sent).symm
  running _ := (or_iff_left not_sent).symm
  fresh _ member := absurd member (Option.not_mem_none _)
  unvalued _ member := absurd member (Option.not_mem_none _)
  job_eq _ member := absurd member (Option.not_mem_none _)
  outcome := Or.inl ⟨rfl, rfl⟩

/-- What has gone out stands in a set that it was put into. -/
theorem mem_insert_iff_sent (items : SortedSet FragmentId) (job : Job α) (other : FragmentId) :
    other ∈ items.insert job.fragment ↔
      other ∈ items ∨ ∃ sent ∈ some job, sent.fragment = other := by
  refine SortedSet.mem_insert.trans (or_comm.trans (or_congr_right ?_))
  refine ⟨fun same => ⟨_, rfl, same.symm⟩, ?_⟩
  rintro ⟨_, ⟨⟩, same⟩
  exact same.symm

/-- Launching a fragment whose inputs have completed. -/
theorem Worked.noteLaunch (member : fragment ∈ run.plan.layout.fragments)
    (found : run.progress.get? fragment.id = some progress)
    (unlaunched : progress.launched = false) (incomplete : fragment.id ∉ run.completed)
    (supplied : ∀ input ∈ fragment.inputs, input ∈ run.completed) (unvalued : run.Unvalued) :
    run.Worked (run.noteLaunch fragment.id progress) (some (run.jobFor fragment)) where
  graph_eq := rfl
  plan_eq := rfl
  completed_eq := rfl
  failed other := by
    refine (flag_iff_of_get? Progress.failed (get?_noteLaunch fragment.id) other).trans ?_
    split
    · rename_i same
      rw [Failed, ← same, found]
      simp
    · rfl
  launched other := by
    refine (flag_iff_of_get? Progress.launched (get?_noteLaunch fragment.id) other).trans ?_
    split
    · rename_i same
      exact iff_of_true rfl (Or.inr ⟨_, rfl, same⟩)
    · rename_i differs
      refine (or_iff_left ?_).symm
      rintro ⟨_, ⟨⟩, same⟩
      exact differs same
  outstanding := mem_insert_iff_sent run.outstanding (run.jobFor fragment)
  running := mem_insert_iff_sent run.running (run.jobFor fragment)
  fresh job isJob := by
    cases isJob
    rintro ⟨entry, lookup, launched⟩
    rw [show (run.jobFor fragment).fragment = fragment.id from rfl, found] at lookup
    cases lookup
    rw [unlaunched] at launched
    cases launched
  job_eq job isJob := by
    cases isJob
    exact ⟨fragment, member, rfl, incomplete, supplied⟩
  unvalued _ _ := unvalued
  outcome := Or.inl ⟨rfl, rfl⟩

/-! Completing a run settles it and hands the values and times out; it changes nothing else. -/

@[simp] theorem complete_plan (run : Run α) : run.complete.plan = run.plan := by
  unfold complete
  split <;> rfl

@[simp] theorem complete_progress (run : Run α) : run.complete.progress = run.progress := by
  unfold complete
  split <;> rfl

@[simp] theorem complete_outstanding (run : Run α) :
    run.complete.outstanding = run.outstanding := by
  unfold complete
  split <;> rfl

@[simp] theorem complete_completed (run : Run α) : run.complete.completed = run.completed := by
  unfold complete
  split <;> rfl

@[simp] theorem complete_agenda (run : Run α) : run.complete.agenda = run.agenda := by
  unfold complete
  split <;> rfl

@[simp] theorem complete_outcome (run : Run α) :
    run.complete.outcome = some (run.outcome.getD (.ok run.values)) := by
  unfold complete
  split
  · rename_i outcome settled
    rw [settled, Option.getD_some]
  · rename_i unsettled
    rw [unsettled, Option.getD_none]

/-- Completing a run when everything that the root waits for has completed. -/
theorem Worked.complete (done : ∀ id ∈ run.plan.layout.terminals, id ∈ run.completed) :
    run.Worked run.complete none := by
  unfold Run.complete
  split
  · exact Worked.refl run
  · rename_i unsettled
    exact { Worked.refl run with outcome := Or.inr ⟨unsettled, rfl, done⟩ }

/-- The entry of a fragment that has been unblocked and not launched. -/
theorem Entry.unblock {launches unblocks : Nat}
    (entry : run.Entry fragment progress launches (unblocks + 1))
    (completed_eq : after.completed = run.completed)
    (outstanding_eq : after.outstanding = run.outstanding)
    (ready : fragment.id ≠ FragmentId.root → progress.blocked - 1 = 0 → progress.failed = true)
    (awaited : fragment.id = FragmentId.root → progress.blocked - 1 = 0 → after.outcome ≠ none) :
    after.Entry fragment progress.unblocked launches unblocks where
  blocked_eq := by
    dsimp only [Progress.unblocked]
    rw [pending_congr completed_eq, entry.blocked_eq, Nat.add_succ_sub_one]
  blocked_le := Nat.le_trans (Nat.sub_le _ _) entry.blocked_le
  leaf := entry.leaf
  unblocked launched := ⟨Nat.sub_eq_zero_of_le ((entry.unblocked launched).1 ▸ Nat.zero_le 1),
    (entry.unblocked launched).2⟩
  launched := by
    rw [outstanding_eq, completed_eq]
    exact entry.launched
  exclusive := by
    rw [outstanding_eq, completed_eq]
    exact entry.exclusive
  answered := by
    rw [outstanding_eq, completed_eq]
    exact entry.answered
  ready notRoot free healthy := by
    cases (ready notRoot free).symm.trans healthy
  awaited := awaited

/-- The entry of a fragment that has been launched. -/
theorem Entry.noteLaunch (notRoot : fragment.id ≠ FragmentId.root)
    (free : progress.blocked = 0) (supplied : run.pending fragment = 0)
    (incomplete : fragment.id ∉ run.completed) :
    (run.noteLaunch fragment.id progress).Entry fragment { progress with launched := true } 0 0
    where
  blocked_eq := free.trans supplied.symm
  blocked_le := free ▸ Nat.zero_le _
  leaf positive := absurd positive (Nat.lt_irrefl 0)
  unblocked _ := ⟨free, notRoot⟩
  launched _ := rfl
  exclusive _ := incomplete
  answered _ := Or.inl (SortedSet.mem_insert.2 (Or.inl rfl))
  ready _ _ _ := Or.inl rfl
  awaited isRoot := absurd isRoot notRoot

theorem launch_eq (found : run.plan.layout.fragment? fragment.id = some fragment)
    (unlaunched : progress.launched = false) :
    run.launch fragment.id progress =
      .ok (run.noteLaunch fragment.id progress, some (run.jobFor fragment)) := by
  rw [launch, found]
  dsimp only
  rw [unlaunched]
  rfl

/-- A due launch finds a fragment that waits for nothing and has not been launched. -/
theorem Books.step_launch {id : FragmentId} (books : run.Books (.launch id :: rest))
    (sound : run.plan.layout.Sound graph) :
    ∃ after job, run.step (.launch id) = .ok (after, job) ∧ after.Books rest ∧
      run.Worked after job ∧ after.agenda = run.agenda := by
  obtain ⟨fragment, member, same⟩ := List.mem_map.1 (books.due_mem _ List.mem_cons_self)
  cases (same : fragment.id = id)
  obtain ⟨progress, found, entry⟩ := books.entries fragment member
  rw [List.count_cons_self, List.count_cons_of_ne (by simp)] at entry
  obtain ⟨onlyOnce, noInputs, unlaunched, notRoot⟩ := entry.leaf (Nat.succ_pos _)
  have free : progress.blocked = 0 := Nat.le_zero.1 (noInputs ▸ entry.blocked_le)
  have blocked_eq := entry.blocked_eq
  have supplied : run.pending fragment = 0 := by omega
  have incomplete : fragment.id ∉ run.completed := fun completed => by
    rw [entry.launched (Or.inr completed)] at unlaunched
    cases unlaunched
  have inside : fragment ∈ run.plan.layout.fragments :=
    Layout.mem_fragments_of_ne_root member notRoot
  refine ⟨run.noteLaunch fragment.id progress, some (run.jobFor fragment), ?_, ?_, ?_, rfl⟩
  · rw [Run.step, Task.fragment, found]
    exact launch_eq (sound.fragment?_eq member) unlaunched
  · refine books.replace sound member rfl rfl rfl (get?_noteLaunch _)
      (fun other differs => ?_) id (fun _ => Or.inl) ?_
    · exact SortedSet.mem_insert.trans (or_iff_right differs)
    · rw [show rest.count (.launch fragment.id) = 0 by omega,
        show rest.count (.unblock fragment.id) = 0 by omega]
      exact Entry.noteLaunch notRoot free supplied incomplete
  · exact Worked.noteLaunch inside found unlaunched incomplete (pending_eq_zero_iff.1 supplied)
      (books.unvalued sound inside incomplete)

/-- What unblocking does to a fragment that is blocked. -/
theorem step_unblock_eq (found : run.progress.get? fragment.id = some progress)
    (blocked : progress.blocked ≠ 0) :
    run.step (.unblock fragment.id) =
      if progress.unblocked.blocked ≠ 0 then
        .ok (run.note fragment.id progress.unblocked, none)
      else if fragment.id = FragmentId.root then
        .ok ((run.note fragment.id progress.unblocked).complete, none)
      else if progress.unblocked.failed then
        .ok (run.note fragment.id progress.unblocked, none)
      else (run.note fragment.id progress.unblocked).launch fragment.id progress.unblocked := by
  rw [Run.step, Task.fragment, found]
  exact if_neg blocked

/-- Unblocking a fragment that stays blocked or has failed only changes its entry. -/
theorem Books.note_unblocked (books : run.Books (.unblock fragment.id :: rest))
    (sound : run.plan.layout.Sound graph) (member : fragment ∈ run.plan.layout.all)
    (entry : run.Entry fragment progress (rest.count (.launch fragment.id))
      (rest.count (.unblock fragment.id) + 1))
    (ready : fragment.id ≠ FragmentId.root → progress.blocked - 1 = 0 → progress.failed = true)
    (more : fragment.id = FragmentId.root → progress.blocked - 1 ≠ 0) :
    (run.note fragment.id progress.unblocked).Books rest :=
  books.replace sound member rfl rfl rfl (get?_note _) (fun _ _ => Iff.rfl) id (fun _ => Or.inl)
    (entry.unblock rfl rfl ready fun isRoot last => absurd last (more isRoot))

/-- Unblocking the root for the last time settles the run. -/
theorem Books.complete_unblocked (books : run.Books (.unblock fragment.id :: rest))
    (sound : run.plan.layout.Sound graph) (member : fragment ∈ run.plan.layout.all)
    (entry : run.Entry fragment progress (rest.count (.launch fragment.id))
      (rest.count (.unblock fragment.id) + 1)) (isRoot : fragment.id = FragmentId.root)
    (done : ∀ id ∈ run.plan.layout.terminals, id ∈ run.completed) :
    (run.note fragment.id progress.unblocked).complete.Books rest := by
  have settled : (run.note fragment.id progress.unblocked).complete.outcome ≠ none := by simp
  have noted : ∀ other,
      (run.note fragment.id progress.unblocked).complete.progress.get? other =
        if fragment.id = other then some progress.unblocked else run.progress.get? other := by
    intro other
    rw [complete_progress]
    exact get?_note fragment.id other
  refine books.replace sound member rfl (complete_plan _) (complete_completed _) noted
    (fun other _ => ?_) (fun _ => settled) (fun _ _ => Or.inr done) ?_
  · rw [complete_outstanding]
    rfl
  · exact entry.unblock (complete_completed _) (complete_outstanding _)
      (fun notRoot => absurd isRoot notRoot) fun _ _ => settled

/-- Unblocking any other fragment for the last time launches it. -/
theorem Books.launch_unblocked (books : run.Books (.unblock fragment.id :: rest))
    (sound : run.plan.layout.Sound graph) (member : fragment ∈ run.plan.layout.all)
    (entry : run.Entry fragment progress (rest.count (.launch fragment.id))
      (rest.count (.unblock fragment.id) + 1)) (notRoot : fragment.id ≠ FragmentId.root)
    (last : progress.blocked = 1) (unlaunched : progress.launched = false) :
    ((run.note fragment.id progress.unblocked).noteLaunch fragment.id progress.unblocked).Books
        rest ∧
      (run.note fragment.id progress.unblocked).Worked
        ((run.note fragment.id progress.unblocked).noteLaunch fragment.id progress.unblocked)
        (some ((run.note fragment.id progress.unblocked).jobFor fragment)) := by
  have blocked_eq := entry.blocked_eq
  have supplied : run.pending fragment = 0 := by omega
  have noUnblock : rest.count (.unblock fragment.id) = 0 := by omega
  have free : progress.unblocked.blocked = 0 := by
    rw [Progress.unblocked, last]
  have incomplete : fragment.id ∉ run.completed := fun completed => by
    rw [entry.launched (Or.inr completed)] at unlaunched
    cases unlaunched
  have noLaunch : rest.count (.launch fragment.id) = 0 := by
    by_contra due
    obtain ⟨_, noInputs, _⟩ := entry.leaf (Nat.pos_of_ne_zero due)
    have blocked_le := entry.blocked_le
    omega
  have inside : fragment ∈ run.plan.layout.fragments :=
    Layout.mem_fragments_of_ne_root member notRoot
  have sent : ((run.note fragment.id progress.unblocked).noteLaunch fragment.id
      progress.unblocked).Entry fragment { progress.unblocked with launched := true }
      (rest.count (.launch fragment.id)) (rest.count (.unblock fragment.id)) := by
    rw [noLaunch, noUnblock]
    exact Entry.noteLaunch notRoot free supplied incomplete
  constructor
  · refine books.replace sound member rfl rfl rfl (fun other => ?_)
      (fun other differs => SortedSet.mem_insert.trans (or_iff_right differs)) id
      (fun _ => Or.inl) sent
    rw [get?_noteLaunch, get?_note]
    split <;> rfl
  · refine Worked.noteLaunch inside ?_ unlaunched incomplete (pending_eq_zero_iff.1 supplied)
      (books.unvalued sound inside incomplete)
    rw [get?_note, if_pos rfl]

/-- A due unblocking finds a blocked fragment. -/
theorem Books.step_unblock {id : FragmentId} (books : run.Books (.unblock id :: rest))
    (sound : run.plan.layout.Sound graph) :
    ∃ after job, run.step (.unblock id) = .ok (after, job) ∧ after.Books rest ∧
      run.Worked after job ∧ after.agenda = run.agenda := by
  obtain ⟨fragment, member, same⟩ := List.mem_map.1 (books.due_mem _ List.mem_cons_self)
  cases (same : fragment.id = id)
  obtain ⟨progress, found, entry⟩ := books.entries fragment member
  rw [List.count_cons_self, List.count_cons_of_ne (by simp)] at entry
  have blocked_eq := entry.blocked_eq
  have blocked : progress.blocked ≠ 0 := by omega
  have unlaunched : progress.launched = false := by
    by_contra launched
    exact blocked (entry.unblocked (by simpa using launched)).1
  have worked : run.Worked (run.note fragment.id progress.unblocked) none := .note found rfl rfl
  rw [step_unblock_eq found blocked]
  by_cases more : progress.unblocked.blocked ≠ 0
  · rw [if_pos more]
    exact ⟨_, none, rfl, books.note_unblocked sound member entry
      (fun _ last => absurd last more) (fun _ => more), worked, rfl⟩
  rw [if_neg more]
  have last : progress.blocked - 1 = 0 := not_not.1 more
  by_cases isRoot : fragment.id = FragmentId.root
  · rw [if_pos isRoot]
    have supplied : run.pending fragment = 0 := by omega
    have terminals_eq : fragment = run.plan.layout.root :=
      sound.eq_of_id member Layout.root_mem_all isRoot
    have done : ∀ input ∈ run.plan.layout.terminals, input ∈ run.completed :=
      pending_eq_zero_iff.1 (terminals_eq ▸ supplied)
    exact ⟨_, none, rfl, books.complete_unblocked sound member entry isRoot done,
      worked.trans (.complete done), complete_agenda _⟩
  rw [if_neg isRoot]
  by_cases failed : progress.unblocked.failed = true
  · rw [if_pos failed]
    exact ⟨_, none, rfl, books.note_unblocked sound member entry (fun _ _ => failed)
      (fun root => absurd root isRoot), worked, rfl⟩
  · rw [if_neg failed]
    obtain ⟨right, sent⟩ :=
      books.launch_unblocked sound member entry isRoot (by omega) unlaunched
    exact ⟨_, _, launch_eq (sound.fragment?_eq member) unlaunched, right, worked.trans sent, rfl⟩

/-- **With right books the next due task is done, and the books are right after it.** -/
theorem Books.step (books : run.Books (task :: rest)) (sound : run.plan.layout.Sound graph) :
    ∃ after job, run.step task = .ok (after, job) ∧ after.Books rest ∧
      run.Worked after job ∧ after.agenda = run.agenda := by
  cases task with
  | launch id => exact books.step_launch sound
  | unblock id => exact books.step_unblock sound

end Step
/-! ## Calls -/

variable {graph : Graph} {run : Run α}

/-- **With right books a call does its tasks, as far as the first launch, and meets no
fault.** -/
theorem Books.work {tasks : List Task} (books : run.Books (tasks ++ run.agenda.flatten))
    (sound : run.plan.layout.Sound graph) :
    ∃ after, (run.work tasks).run? = some after ∧ after.Books after.agenda.flatten ∧
      run.Worked after (run.work tasks).job? := by
  induction tasks generalizing run with
  | nil => exact ⟨run, rfl, books, Worked.refl run⟩
  | cons task rest ih =>
    obtain ⟨next, job, stepped, books, worked, agenda_eq⟩ := books.step sound
    rw [Run.work, stepped]
    cases job with
    | none =>
      obtain ⟨after, same, right, further⟩ :=
        ih (agenda_eq.symm ▸ books) (worked.plan_eq.symm ▸ sound)
      exact ⟨after, same, right, worked.trans further⟩
    | some job =>
      refine ⟨_, rfl, ?_, worked.withAgenda _⟩
      rw [← agenda_eq] at books
      exact books.withAgenda _

/-- An interrupted call goes on without a fault. -/
theorem Books.resume (books : run.Books run.agenda.flatten)
    (sound : run.plan.layout.Sound graph) :
    ∃ after, run.resume.run? = some after ∧ after.Books after.agenda.flatten ∧
      run.Worked after run.resume.job? := by
  unfold Run.resume
  split
  · exact ⟨run, rfl, books, Worked.refl run⟩
  · rename_i rest outer interrupted
    rw [interrupted] at books
    obtain ⟨after, same, right, worked⟩ := Books.work (books.withAgenda outer) sound
    exact ⟨after, same, right, ((Worked.refl run).withAgenda outer).trans worked⟩

end Run

end ValueEngine
