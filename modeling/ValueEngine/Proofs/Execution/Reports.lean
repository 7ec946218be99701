import ValueEngine.Proofs.Execution.Cone
import ValueEngine.Proofs.Execution.Steps

/-!
# Starts and reports

A run starts with right books. A success is written down and makes the unblocking
of everything that consumes the values due; a failure marks whatever depends on the
fragment. Either way what is reported on is part of the execution, as is everything that
depends on it, and the books stay right (`Run.Books.start`, `Run.Books.report`).
-/

set_option autoImplicit false

namespace ValueEngine

universe u

variable {α : Type u}

namespace Run

variable {graph : Graph} {run : Run α}

/-! ## The start -/

variable {plan : Plan}

theorem get?_ofPlan (sound : plan.layout.Sound graph) {fragment : Fragment}
    (member : fragment ∈ plan.layout.all) :
    (ofPlan graph plan : Run α).progress.get? fragment.id =
      some { blocked := fragment.inputs.size } := by
  let entryOf : Fragment → FragmentId × Progress :=
    fun fragment => (fragment.id, { blocked := fragment.inputs.size })
  have nodup : ((plan.layout.all.map entryOf).map Prod.fst).Nodup := by
    rw [List.map_map]
    exact sound.ids_nodup
  have entry : entryOf fragment ∈ plan.layout.all.map entryOf := List.mem_map_of_mem member
  exact SortedMap.get?_insertAll_of_mem nodup entry

/-- At the start nothing is marked as launched or failed. -/
theorem eq_blocked_of_get?_ofPlan {id : FragmentId} {progress : Progress}
    (found : (ofPlan graph plan : Run α).progress.get? id = some progress) :
    ∃ fragment ∈ plan.layout.all, progress = { blocked := fragment.inputs.size } := by
  rcases SortedMap.mem_of_get?_insertAll found with listed | absent
  · obtain ⟨fragment, member, same⟩ := List.mem_map.1 listed
    exact ⟨fragment, member, (Prod.mk.inj same).2.symm⟩
  · cases absent

theorem not_launched_ofPlan (id : FragmentId) : ¬ (ofPlan graph plan : Run α).Launched id := by
  rintro ⟨progress, found, launched⟩
  obtain ⟨_, _, rfl⟩ := eq_blocked_of_get?_ofPlan found
  cases launched

theorem not_failed_ofPlan (id : FragmentId) : ¬ (ofPlan graph plan : Run α).Failed id := by
  rintro ⟨progress, found, failed⟩
  obtain ⟨_, _, rfl⟩ := eq_blocked_of_get?_ofPlan found
  cases failed

theorem pending_ofPlan (fragment : Fragment) :
    (ofPlan graph plan : Run α).pending fragment = fragment.inputs.size := by
  rw [pending, SortedSet.size, List.filter_eq_self.2]
  exact fun input _ => decide_eq_true (SortedSet.not_mem_empty input)

/-- The launches that are due at the start. -/
theorem count_launch_leaves (sound : plan.layout.Sound graph) {fragment : Fragment}
    (member : fragment ∈ plan.layout.all) :
    (plan.layout.leaves.map fun leaf => Task.launch leaf.id).count (.launch fragment.id) =
      if fragment.id ≠ FragmentId.root ∧ fragment.inputs.size = 0 then 1 else 0 := by
  have mem_leaves : ∀ leaf, leaf ∈ plan.layout.leaves ↔
      leaf ∈ plan.layout.fragments ∧ leaf.inputs.size = 0 := fun leaf => by
    rw [Layout.leaves, List.mem_filter, SortedSet.isEmpty_iff, SortedSet.size_eq_zero_iff]
  split
  · rename_i isLeaf
    have inside := Layout.mem_fragments_of_ne_root member isLeaf.1
    refine List.count_eq_one_of_mem ?_
      (List.mem_map.2 ⟨fragment, (mem_leaves fragment).2 ⟨inside, isLeaf.2⟩, rfl⟩)
    have ids_nodup : (plan.layout.leaves.map Fragment.id).Nodup :=
      (List.nodup_cons.1 sound.ids_nodup).2.sublist (List.filter_sublist.map _)
    have launches_eq : plan.layout.leaves.map (fun leaf => Task.launch leaf.id) =
        (plan.layout.leaves.map Fragment.id).map Task.launch := by
      rw [List.map_map]
      rfl
    rw [launches_eq]
    exact ids_nodup.map fun _ _ same => Task.launch.inj same
  · rename_i notLeaf
    refine List.count_eq_zero.2 fun due => notLeaf ?_
    obtain ⟨leaf, leafMember, same⟩ := List.mem_map.1 due
    obtain ⟨inside, noInputs⟩ := (mem_leaves leaf).1 leafMember
    have isFragment := sound.eq_of_id (Layout.mem_all_of_mem inside) member (Task.launch.inj same)
    exact isFragment ▸ ⟨sound.id_ne_root inside, noInputs⟩

/-- At the start the books are right, and all fragments without inputs are due. -/
theorem Books.ofPlan (sound : plan.layout.Sound graph) (awaits : ∃ id, id ∈ plan.layout.terminals) :
    (Run.ofPlan graph plan : Run α).Books
      (plan.layout.leaves.map fun leaf => .launch leaf.id) where
  entries := by
    intro fragment member
    refine ⟨_, get?_ofPlan sound member, ?_⟩
    have noUnblock : (plan.layout.leaves.map fun leaf => Task.launch leaf.id).count
        (.unblock fragment.id) = 0 := by
      refine List.count_eq_zero.2 fun due => ?_
      obtain ⟨leaf, _, same⟩ := List.mem_map.1 due
      cases same
    rw [count_launch_leaves sound member, noUnblock]
    refine ⟨(pending_ofPlan fragment).symm, Nat.le_refl _, fun due => ?_, nofun,
      fun gone => ?_, fun gone => ?_, nofun, fun notRoot free _ => Or.inr ?_, fun isRoot free => ?_⟩
    · split at due
      · rename_i isLeaf
        exact ⟨if_pos isLeaf, isLeaf.2, rfl, isLeaf.1⟩
      · cases due
    · exact gone.elim (absurd · (SortedSet.not_mem_empty _)) (absurd · (SortedSet.not_mem_empty _))
    · exact absurd gone (SortedSet.not_mem_empty _)
    · rw [if_pos ⟨notRoot, free⟩]
      exact Nat.zero_lt_one
    · obtain ⟨id, awaited⟩ := awaits
      rw [sound.eq_of_id member Layout.root_mem_all isRoot] at free
      exact absurd awaited (SortedSet.size_eq_zero_iff.1 free id)
  due_mem := by
    intro task due
    obtain ⟨leaf, member, rfl⟩ := List.mem_map.1 due
    exact List.mem_map_of_mem (Layout.mem_all_of_mem (List.mem_of_mem_filter member))
  outstanding_mem _ isOutstanding := absurd isOutstanding (SortedSet.not_mem_empty _)
  completed_mem _ isCompleted := absurd isCompleted (SortedSet.not_mem_empty _)
  valued _ settled := nomatch settled

/-- The books of a plan without fragments are right once the run is settled. -/
theorem Books.ofPlan_of_unawaited (sound : plan.layout.Sound graph)
    (unawaited : ∀ id, id ∉ plan.layout.terminals) (outcome : Outcome α) :
    Books { (Run.ofPlan graph plan : Run α) with outcome := some outcome } [] where
  entries := by
    intro fragment member
    rcases List.mem_cons.1 member with rfl | inside
    · have pending_eq := @pending_ofPlan α graph plan plan.layout.root
      refine ⟨_, get?_ofPlan (α := α) sound member, pending_eq.symm, Nat.le_refl _,
        fun due => absurd due (Nat.lt_irrefl 0), nofun, fun gone => ?_, fun gone => ?_, nofun,
        fun notRoot => absurd rfl notRoot, fun _ _ => Option.some_ne_none _⟩
      · exact gone.elim (absurd · (SortedSet.not_mem_empty _))
          (absurd · (SortedSet.not_mem_empty _))
      · exact absurd gone (SortedSet.not_mem_empty _)
    · obtain ⟨id, awaited⟩ := sound.exists_awaited inside
      exact absurd awaited (unawaited id)
  due_mem _ due := absurd due List.not_mem_nil
  outstanding_mem _ isOutstanding := absurd isOutstanding (SortedSet.not_mem_empty _)
  completed_mem _ isCompleted := absurd isCompleted (SortedSet.not_mem_empty _)
  valued _ _ id awaited := absurd awaited (unawaited id)

/-- A run starts without a fault. -/
theorem Books.start (sound : plan.layout.Sound graph) :
    ∃ after : Run α, (Run.ofPlan graph plan).start.run? = some after ∧
      after.Books after.agenda.flatten ∧
      (Run.ofPlan graph plan).Worked after (Run.ofPlan graph plan).start.job? := by
  unfold Run.start
  split
  · rename_i nothing
    have unawaited : ∀ id, id ∉ plan.layout.terminals := SortedSet.isEmpty_iff.1 nothing
    exact ⟨_, rfl, Books.ofPlan_of_unawaited sound unawaited (.ok (Run.ofPlan graph plan).values),
      .complete fun id awaited => absurd awaited (unawaited id)⟩
  · rename_i something
    have awaits : ∃ id, id ∈ plan.layout.terminals := by
      by_contra unawaited
      exact something (SortedSet.isEmpty_iff.2 (not_exists.1 unawaited))
    refine Books.work ?_ sound
    rw [show (Run.ofPlan graph plan : Run α).agenda.flatten = [] from rfl, List.append_nil]
    exact Books.ofPlan sound awaits

/-! ## Successes -/

/-- The books when a success has been written down and nothing has followed yet. -/
def received (run : Run α) (id : FragmentId) (outputs : List (NodeId × α)) : Run α :=
  noteSuccess { run with outstanding := run.outstanding.erase id } id outputs

/-- What has been reported once a success has been written down, as long as there are no
values. -/
theorem Unvalued.gathered_received (unvalued : run.Unvalued) (id : FragmentId)
    (outputs : List (NodeId × α)) :
    (run.received id outputs).gathered =
      { configuration := run.gathered.configuration
        outputs := run.gathered.outputs.insertAll outputs
        timed := if id ∈ run.running then run.gathered.timed.insert id
          else run.gathered.timed } := by
  have still : (run.received id outputs).Unvalued := unvalued
  rw [still.gathered_eq, unvalued.gathered_eq]
  rfl

theorem Unvalued.outputs_received (unvalued : run.Unvalued) (id : FragmentId)
    (outputs : List (NodeId × α)) :
    (run.received id outputs).gathered.outputs = run.gathered.outputs.insertAll outputs := by
  rw [unvalued.gathered_received]

/-- If the nodes with values are those of the completed fragments, they still are when a fragment
completes with values of its nodes. -/
theorem Unvalued.known_received_iff (unvalued : run.Unvalued)
    (sound : run.plan.layout.Sound graph) {fragment : Fragment}
    (member : fragment ∈ run.plan.layout.fragments) {outputs : List (NodeId × α)}
    (positions : ∀ node, node ∈ outputs.map Prod.fst ↔ node ∈ fragment.nodes)
    (known_iff : ∀ node, (∃ value, run.gathered.outputs.get? node = some value) ↔
      ∃ other ∈ run.plan.layout.fragments, other.id ∈ run.completed ∧ node ∈ other.nodes)
    (node : NodeId) :
    (∃ value, (run.received fragment.id outputs).gathered.outputs.get? node = some value) ↔
      ∃ other ∈ run.plan.layout.fragments,
        other.id ∈ (run.received fragment.id outputs).completed ∧ node ∈ other.nodes := by
  rw [unvalued.outputs_received, SortedMap.exists_get?_insertAll_iff, positions, known_iff]
  constructor
  · rintro (inside | ⟨other, otherMember, completed, inside⟩)
    · exact ⟨fragment, member, SortedSet.mem_insert.2 (.inl rfl), inside⟩
    · exact ⟨other, otherMember, SortedSet.mem_insert.2 (.inr completed), inside⟩
  · rintro ⟨other, otherMember, completed, inside⟩
    rcases SortedSet.mem_insert.1 completed with same | earlier
    · have isFragment := sound.eq_of_id (Layout.mem_all_of_mem otherMember)
        (Layout.mem_all_of_mem member) same
      exact .inl (isFragment ▸ inside)
    · exact .inr ⟨other, otherMember, earlier, inside⟩

/-- One more completed fragment is one input less that is pending for the fragments
that consume it. -/
theorem pending_received {id : FragmentId} {outputs : List (NodeId × α)}
    (incomplete : id ∉ run.completed) (fragment : Fragment) :
    run.pending fragment =
      (run.received id outputs).pending fragment + if id ∈ fragment.inputs then 1 else 0 := by
  let before := fragment.inputs.toList.filter fun input => decide (input ∉ run.completed)
  have nodup : before.Nodup := fragment.inputs.nodup.filter _
  have after_eq : (fragment.inputs.toList.filter fun input =>
      decide (input ∉ run.completed.insert id)) = before.erase id := by
    rw [nodup.erase_eq_filter, List.filter_filter]
    refine List.filter_congr fun input _ => ?_
    exact Bool.eq_iff_iff.2 (by simp)
  change before.length = _
  rw [pending, received, noteSuccess]
  dsimp only
  rw [after_eq]
  have mem_before : id ∈ before ↔ id ∈ fragment.inputs := by
    simp [before, incomplete, SortedSet.mem_toList]
  split
  · rename_i consumed
    have present := mem_before.2 consumed
    have := List.length_pos_of_mem present
    rw [List.length_erase_of_mem present]
    omega
  · rename_i unused
    rw [List.erase_of_not_mem (mem_before.not.2 unused), Nat.add_zero]

/-- The entry of a fragment after a success: what consumes the values is to be unblocked
once more. -/
theorem Entry.received {id : FragmentId} {fragment : Fragment} {progress : Progress}
    {launches unblocks : Nat} (entry : run.Entry fragment progress launches unblocks)
    (outstanding : id ∈ run.outstanding) (incomplete : id ∉ run.completed)
    (outputs : List (NodeId × α)) :
    (run.received id outputs).Entry fragment progress launches
      ((if id ∈ fragment.inputs then 1 else 0) + unblocks) where
  blocked_eq := by
    have blocked_eq := entry.blocked_eq
    have pending_eq := @pending_received α run id outputs incomplete fragment
    omega
  blocked_le := entry.blocked_le
  leaf := entry.leaf
  unblocked := entry.unblocked
  launched gone := by
    rcases gone with left | arrived
    · exact entry.launched (Or.inl (SortedSet.mem_erase.1 left).1)
    · rcases SortedSet.mem_insert.1 arrived with same | earlier
      · exact entry.launched (Or.inl (same ▸ outstanding))
      · exact entry.launched (Or.inr earlier)
  exclusive left arrived := by
    obtain ⟨still, differs⟩ := SortedSet.mem_erase.1 left
    exact (SortedSet.mem_insert.1 arrived).elim differs (entry.exclusive still)
  answered launched := by
    rcases entry.answered launched with left | arrived | failed
    · by_cases same : fragment.id = id
      · exact Or.inr (Or.inl (SortedSet.mem_insert.2 (Or.inl same)))
      · exact Or.inl (SortedSet.mem_erase.2 ⟨left, same⟩)
    · exact Or.inr (Or.inl (SortedSet.mem_insert.2 (Or.inr arrived)))
    · exact Or.inr (Or.inr failed)
  ready := entry.ready
  awaited := entry.awaited

/-- The tasks that follow a success launch nothing. -/
theorem count_launch_dependents (dependents : List FragmentId) (id : FragmentId) :
    (dependents.map Task.unblock).count (.launch id) = 0 := by
  refine List.count_eq_zero.2 fun due => ?_
  obtain ⟨_, _, same⟩ := List.mem_map.1 due
  cases same

/-- They unblock what consumes the values, once. -/
theorem count_unblock_dependents {layout : Layout} (sound : layout.Sound graph)
    {producer fragment : Fragment} (producerMember : producer ∈ layout.all)
    (member : fragment ∈ layout.all) :
    ((layout.dependents producer.id).map Task.unblock).count (.unblock fragment.id) =
      if producer.id ∈ fragment.inputs then 1 else 0 := by
  rw [List.count_map_of_injective _ _ fun _ _ => Task.unblock.inj,
    sound.dependents_eq producerMember, producer.dependents.nodup.count]
  exact if_congr (sound.linked producer producerMember fragment member).symm rfl rfl

/-- **A success unblocks what consumes the values, and the books stay right.** -/
theorem Books.received (books : run.Books run.agenda.flatten) (sound : run.plan.layout.Sound graph)
    {id : FragmentId} (outstanding : id ∈ run.outstanding) (outputs : List (NodeId × α)) :
    (run.received id outputs).Books
      ((run.plan.layout.dependents id).map .unblock ++ run.agenda.flatten) where
  entries := by
    intro fragment member
    obtain ⟨producer, producerMember, rfl⟩ := List.mem_map.1 (books.outstanding_mem id outstanding)
    obtain ⟨_, _, producerEntry⟩ := books.entries producer producerMember
    obtain ⟨progress, found, entry⟩ := books.entries fragment member
    refine ⟨progress, found, ?_⟩
    rw [List.count_append, List.count_append, count_launch_dependents, Nat.zero_add,
      count_unblock_dependents sound producerMember member]
    exact entry.received outstanding (producerEntry.exclusive outstanding) outputs
  due_mem := by
    intro task due
    rcases List.mem_append.1 due with new | old
    · obtain ⟨dependent, feeds, rfl⟩ := List.mem_map.1 new
      obtain ⟨producer, producerMember, rfl⟩ :=
        List.mem_map.1 (books.outstanding_mem id outstanding)
      rw [sound.dependents_eq producerMember] at feeds
      exact sound.dependents_mem producer producerMember dependent feeds
    · exact books.due_mem task old
  outstanding_mem other isOutstanding :=
    books.outstanding_mem other (SortedSet.mem_erase.1 isOutstanding).1
  completed_mem other isCompleted := by
    rcases SortedSet.mem_insert.1 isCompleted with rfl | earlier
    · exact books.outstanding_mem other outstanding
    · exact books.completed_mem other earlier
  valued values settled id awaited :=
    SortedSet.mem_insert.2 (Or.inr (books.valued values settled id awaited))

/-- What is outstanding is known, so a success is written down and followed up. -/
theorem Books.succeed_eq {due : List Task} (books : run.Books due)
    (sound : run.plan.layout.Sound graph) {id : FragmentId} (outstanding : id ∈ run.outstanding)
    (outputs : List (NodeId × α)) :
    Run.succeed { run with outstanding := run.outstanding.erase id } id outputs =
      (run.received id outputs).work ((run.plan.layout.dependents id).map .unblock) := by
  have known := (books.knows_iff sound).2 (books.outstanding_mem id outstanding)
  exact if_pos known

/-! ## Failures -/

/-- What a failure does to a run: it marks fragments, and may settle the run with
an error. -/
structure Marked (before after : Run α) (reached : List FragmentId) : Prop where
  graph_eq : after.graph = before.graph
  plan_eq : after.plan = before.plan
  values_eq : after.values = before.values
  outstanding_eq : after.outstanding = before.outstanding
  running_eq : after.running = before.running
  completed_eq : after.completed = before.completed
  agenda_eq : after.agenda = before.agenda
  progress_eq : ∀ id, after.progress.get? id = (before.progress.get? id).map fun progress =>
    if id ∈ reached then { progress with failed := true } else progress
  outcome : after.outcome = before.outcome ∨
    before.outcome = none ∧ ∃ error, after.outcome = some (.error error)

/-- A failure launches nothing. -/
theorem Marked.launched_iff {before after : Run α} {reached : List FragmentId}
    (marked : before.Marked after reached) {id : FragmentId} :
    after.Launched id ↔ before.Launched id := by
  rw [Launched, Launched, marked.progress_eq]
  cases before.progress.get? id with
  | none => simp
  | some progress =>
    simp only [Option.map_some, Option.some.injEq, exists_eq_left']
    split <;> rfl

/-- An error does not take what has been reported. -/
theorem Marked.gathered_eq {before after : Run α} {reached : List FragmentId}
    (marked : before.Marked after reached) : after.gathered = before.gathered := by
  rcases marked.outcome with same | ⟨unsettled, error, settled⟩
  · exact gathered_congr same marked.values_eq
  · rw [gathered, gathered, unsettled, settled]
    exact marked.values_eq

/-- There are values after a failure only if there were before it. -/
theorem Marked.outcome_eq_ok {before after : Run α} {reached : List FragmentId}
    {values : GraphValues α} (marked : before.Marked after reached)
    (settled : after.outcome = some (.ok values)) : before.outcome = some (.ok values) := by
  rcases marked.outcome with same | ⟨_, error, failed⟩
  · exact same.symm.trans settled
  · cases failed.symm.trans settled

theorem marked_foldl (reached : List FragmentId) (run : Run α) :
    run.Marked (reached.foldl markFailed run) reached ∧
      (reached.foldl markFailed run).outcome = run.outcome := by
  induction reached generalizing run with
  | nil =>
    refine ⟨⟨rfl, rfl, rfl, rfl, rfl, rfl, rfl, fun id => ?_, Or.inl rfl⟩, rfl⟩
    simp
  | cons first rest ih =>
    obtain ⟨marked, outcome_eq⟩ := ih (run.markFailed first)
    refine ⟨{ marked with progress_eq := fun id => ?_ }, outcome_eq⟩
    rw [List.foldl_cons, marked.progress_eq, markFailed]
    dsimp only
    rw [SortedMap.get?_modify]
    cases run.progress.get? id with
    | none => simp
    | some progress =>
      by_cases same : first = id
      · simp [same]
      · simp [same, Ne.symm same]

/-- Only a run that is not settled is settled. -/
theorem settle_eq (outcome : Outcome α) :
    run.settle outcome = { run with outcome := some (run.outcome.getD outcome) } := by
  unfold settle
  split
  · rename_i kept settled
    rw [settled, Option.getD_some, ← settled]
  · rename_i unsettled
    rw [unsettled, Option.getD_none]

theorem marked_markAll (run : Run α) (id : FragmentId) (cause : Cause)
    (met : List FragmentId) : run.Marked (run.markAll id cause met) met := by
  obtain ⟨marked, outcome_eq⟩ := marked_foldl met run
  unfold markAll
  dsimp only
  split
  · rw [settle_eq]
    refine { marked with outcome := ?_ }
    rw [outcome_eq]
    cases run.outcome with
    | none => exact Or.inr ⟨rfl, _, rfl⟩
    | some kept => exact Or.inl rfl
  · exact marked

/-- What is outstanding is known, and so is all that depends on it: the walk from it marks what
it meets and is done. -/
theorem Books.fail_eq {due : List Task} (books : run.Books due)
    (sound : run.plan.layout.Sound graph) {id : FragmentId} (outstanding : id ∈ run.outstanding)
    (cause : Cause) :
    Run.fail { run with outstanding := run.outstanding.erase id } id cause =
      .returned (markAll { run with outstanding := run.outstanding.erase id } id cause
        (run.walk id).met) := by
  have faultless : (walk { run with outstanding := run.outstanding.erase id } id).fault = none :=
    books.fault_walk sound (books.outstanding_mem id outstanding)
  unfold Run.fail
  dsimp only
  rw [faultless]
  rfl

/-- A failure reaches the fragment that failed, unless it was marked before. -/
theorem mem_walk_self {id : FragmentId} {progress : Progress}
    (faultless : (run.walk id).fault = none) (found : run.progress.get? id = some progress)
    (healthy : progress.failed = false) : id ∈ (run.walk id).met :=
  mem_cone_of_mem_stack faultless (List.mem_singleton.2 rfl)
    (mem_healthy_iff.2 ⟨progress, found, healthy⟩)

/-- The entry of a fragment after a failure that is marked at the fragment that
failed. -/
theorem Entry.mark {id : FragmentId} {fragment : Fragment} {progress changed : Progress}
    {launches unblocks : Nat} {after : Run α}
    (entry : run.Entry fragment progress launches unblocks)
    (completed_eq : after.completed = run.completed)
    (outstanding_eq : after.outstanding = run.outstanding.erase id)
    (outcome : run.outcome ≠ none → after.outcome ≠ none)
    (blocked_eq : changed.blocked = progress.blocked)
    (launched_eq : changed.launched = progress.launched)
    (failed : progress.failed = true ∨ fragment.id = id → changed.failed = true) :
    after.Entry fragment changed launches unblocks where
  blocked_eq := by
    rw [blocked_eq, pending_congr completed_eq]
    exact entry.blocked_eq
  blocked_le := blocked_eq ▸ entry.blocked_le
  leaf := launched_eq ▸ entry.leaf
  unblocked := launched_eq ▸ blocked_eq ▸ entry.unblocked
  launched := by
    rw [launched_eq, outstanding_eq, completed_eq, SortedSet.mem_erase]
    exact fun gone => entry.launched (gone.imp_left And.left)
  exclusive := by
    rw [outstanding_eq, completed_eq, SortedSet.mem_erase]
    exact fun left => entry.exclusive left.1
  answered := by
    rw [launched_eq, outstanding_eq, completed_eq, SortedSet.mem_erase]
    intro launched
    by_cases same : fragment.id = id
    · exact Or.inr (Or.inr (failed (Or.inr same)))
    · rcases entry.answered launched with left | arrived | already
      · exact Or.inl ⟨left, same⟩
      · exact Or.inr (Or.inl arrived)
      · exact Or.inr (Or.inr (failed (Or.inl already)))
  ready := by
    rw [launched_eq, blocked_eq]
    intro notRoot free healthy
    refine entry.ready notRoot free (Bool.eq_false_iff.2 fun already => ?_)
    rw [failed (Or.inl already)] at healthy
    cases healthy
  awaited := by
    rw [blocked_eq]
    exact fun isRoot free => outcome (entry.awaited isRoot free)

/-- **A failure leaves the books right.** -/
theorem Books.markAll (books : run.Books run.agenda.flatten) (sound : run.plan.layout.Sound graph)
    {id : FragmentId} (outstanding : id ∈ run.outstanding) (cause : Cause) :
    (Run.markAll { run with outstanding := run.outstanding.erase id } id cause
      (run.walk id).met).Books run.agenda.flatten := by
  have faultless := books.fault_walk sound (books.outstanding_mem id outstanding)
  have marked := marked_markAll { run with outstanding := run.outstanding.erase id } id cause
    (run.walk id).met
  refine ⟨fun fragment member => ?entries, fun task due => ?due, fun other left => ?outstanding,
    fun other arrived => ?completed, fun values settled => ?valued⟩
  case entries =>
    rw [marked.plan_eq] at member
    obtain ⟨progress, found, entry⟩ := books.entries fragment member
    refine ⟨_, (marked.progress_eq fragment.id).trans (congrArg _ found), ?_⟩
    refine entry.mark marked.completed_eq marked.outstanding_eq (fun settled => ?_) ?_ ?_ ?_
    · rcases marked.outcome with same | ⟨unsettled, _⟩
      · rw [same]
        exact settled
      · exact absurd unsettled settled
    · split <;> rfl
    · split <;> rfl
    · intro failed
      split
      · rfl
      · rename_i unreached
        refine failed.elim (fun already => already) fun same => ?_
        by_contra healthy
        subst same
        exact unreached (mem_walk_self faultless found (Bool.eq_false_iff.2 healthy))
  case due =>
    rw [marked.plan_eq]
    exact books.due_mem task due
  case outstanding =>
    rw [marked.outstanding_eq] at left
    rw [marked.plan_eq]
    exact books.outstanding_mem other (SortedSet.mem_erase.1 left).1
  case completed =>
    rw [marked.completed_eq] at arrived
    rw [marked.plan_eq]
    exact books.completed_mem other arrived
  case valued =>
    rw [marked.plan_eq, marked.completed_eq]
    exact books.valued values (marked.outcome_eq_ok settled)

/-! ## Reports -/

end Run

/-- The cause of failure that a report brings. -/
def Report.cause? (id : FragmentId) : Report α → Option Cause
  | succeeded _ => none
  | failed cause => some cause
  | dropped => some (droppedCause id)

theorem Report.exists_outputs_of_cause?_eq_none {id : FragmentId} {report : Report α}
    (none : report.cause? id = none) : ∃ outputs, report = .succeeded outputs := by
  cases report with
  | succeeded outputs => exact ⟨outputs, rfl⟩
  | failed cause => cases none
  | dropped => cases none

theorem Report.ne_succeeded {id : FragmentId} {report : Report α} {cause : Cause}
    (brings : report.cause? id = some cause) (outputs : List (NodeId × α)) :
    report ≠ .succeeded outputs := by
  rintro rfl
  cases brings

namespace Run

variable {graph : Graph} {run : Run α} {due : List Task} {id : FragmentId} {turn : RunTurn α}

/-- The report of a success is written down and followed up. -/
theorem report_eq_of_success {outputs : List (NodeId × α)}
    (reported : run.report id (.succeeded outputs) = some turn) :
    id ∈ run.outstanding ∧
      turn = succeed { run with outstanding := run.outstanding.erase id } id outputs := by
  unfold Run.report at reported
  split at reported
  · rename_i outstanding
    cases reported
    exact ⟨outstanding, rfl⟩
  · cases reported

/-- Any other report brings a cause of failure. -/
theorem report_eq_of_cause {report : Report α} {cause : Cause}
    (brings : report.cause? id = some cause) (reported : run.report id report = some turn) :
    id ∈ run.outstanding ∧
      turn = fail { run with outstanding := run.outstanding.erase id } id cause := by
  unfold Run.report at reported
  split at reported
  · rename_i outstanding
    cases report with
    | succeeded outputs => cases brings
    | failed given =>
      cases brings
      cases reported
      exact ⟨outstanding, rfl⟩
    | dropped =>
      cases brings
      cases reported
      exact ⟨outstanding, rfl⟩
  · cases reported

/-- There is no report but on what is outstanding. -/
theorem outstanding_of_report {report : Report α} (reported : run.report id report = some turn) :
    id ∈ run.outstanding := by
  by_contra absent
  rw [Run.report, if_neg absent] at reported
  cases reported

/-- What a report does to a run. -/
inductive Answered (before : Run α) (id : FragmentId) :
    Report α → Run α → Option (Job α) → Prop where
  /-- A success is written down, and work follows. -/
  | succeeded {outputs : List (NodeId × α)} {after : Run α} {job : Option (Job α)}
      (worked : (before.received id outputs).Worked after job) :
      Answered before id (.succeeded outputs) after job
  /-- Anything else is a failure. -/
  | failed {report : Report α} {after : Run α} {reached : List FragmentId}
      (failure : ∀ outputs, report ≠ .succeeded outputs)
      (marked : Marked { before with outstanding := before.outstanding.erase id } after reached) :
      Answered before id report after none

/-- What is outstanding is a fragment that was launched and has not completed. -/
theorem Books.of_outstanding (books : run.Books due) (outstanding : id ∈ run.outstanding) :
    ∃ fragment ∈ run.plan.layout.fragments, fragment.id = id ∧ run.Launched id ∧
      id ∉ run.completed := by
  obtain ⟨fragment, member, rfl⟩ := List.mem_map.1 (books.outstanding_mem id outstanding)
  obtain ⟨progress, found, entry⟩ := books.entries fragment member
  have launched := entry.launched (Or.inl outstanding)
  exact ⟨fragment, Layout.mem_fragments_of_ne_root member (entry.unblocked launched).2, rfl,
    ⟨progress, found, launched⟩, entry.exclusive outstanding⟩

/-- **A report on an outstanding fragment meets no fault, and the books are right after
it.** -/
theorem Books.report (books : run.Books run.agenda.flatten) (sound : run.plan.layout.Sound graph)
    {report : Report α} (reported : run.report id report = some turn) :
    ∃ after, turn.run? = some after ∧ after.Books after.agenda.flatten ∧
      run.Answered id report after turn.job? := by
  cases brings : report.cause? id with
  | none =>
    obtain ⟨outputs, rfl⟩ := Report.exists_outputs_of_cause?_eq_none brings
    obtain ⟨outstanding, rfl⟩ := report_eq_of_success reported
    rw [books.succeed_eq sound outstanding]
    obtain ⟨after, same, right, worked⟩ :=
      Books.work (books.received sound outstanding outputs) sound
    exact ⟨after, same, right, .succeeded worked⟩
  | some cause =>
    obtain ⟨outstanding, rfl⟩ := report_eq_of_cause brings reported
    rw [books.fail_eq sound outstanding]
    have marked := marked_markAll { run with outstanding := run.outstanding.erase id } id cause
      (run.walk id).met
    refine ⟨_, rfl, ?_, .failed (Report.ne_succeeded brings) marked⟩
    rw [marked.agenda_eq]
    exact books.markAll sound outstanding cause

end Run

end ValueEngine
