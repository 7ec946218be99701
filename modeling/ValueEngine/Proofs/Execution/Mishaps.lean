import ValueEngine.Proofs.Execution.Evaluation

/-!
# Mishaps

A mishap is a report that a fragment failed, or that its job was dropped. The marks of
a run tell of its mishaps: a fragment is marked exactly if it had a mishap or depends
on one that had. The first mishap reaches the root, which nothing has marked before,
and so its error becomes the outcome; later ones find the root marked. Values become
the outcome only when every fragment has completed, and a fragment with a mishap never
does (`Run.Tracked`).
-/

set_option autoImplicit false

namespace ValueEngine

universe u

open Relation

variable {α : Type u}

/-! ## What has gone wrong -/

/-- The fragment that failed or was dropped, and the cause. -/
def Happening.mishap? : Happening α → Option (FragmentId × Cause)
  | launched _ => none
  | reported id report => (report.cause? id).map fun cause => (id, cause)

/-- The fragments that failed or were dropped, and the causes, in their order. -/
def mishaps (happened : List (Happening α)) : List (FragmentId × Cause) :=
  happened.filterMap Happening.mishap?

section Happened

variable {happened : List (Happening α)} {id : FragmentId} {report : Report α}

@[simp] theorem mishaps_append (happened more : List (Happening α)) :
    mishaps (happened ++ more) = mishaps happened ++ mishaps more :=
  List.filterMap_append

/-- Launches are no mishaps. -/
@[simp] theorem mishaps_launched (job : Option (Job α)) :
    mishaps (job.toList.map .launched) = [] := by
  cases job with
  | none => rfl
  | some job => rfl

@[simp] theorem mishaps_succeeded (id : FragmentId) (outputs : List (NodeId × α)) :
    mishaps [.reported id (.succeeded outputs)] = [] := rfl

theorem mishaps_reported {cause : Cause} (brings : report.cause? id = some cause) :
    mishaps [.reported id report] = [(id, cause)] := by
  simp [mishaps, Happening.mishap?, brings]

end Happened

/-- An error tells of a mishap: it names the fragment with its nodes and the cause, and
lists the nodes of the fragment and of all that depend on it, each once. -/
def Layout.Blames (layout : Layout) (mishap : FragmentId × Cause) (error : OutcomeError) : Prop :=
  ∃ fragment ∈ layout.fragments, fragment.id = mishap.1 ∧ ∃ failed : List NodeId,
    error = .fragment mishap.1 fragment.nodes failed mishap.2 ∧ failed.Nodup ∧
      ∀ node, node ∈ failed ↔ ∃ other ∈ layout.fragments,
        ReflTransGen layout.Feeds mishap.1 other.id ∧ node ∈ other.nodes

namespace Layout

variable {layout : Layout} {graph : Graph}

/-- What depends on a fragment is a fragment or the root. -/
theorem Sound.mem_all_ids_of_reaches (sound : layout.Sound graph) {first last : FragmentId}
    (member : first ∈ layout.all.map Fragment.id) (path : ReflTransGen layout.Feeds first last) :
    last ∈ layout.all.map Fragment.id := by
  induction path with
  | refl => exact member
  | tail _ feeds ih =>
    obtain ⟨fragment, fragmentMember, rfl⟩ := List.mem_map.1 ih
    exact sound.dependents_mem fragment fragmentMember _ ((sound.feeds_iff fragmentMember).1 feeds)

/-- A fragment that the root waits for has no other dependent. -/
theorem Settled.dependents_eq_root (settled : layout.Settled graph) {fragment : Fragment}
    (member : fragment ∈ layout.all) (awaited : FragmentId.root ∈ layout.dependents fragment.id) :
    layout.dependents fragment.id = [FragmentId.root] := by
  rw [settled.toSound.dependents_eq member] at awaited ⊢
  have notRoot : fragment.id ≠ FragmentId.root := by
    intro isRoot
    rw [settled.toSound.eq_of_id member root_mem_all isRoot] at awaited
    exact SortedSet.not_mem_empty _ awaited
  have inside := mem_fragments_of_ne_root member notRoot
  have isTerminal := (settled.linked fragment member layout.root root_mem_all).2 awaited
  have only := settled.faithful.root_only fragment inside isTerminal
  refine List.perm_singleton.1 ((List.perm_ext_iff_of_nodup fragment.dependents.nodup
    (List.nodup_singleton _)).2 fun id => ?_)
  exact (only id).trans List.mem_singleton.symm

end Layout

namespace Run

variable {graph : Graph} {run after : Run α} {id : FragmentId}

/-! ## What is left of calls -/

/-- A step changes nothing of the interrupted calls, and does not take back an outcome. -/
theorem step_keeps {task : Task} {job : Option (Job α)}
    (stepped : run.step task = .ok (after, job)) :
    after.agenda = run.agenda ∧ ∀ outcome, run.outcome = some outcome →
      after.outcome = some outcome := by
  have launched : ∀ (before : Run α) (id : FragmentId) (progress : Progress),
      before.launch id progress = .ok (after, job) →
        after.agenda = before.agenda ∧ after.outcome = before.outcome := by
    intro before id progress sent
    unfold launch at sent
    split at sent
    · cases sent
    · split at sent
      · cases sent
      · cases sent
        exact ⟨rfl, rfl⟩
  unfold step at stepped
  split at stepped
  · cases stepped
  rename_i progress found
  cases task with
  | launch id =>
    obtain ⟨agenda_eq, outcome_eq⟩ := launched run id progress stepped
    exact ⟨agenda_eq, fun outcome settled => outcome_eq.trans settled⟩
  | unblock id =>
    simp only [unblock] at stepped
    split at stepped
    · cases stepped
    split at stepped
    · cases stepped
      exact ⟨rfl, fun _ settled => settled⟩
    split at stepped
    · cases stepped
      exact ⟨complete_agenda _, fun outcome settled => by simp [note, settled]⟩
    split at stepped
    · cases stepped
      exact ⟨rfl, fun _ settled => settled⟩
    · obtain ⟨agenda_eq, outcome_eq⟩ := launched _ id _ stepped
      exact ⟨agenda_eq, fun outcome settled => outcome_eq.trans settled⟩

/-- What is left of a call is what follows the task that launched something. -/
theorem work_keeps {tasks : List Task} (running : (run.work tasks).run? = some after) :
    (∀ left ∈ after.agenda, left ∈ run.agenda ∨ ∃ done task, tasks = done ++ task :: left) ∧
      ∀ outcome, run.outcome = some outcome → after.outcome = some outcome := by
  induction tasks generalizing run with
  | nil =>
    cases running
    exact ⟨fun left member => Or.inl member, fun _ settled => settled⟩
  | cons task rest ih =>
    unfold work at running
    split at running
    · cases running
    · rename_i next stepped
      obtain ⟨agenda_eq, kept⟩ := step_keeps stepped
      obtain ⟨leaves, keptToo⟩ := ih running
      refine ⟨fun left member => ?_, fun outcome settled => keptToo outcome (kept outcome settled)⟩
      rcases leaves left member with early | ⟨done, last, split⟩
      · exact Or.inl (agenda_eq ▸ early)
      · exact Or.inr ⟨task :: done, last, by rw [split, List.cons_append]⟩
    · rename_i next job stepped
      obtain ⟨agenda_eq, kept⟩ := step_keeps stepped
      cases running
      refine ⟨fun left member => ?_, kept⟩
      rcases List.mem_cons.1 member with rfl | early
      · exact Or.inr ⟨[], task, rfl⟩
      · exact Or.inl (agenda_eq ▸ early)

/-- Nothing that is left of calls is about the root. -/
def Rootless (run : Run α) : Prop := ∀ tasks ∈ run.agenda, Task.unblock FragmentId.root ∉ tasks

/-- Work leaves nothing about the root behind, if it is about the root alone or not at
all. -/
theorem Rootless.work {tasks : List Task} (rootless : run.Rootless)
    (alone : .unblock FragmentId.root ∈ tasks → tasks = [.unblock FragmentId.root])
    (running : (run.work tasks).run? = some after) : after.Rootless := by
  intro left member due
  rcases (work_keeps running).1 left member with early | ⟨done, task, split⟩
  · exact rootless left early due
  · have whole := alone (split ▸ List.mem_append_right done (List.mem_cons_of_mem task due))
    rw [whole] at split
    have short := congrArg List.length split
    have long := List.length_pos_of_mem due
    simp only [List.length_append, List.length_cons, List.length_nil] at short
    omega

/-! ## Reports -/

/-- A failure marks what it reaches, besides what is marked already. -/
theorem Marked.failed_iff {reached : List FragmentId} (marked : run.Marked after reached) :
    after.Failed id ↔
      run.Failed id ∨ id ∈ reached ∧ ∃ progress, run.progress.get? id = some progress := by
  rw [Failed, Failed, marked.progress_eq]
  cases run.progress.get? id with
  | none => simp
  | some progress =>
    by_cases met : id ∈ reached
    · simp [met]
    · simp [met]

/-- What a failure settles: the outcome, when it reaches the root of a run without one. -/
theorem outcome_markAll (run : Run α) (id : FragmentId) (cause : Cause) (met : List FragmentId) :
    (run.markAll id cause met).outcome =
      if FragmentId.root ∈ met then
        some (run.outcome.getD
          (.error (.fragment id (run.nodesOf id) (met.flatMap run.nodesOf) cause)))
      else run.outcome := by
  obtain ⟨_, outcome_eq⟩ := marked_foldl met run
  unfold markAll
  dsimp only
  split
  · rw [settle_eq, outcome_eq]
  · exact outcome_eq

theorem nodesOf_eq (sound : run.plan.layout.Sound graph) {fragment : Fragment}
    (member : fragment ∈ run.plan.layout.all) : run.nodesOf fragment.id = fragment.nodes := by
  simp [nodesOf, sound.fragment?_eq member]

/-- The nodes that an error lists. -/
theorem mem_nodesOf (sound : run.plan.layout.Sound graph) {node : NodeId} :
    node ∈ run.nodesOf id ↔
      ∃ fragment ∈ run.plan.layout.fragments, fragment.id = id ∧ node ∈ fragment.nodes := by
  constructor
  · intro member
    unfold nodesOf at member
    cases found : run.plan.layout.fragment? id with
    | none => simp [found] at member
    | some fragment =>
      obtain ⟨inside, same⟩ := Layout.mem_of_fragment? found
      simp only [found, Option.map_some, Option.getD_some] at member
      rcases List.mem_cons.1 inside with rfl | inside
      · cases member
      · exact ⟨fragment, inside, same, member⟩
  · rintro ⟨fragment, inside, rfl, member⟩
    rwa [nodesOf_eq sound (Layout.mem_all_of_mem inside)]

/-- No node is listed twice. -/
theorem nodup_flatMap_nodesOf (sound : run.plan.layout.Sound graph) {reached : List FragmentId}
    (nodup : reached.Nodup) : (reached.flatMap run.nodesOf).Nodup := by
  refine List.nodup_flatMap.2 ⟨fun id _ => ?_, nodup.imp fun differs node inFirst inSecond => ?_⟩
  · cases found : run.plan.layout.fragment? id with
    | none => simp [nodesOf, found]
    | some fragment =>
      obtain ⟨inside, _⟩ := Layout.mem_of_fragment? found
      simp only [nodesOf, found, Option.map_some, Option.getD_some]
      rcases List.mem_cons.1 inside with rfl | inside
      · exact List.nodup_nil
      · exact sound.fragment_nodup inside
  · obtain ⟨first, firstMember, rfl, holds⟩ := (mem_nodesOf sound).1 inFirst
    obtain ⟨second, secondMember, rfl, holdsToo⟩ := (mem_nodesOf sound).1 inSecond
    exact differs (congrArg Fragment.id
      (sound.eq_of_mem_nodes firstMember secondMember holds holdsToo))

/-! ## What a run knows of its mishaps -/

/-- What the marks and the outcome of a run tell of what has happened. -/
structure Tracked (layout : Layout) (happened : List (Happening α)) (run : Run α) : Prop where
  /-- A fragment is marked exactly if it had a mishap or depends on one that had. -/
  failed_iff : ∀ id, run.Failed id ↔
    ∃ mishap ∈ mishaps happened, ReflTransGen layout.Feeds mishap.1 id
  /-- A fragment that had a mishap has been answered for, and not with values. -/
  answered : ∀ mishap ∈ mishaps happened, run.Launched mishap.1 ∧
    mishap.1 ∉ run.outstanding ∧ mishap.1 ∉ run.completed
  /-- The first mishap is the outcome. -/
  blamed : ∀ mishap, (mishaps happened).head? = some mishap →
    ∃ error, run.outcome = some (.error error) ∧ layout.Blames mishap error
  /-- Without a mishap there is no error. -/
  unblamed : mishaps happened = [] → ∀ error, run.outcome ≠ some (.error error)
  /-- Nothing that is left of calls is about the root. -/
  rootless : run.Rootless

variable {layout : Layout} {plan : Plan} {happened : List (Happening α)} {due : List Task}

/-- A run knows as much after some work as before it. -/
theorem Tracked.worked {job : Option (Job α)} (tracked : Tracked layout happened run)
    (worked : run.Worked after job) (rootless : after.Rootless) :
    Tracked layout (happened ++ job.toList.map .launched) after := by
  have same : mishaps (happened ++ job.toList.map .launched) = mishaps happened := by simp
  refine ⟨?failed_iff, ?answered, ?blamed, ?unblamed, rootless⟩
  case failed_iff =>
    intro id
    rw [same, worked.failed]
    exact tracked.failed_iff id
  case answered =>
    rw [same]
    intro mishap member
    obtain ⟨launched, answered, incomplete⟩ := tracked.answered mishap member
    refine ⟨(worked.launched _).2 (Or.inl launched), fun outstanding => ?_,
      worked.completed_eq ▸ incomplete⟩
    rcases (worked.outstanding _).1 outstanding with early | ⟨sent, isJob, equal⟩
    · exact answered early
    · exact worked.fresh sent isJob (equal ▸ launched)
  case blamed =>
    rw [same]
    intro mishap first
    obtain ⟨error, settled, blames⟩ := tracked.blamed mishap first
    exact ⟨error, (worked.outcome_eq (settled ▸ Option.some_ne_none _)).trans settled, blames⟩
  case unblamed =>
    rw [same]
    intro nothing error settled
    rcases worked.outcome with ⟨kept, _⟩ | ⟨_, now, _⟩
    · exact tracked.unblamed nothing error (kept.symm.trans settled)
    · cases now.symm.trans settled

/-- A success is no mishap. -/
theorem Tracked.received (tracked : Tracked layout happened run)
    (outstanding : id ∈ run.outstanding) (outputs : List (NodeId × α)) :
    Tracked layout (happened ++ [.reported id (.succeeded outputs)]) (run.received id outputs) := by
  have same : mishaps (happened ++ [.reported id (.succeeded outputs)]) = mishaps happened := by
    simp
  refine ⟨same.symm ▸ tracked.failed_iff, ?answered, same.symm ▸ tracked.blamed,
    same.symm ▸ tracked.unblamed, tracked.rootless⟩
  case answered =>
    rw [same]
    intro mishap member
    obtain ⟨launched, answered, incomplete⟩ := tracked.answered mishap member
    refine ⟨launched, fun left => answered (SortedSet.mem_erase.1 left).1, fun arrived => ?_⟩
    rcases SortedSet.mem_insert.1 arrived with equal | early
    · exact answered (equal ▸ outstanding)
    · exact incomplete early

/-- Whatever depends on a marked fragment is marked. -/
theorem Tracked.closed (tracked : Tracked layout happened run) (books : run.Books due)
    (plan_eq : run.plan.layout = layout) (sound : layout.Sound graph) (first : FragmentId)
    (marked : first ∉ run.healthy) (second : FragmentId) (feeds : layout.Feeds first second) :
    second ∉ run.healthy := by
  obtain ⟨producer, member, rfl, _⟩ := sound.cases_of_feeds feeds
  obtain ⟨progress, found, _⟩ := books.entries producer (plan_eq ▸ Layout.mem_all_of_mem member)
  obtain ⟨mishap, earlier, path⟩ :=
    (tracked.failed_iff producer.id).1 (failed_of_not_mem_healthy found marked)
  exact ((tracked.failed_iff second).2 ⟨mishap, earlier, path.tail feeds⟩).not_mem_healthy

/-- Before the first mishap nothing is marked. -/
theorem Tracked.mem_healthy (tracked : Tracked layout happened run) (books : run.Books due)
    (unharmed : mishaps happened = []) (member : id ∈ run.plan.layout.all.map Fragment.id) :
    id ∈ run.healthy := by
  obtain ⟨fragment, fragmentMember, rfl⟩ := List.mem_map.1 member
  obtain ⟨progress, found, _⟩ := books.entries fragment fragmentMember
  by_contra marked
  obtain ⟨mishap, earlier, _⟩ :=
    (tracked.failed_iff fragment.id).1 (failed_of_not_mem_healthy found marked)
  rw [unharmed] at earlier
  cases earlier

/-- What a walk meets: the healthy fragments that depend on its start. -/
theorem Tracked.mem_walk_iff (tracked : Tracked layout happened run) (books : run.Books due)
    (plan_eq : run.plan.layout = layout) (sound : layout.Sound graph)
    (outstanding : id ∈ run.outstanding) {other : FragmentId} :
    other ∈ (run.walk id).met ↔ other ∈ run.healthy ∧ ReflTransGen layout.Feeds id other := by
  have faultless : (run.walk id).fault = none :=
    books.fault_walk (plan_eq ▸ sound) (books.outstanding_mem id outstanding)
  refine (mem_cone_iff faultless (nodup_healthy run) ?_).trans (by rw [plan_eq])
  rw [plan_eq]
  exact tracked.closed books plan_eq sound

/-- As long as something is outstanding and there was no mishap, there is no outcome. -/
theorem Tracked.outcome_eq_none (tracked : Tracked run.plan.layout happened run)
    (books : run.Books due) (sound : run.plan.layout.Sound graph)
    (unharmed : mishaps happened = []) (outstanding : id ∈ run.outstanding) :
    run.outcome = none := by
  obtain ⟨fragment, inside, rfl, _, incomplete⟩ := books.of_outstanding outstanding
  cases settled : run.outcome with
  | none => rfl
  | some outcome =>
    cases outcome with
    | error error => exact absurd settled (tracked.unblamed unharmed error)
    | ok values => exact absurd settled (books.unvalued sound inside incomplete values)

/-- The first mishap makes an outcome: the walk from it meets all that depends on it, the root
included. -/
theorem Tracked.blames_markAll (tracked : Tracked run.plan.layout happened run)
    (books : run.Books due) (sound : run.plan.layout.Sound graph)
    (outstanding : id ∈ run.outstanding) (cause : Cause) (unharmed : mishaps happened = []) :
    ∃ error, (markAll { run with outstanding := run.outstanding.erase id } id cause
        (run.walk id).met).outcome = some (.error error) ∧
      run.plan.layout.Blames (id, cause) error := by
  have unsettled := tracked.outcome_eq_none books sound unharmed outstanding
  obtain ⟨fragment, inside, rfl, _⟩ := books.of_outstanding outstanding
  have member := Layout.mem_all_of_mem inside
  let met := (run.walk fragment.id).met
  have met_iff : ∀ other, other ∈ met ↔
      ReflTransGen run.plan.layout.Feeds fragment.id other := by
    intro other
    refine (tracked.mem_walk_iff books rfl sound outstanding).trans ?_
    refine and_iff_right_of_imp fun path => tracked.mem_healthy books unharmed ?_
    exact sound.mem_all_ids_of_reaches (List.mem_map_of_mem member) path
  refine ⟨.fragment fragment.id fragment.nodes (met.flatMap run.nodesOf) cause, ?_,
    fragment, inside, rfl, met.flatMap run.nodesOf, rfl, ?_, fun node => ?_⟩
  · have rootMet : FragmentId.root ∈ met := (met_iff _).2 (sound.reaches_root inside)
    calc (markAll { run with outstanding := run.outstanding.erase fragment.id } fragment.id cause
          met).outcome
      _ = some (run.outcome.getD (.error (.fragment fragment.id (run.nodesOf fragment.id)
            (met.flatMap run.nodesOf) cause))) :=
        (outcome_markAll _ fragment.id cause met).trans (if_pos rootMet)
      _ = _ := by rw [unsettled, Option.getD_none, nodesOf_eq sound member]
  · exact nodup_flatMap_nodesOf sound (nodup_cone (nodup_healthy run))
  · rw [List.mem_flatMap]
    constructor
    · rintro ⟨other, met, listed⟩
      obtain ⟨owner, ownerMember, rfl, holds⟩ := (mem_nodesOf sound).1 listed
      exact ⟨owner, ownerMember, (met_iff owner.id).1 met, holds⟩
    · rintro ⟨other, otherMember, path, holds⟩
      exact ⟨other.id, (met_iff other.id).2 path,
        (mem_nodesOf sound).2 ⟨other, otherMember, rfl, holds⟩⟩

/-- After a mishap the marks tell of one mishap more. -/
theorem Tracked.failed_iff_snoc (tracked : Tracked layout happened run) (books : run.Books due)
    (plan_eq : run.plan.layout = layout) (sound : layout.Sound graph)
    (outstanding : id ∈ run.outstanding) (marked : Marked
      { run with outstanding := run.outstanding.erase id } after (run.walk id).met)
    (cause : Cause) (other : FragmentId) :
    after.Failed other ↔
      ∃ mishap ∈ mishaps happened ++ [(id, cause)], ReflTransGen layout.Feeds mishap.1 other := by
  have met_iff : other ∈ (run.walk id).met ↔
      other ∈ run.healthy ∧ ReflTransGen layout.Feeds id other :=
    tracked.mem_walk_iff books plan_eq sound outstanding
  rw [marked.failed_iff, met_iff]
  constructor
  · rintro (early | ⟨⟨_, path⟩, _⟩)
    · obtain ⟨mishap, member, path⟩ := (tracked.failed_iff other).1 early
      exact ⟨mishap, List.mem_append_left _ member, path⟩
    · exact ⟨(id, cause), by simp, path⟩
  · rintro ⟨mishap, member, path⟩
    rcases List.mem_append.1 member with earlier | now
    · exact Or.inl ((tracked.failed_iff other).2 ⟨mishap, earlier, path⟩)
    · obtain rfl := List.mem_singleton.1 now
      have inAll := sound.mem_all_ids_of_reaches (plan_eq ▸ books.outstanding_mem id outstanding) path
      obtain ⟨reached, reachedMember, rfl⟩ := List.mem_map.1 inAll
      obtain ⟨progress, found, _⟩ := books.entries reached (plan_eq.symm ▸ reachedMember)
      by_cases healthy : reached.id ∈ run.healthy
      · exact Or.inr ⟨⟨healthy, path⟩, progress, found⟩
      · exact Or.inl (failed_of_not_mem_healthy found healthy)

/-- A mishap is tracked. -/
theorem Tracked.failed {report : Report α} {cause : Cause} (tracked : Tracked layout happened run)
    (books : run.Books due) (plan_eq : run.plan.layout = layout) (sound : layout.Sound graph)
    (outstanding : id ∈ run.outstanding) (brings : report.cause? id = some cause) :
    Tracked layout (happened ++ [.reported id report])
      (markAll { run with outstanding := run.outstanding.erase id } id cause
        (run.walk id).met) := by
  have marked := marked_markAll { run with outstanding := run.outstanding.erase id } id cause
    (run.walk id).met
  have grown : mishaps (happened ++ [.reported id report]) = mishaps happened ++ [(id, cause)] := by
    rw [mishaps_append, mishaps_reported brings]
  refine ⟨?failed_iff, ?answered, ?blamed, ?unblamed, ?rootless⟩
  case failed_iff =>
    rw [grown]
    exact tracked.failed_iff_snoc books plan_eq sound outstanding marked cause
  case answered =>
    rw [grown, marked.outstanding_eq, marked.completed_eq]
    intro mishap member
    rw [marked.launched_iff]
    rcases List.mem_append.1 member with earlier | now
    · obtain ⟨launched, answered, incomplete⟩ := tracked.answered mishap earlier
      exact ⟨launched, fun left => answered (SortedSet.mem_erase.1 left).1, incomplete⟩
    · obtain rfl := List.mem_singleton.1 now
      obtain ⟨_, _, _, launched, incomplete⟩ := books.of_outstanding outstanding
      exact ⟨launched, fun left => (SortedSet.mem_erase.1 left).2 rfl, incomplete⟩
  case blamed =>
    rw [grown]
    intro mishap first
    cases earlier : mishaps happened with
    | nil =>
      rw [earlier, List.nil_append, List.head?_cons, Option.some.injEq] at first
      subst first
      subst plan_eq
      exact tracked.blames_markAll books sound outstanding cause earlier
    | cons head rest =>
      rw [earlier, List.cons_append, List.head?_cons, Option.some.injEq] at first
      subst first
      obtain ⟨error, settled, blames⟩ := tracked.blamed head (by rw [earlier, List.head?_cons])
      refine ⟨error, ?_, blames⟩
      rcases marked.outcome with kept | ⟨unsettled, _⟩
      · exact kept.trans settled
      · cases unsettled.symm.trans settled
  case unblamed =>
    rw [grown]
    exact fun nothing => absurd nothing (by simp)
  case rootless =>
    intro tasks member
    rw [marked.agenda_eq] at member
    exact tracked.rootless tasks member

/-! ## Histories -/

/-- A run knows of no mishaps before it starts. -/
theorem tracked_ofPlan (graph : Graph) (plan : Plan) :
    Tracked layout [] (ofPlan graph plan : Run α) where
  failed_iff id := iff_of_false (not_failed_ofPlan id) (by simp [mishaps])
  answered := nofun
  blamed := nofun
  unblamed _ := nofun
  rootless := nofun

/-- A start leaves nothing about the root behind. -/
theorem rootless_start (running : (ofPlan graph plan : Run α).start.run? = some after) :
    after.Rootless := by
  unfold Run.start at running
  split at running
  · cases running
    unfold Rootless
    rw [complete_agenda]
    exact fun _ member => absurd member List.not_mem_nil
  · have rootless : (ofPlan graph plan : Run α).Rootless := fun _ member =>
      absurd member List.not_mem_nil
    refine rootless.work (fun due => ?_) running
    obtain ⟨_, _, same⟩ := List.mem_map.1 due
    cases same

/-- An interrupted call that goes on leaves nothing about the root behind. -/
theorem Rootless.resume (rootless : run.Rootless) (running : run.resume.run? = some after) :
    after.Rootless := by
  unfold Run.resume at running
  split at running
  · cases running
    exact rootless
  · rename_i rest outer interrupted
    have outerRootless : Rootless { run with agenda := outer } := fun tasks member =>
      rootless tasks (interrupted ▸ List.mem_cons_of_mem _ member)
    refine outerRootless.work (fun due => ?_) running
    exact absurd due (rootless rest (interrupted ▸ List.mem_cons_self))

/-- The root is told of a success by the last task of the call, if at all. -/
theorem Rootless.received (rootless : run.Rootless) (settled : run.plan.layout.Settled graph)
    (books : run.Books due) (outstanding : id ∈ run.outstanding) {outputs : List (NodeId × α)}
    (running : ((run.received id outputs).work
      ((run.plan.layout.dependents id).map .unblock)).run? = some after) :
    after.Rootless := by
  have receivedRootless : (run.received id outputs).Rootless := rootless
  refine receivedRootless.work (fun told => ?_) running
  obtain ⟨producer, member, rfl⟩ := List.mem_map.1 (books.outstanding_mem id outstanding)
  obtain ⟨dependent, awaited, isRoot⟩ := List.mem_map.1 told
  rw [settled.dependents_eq_root member (Task.unblock.inj isRoot ▸ awaited)]
  rfl

/-- **At every turn of a history the marks and the outcome tell of the mishaps.** -/
theorem History.tracked {turn : RunTurn α} (settled : plan.layout.Settled graph)
    (history : (ofPlan graph plan).History happened turn) :
    ∃ run, turn.run? = some run ∧ run.Books run.agenda.flatten ∧ Recorded plan happened run ∧
      Tracked plan.layout happened run := by
  have sound := settled.toSound
  suffices tracked : ∀ run, turn.run? = some run → Tracked plan.layout happened run by
    obtain ⟨run, running, books, recorded⟩ := history.recorded sound
    exact ⟨run, running, books, recorded, tracked run running⟩
  induction history with
  | start =>
    intro run running
    obtain ⟨after, same, _, worked⟩ := Books.start (α := α) sound
    cases running.symm.trans same
    exact (tracked_ofPlan graph plan).worked worked (rootless_start running)
  | @report happened turn next before id report history running accepted ih =>
    intro run reached
    obtain ⟨_, same, books, recorded⟩ := history.recorded sound
    cases running.symm.trans same
    have plan_eq : before.plan.layout = plan.layout := congrArg Plan.layout recorded.plan_eq
    have earlier := ih before running
    rw [List.append_cons]
    cases brings : report.cause? id with
    | some cause =>
      obtain ⟨outstanding, rfl⟩ := report_eq_of_cause brings accepted
      rw [books.fail_eq (plan_eq ▸ sound) outstanding] at reached ⊢
      cases reached
      rw [RunTurn.shown, RunTurn.job?, Option.toList_none, List.map_nil, List.append_nil]
      exact earlier.failed books plan_eq sound outstanding brings
    | none =>
      obtain ⟨outputs, rfl⟩ := Report.exists_outputs_of_cause?_eq_none brings
      obtain ⟨outstanding, rfl⟩ := report_eq_of_success accepted
      rw [books.succeed_eq (plan_eq ▸ sound) outstanding] at reached ⊢
      obtain ⟨after, same, _, worked⟩ :=
        Books.work (books.received (plan_eq ▸ sound) outstanding outputs) (plan_eq ▸ sound)
      cases reached.symm.trans same
      exact (earlier.received outstanding outputs).worked worked
        (earlier.rootless.received (plan_eq ▸ settled) books outstanding reached)
  | @resume happened turn before history running ih =>
    intro run reached
    obtain ⟨_, same, books, recorded⟩ := history.recorded sound
    cases running.symm.trans same
    have plan_eq : before.plan.layout = plan.layout := congrArg Plan.layout recorded.plan_eq
    have earlier := ih before running
    obtain ⟨after, same, _, worked⟩ := books.resume (plan_eq ▸ sound)
    cases reached.symm.trans same
    exact earlier.worked worked (earlier.rootless.resume reached)

end Run

end ValueEngine
