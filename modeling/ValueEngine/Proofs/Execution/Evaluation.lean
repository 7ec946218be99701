import ValueEngine.Proofs.Execution.History
import ValueEngine.Proofs.Graph.Evaluation

/-!
# Runs compute what direct evaluation does

When every job is run and reported on as it came out, the values reported so far
solve the graph, and they are the values of the nodes of the completed fragments
(`Run.Evaluated`). A job goes out with the values of its outer inputs, since the
fragments that hold them have completed, so it never misses one.

A run is settled with values only when all fragments have completed. When the graph
has a solution no job fails, and then nothing but a launch or a report can be missing
until everything has completed. So the outcome is that of direct evaluation in any
order, whatever the plan and the order of the reports (`Plan.exists_evaluates`).
-/

set_option autoImplicit false

namespace ValueEngine

universe u

variable {α : Type u}

/-- Every report is what comes of running the job that went out. -/
def RunBy (graph : Graph) (invoker : Invoker α) (happened : List (Happening α)) : Prop :=
  ∀ job, .launched job ∈ happened → ∀ report, .reported job.fragment report ∈ happened →
    report = job.run graph invoker

theorem RunBy.mono {graph : Graph} {invoker : Invoker α} {happened more : List (Happening α)}
    (runBy : RunBy graph invoker more) (subset : happened ⊆ more) :
    RunBy graph invoker happened :=
  fun job sent report answered => runBy job (subset sent) report (subset answered)

namespace Layout.Sound

variable {layout : Layout} {graph : Graph} (sound : layout.Sound graph)
include sound

/-- The input of a node is in its fragment or in an input of it. -/
theorem exists_fragment_of_input {fragment : Fragment} (member : fragment ∈ layout.fragments)
    {node input : NodeId} (inside : node ∈ fragment.nodes) (consumes : input ∈ graph.inputs node) :
    input ∈ fragment.nodes ∨
      ∃ other ∈ layout.fragments, input ∈ other.nodes ∧ other.id ∈ fragment.inputs := by
  have feeds := Graph.mem_inputs_iff_mem_dependents.1 consumes
  obtain ⟨other, otherMember, holds⟩ :=
    sound.exists_fragment (Graph.mem_nodeIds_of_mem_dependents feeds).1
  by_cases same : other.id = fragment.id
  · have isFragment := sound.eq_of_id (mem_all_of_mem otherMember) (mem_all_of_mem member) same
    exact Or.inl (isFragment ▸ holds)
  · exact Or.inr ⟨other, otherMember, holds,
      (sound.consumes other otherMember fragment member).2 ⟨same, input, holds, node, inside, feeds⟩⟩

end Layout.Sound

namespace Run

/-! ## The jobs that go out -/

/-- A job fits a run: it has the nodes of its fragment and the values of their outer
inputs. -/
structure Fits (run : Run α) (graph : Graph) (job : Job α) : Prop where
  nodes_eq : ∃ fragment ∈ run.plan.layout.fragments,
    fragment.id = job.fragment ∧ fragment.nodes = job.nodes
  inputs : ∀ node ∈ job.nodes, ∀ input ∈ graph.inputs node, input ∈ job.nodes ∨
    ∃ value, (SortedMap.ofList job.inputs).get? input = some value
  agrees : ∀ node value, (SortedMap.ofList job.inputs).get? node = some value →
    run.gathered.outputs.get? node = some value

/-- What holds of a run when all reports came of running the jobs. -/
structure Evaluated (graph : Graph) (invoker : Invoker α) (happened : List (Happening α))
    (run : Run α) : Prop where
  /-- The graph stays. -/
  graph_eq : run.graph = graph
  /-- The values reported so far solve the graph. -/
  solves : graph.Solves invoker run.gathered.outputs
  /-- They are the values of the nodes of completed fragments. -/
  known_iff : ∀ node, (∃ value, run.gathered.outputs.get? node = some value) ↔
    ∃ fragment ∈ run.plan.layout.fragments, fragment.id ∈ run.completed ∧ node ∈ fragment.nodes
  /-- Every job that went out fits the run. -/
  fits : ∀ job, .launched job ∈ happened → run.Fits graph job
  /-- No job misses a value. -/
  complete : ∀ job, .launched job ∈ happened → ∀ input node,
    job.run graph invoker ≠ .failed (missingCause input node)
  /-- Nothing fails when the graph has a solution. -/
  healthy : graph.Solvable invoker →
    (∀ id, ¬ run.Failed id) ∧ ∀ error, run.outcome ≠ some (.error error)

variable {graph : Graph} {plan : Plan} {invoker : Invoker α} {happened : List (Happening α)}
  {run after : Run α}

/-- A job that goes out when the inputs of its fragment have completed fits the run. -/
theorem Evaluated.fits_jobFor (evaluated : Evaluated graph invoker happened run)
    (sound : run.plan.layout.Sound graph) (unvalued : run.Unvalued) {fragment : Fragment}
    (member : fragment ∈ run.plan.layout.fragments)
    (supplied : ∀ input ∈ fragment.inputs, input ∈ run.completed) :
    run.Fits graph (run.jobFor fragment) where
  nodes_eq := ⟨fragment, member, rfl, rfl⟩
  inputs := by
    intro node inside input consumes
    by_cases inner : input ∈ fragment.nodes
    · exact Or.inl inner
    obtain ⟨other, otherMember, holds, feeds⟩ :=
      (sound.exists_fragment_of_input member inside consumes).resolve_left inner
    obtain ⟨value, known⟩ :=
      (evaluated.known_iff input).2 ⟨other, otherMember, supplied _ feeds, holds⟩
    have outer : input ∈ externalInputs run.graph fragment := by
      refine SortedSet.mem_filter.2 ⟨SortedSet.mem_ofList.2 ?_, decide_eq_true inner⟩
      exact List.mem_flatMap.2 ⟨node, inside, evaluated.graph_eq.symm ▸ consumes⟩
    have given : (input, value) ∈ (run.jobFor fragment).inputs :=
      List.mem_filterMap.2 ⟨input, outer, by rw [← unvalued.outputs_eq, known]; rfl⟩
    exact Or.inr (SortedMap.exists_get?_insertAll (List.mem_map_of_mem given))
  agrees := by
    intro node value found
    rcases SortedMap.mem_of_get?_insertAll found with listed | absent
    · obtain ⟨input, _, given⟩ := List.mem_filterMap.1 listed
      obtain ⟨known, present, same⟩ := Option.map_eq_some_iff.1 given
      cases same
      rw [unvalued.outputs_eq]
      exact present
    · cases absent

/-- A job that fits has what it needs, as long as its fragment has not completed. -/
theorem Evaluated.supplied (evaluated : Evaluated graph invoker happened run)
    (sound : run.plan.layout.Sound graph) (acyclic : graph.Acyclic) {job : Job α}
    (fits : run.Fits graph job) (incomplete : job.fragment ∉ run.completed) :
    Supplied graph (SortedMap.ofList job.inputs) run.gathered.outputs job.nodes := by
  obtain ⟨fragment, member, same, nodes_eq⟩ := fits.nodes_eq
  rw [← nodes_eq]
  refine ⟨fun node => sound.mem_nodeIds member, sound.fragment_nodup member, ?_, fits.agrees, ?_⟩
  · intro before node after split input consumes
    have inside : node ∈ fragment.nodes := split ▸ List.mem_append_right _ List.mem_cons_self
    rcases fits.inputs node (nodes_eq ▸ inside) input consumes with inner | known
    · exact Or.inl (sound.mem_before acyclic member split consumes (nodes_eq.symm ▸ inner))
    · exact Or.inr known
  · intro node inside
    by_contra present
    obtain ⟨other, otherMember, completed, holds⟩ :=
      (evaluated.known_iff node).1 (Option.ne_none_iff_exists'.1 present)
    rw [sound.eq_of_mem_nodes otherMember member holds inside, same] at completed
    exact incomplete completed

/-- What running a job that fits comes to: values that go well with those of the run,
or a failure of a graph without a solution, which is no missing value. -/
theorem Evaluated.run_job (evaluated : Evaluated graph invoker happened run)
    (sound : run.plan.layout.Sound graph) (acyclic : graph.Acyclic) {job : Job α}
    (fits : run.Fits graph job) (incomplete : job.fragment ∉ run.completed) :
    (∃ outputs, job.run graph invoker = .succeeded outputs ∧ outputs.map Prod.fst = job.nodes ∧
        graph.Solves invoker (run.gathered.outputs.insertAll outputs)) ∨
      ∃ cause, job.run graph invoker = .failed cause ∧ ¬ graph.Solvable invoker ∧
        ∀ input node, cause ≠ missingCause input node := by
  obtain ⟨order, _, isOrder⟩ := acyclic.exists_executionOrder
  rcases invokeAll_spec isOrder (evaluated.supplied sound acyclic fits incomplete)
    evaluated.solves with ⟨outputs, invoked, positions, solves⟩ | ⟨cause, invoked, unsolvable, known⟩
  · exact Or.inl ⟨outputs, by rw [Job.run, invoked], positions, solves⟩
  · exact Or.inr ⟨cause, by rw [Job.run, invoked], unsolvable, known⟩

/-! ## Everything completes -/

/-- When nothing is outstanding or due and nothing has failed, all fragments have
completed. -/
theorem Books.all_completed_of_idle (books : run.Books []) (sound : run.plan.layout.Sound graph)
    (idle : ∀ id, id ∉ run.outstanding) (healthy : ∀ id, ¬ run.Failed id) {fragment : Fragment}
    (member : fragment ∈ run.plan.layout.fragments) : fragment.id ∈ run.completed := by
  obtain ⟨rank, rises⟩ := sound.ranked
  induction height : rank fragment.id using Nat.strongRecOn generalizing fragment with
  | ind height ih =>
    obtain ⟨progress, found, entry⟩ := books.entries fragment (Layout.mem_all_of_mem member)
    have supplied : run.pending fragment = 0 := by
      refine pending_eq_zero_iff.2 fun input feeds => ?_
      obtain ⟨producer, producerMember, rfl⟩ := Layout.mem_ids_iff.1
        (sound.inputs_mem fragment (Layout.mem_all_of_mem member) input feeds)
      exact ih _ (height ▸ rises fragment member _ feeds) producerMember rfl
    have unfailed : progress.failed = false :=
      Bool.eq_false_iff.2 fun failed => healthy fragment.id ⟨progress, found, failed⟩
    have free : progress.blocked = 0 := by
      rw [entry.blocked_eq, supplied, List.count_nil]
    have launched : progress.launched = true :=
      (entry.ready (sound.id_ne_root member) free unfailed).resolve_right (by simp)
    rcases entry.answered launched with still | completed | failed
    · exact absurd still (idle fragment.id)
    · exact completed
    · rw [unfailed] at failed
      cases failed

/-- When nothing is outstanding or due and nothing has failed, the run is settled. -/
theorem Books.outcome_of_idle (books : run.Books run.agenda.flatten)
    (sound : run.plan.layout.Sound graph) (nothing : run.outstanding = ∅)
    (nothingLeft : run.agenda.flatten = []) (healthy : ∀ id, ¬ run.Failed id) :
    run.outcome ≠ none := by
  rw [nothingLeft] at books
  obtain ⟨progress, _, entry⟩ := books.entries run.plan.layout.root Layout.root_mem_all
  have supplied : run.pending run.plan.layout.root = 0 := by
    refine pending_eq_zero_iff.2 fun id awaited => ?_
    obtain ⟨fragment, member, rfl⟩ :=
      Layout.mem_ids_iff.1 (sound.inputs_mem _ Layout.root_mem_all id awaited)
    exact books.all_completed_of_idle sound
      (fun id => nothing ▸ SortedSet.not_mem_empty id) healthy member
  exact entry.awaited rfl (by rw [entry.blocked_eq, supplied, List.count_nil])

/-! ## Histories -/

/-- A job goes on to fit a run whose values grow. -/
theorem Fits.mono {job : Job α} (fits : run.Fits graph job) (plan_eq : after.plan = run.plan)
    (grows : ∀ node value, run.gathered.outputs.get? node = some value →
      after.gathered.outputs.get? node = some value) : after.Fits graph job where
  nodes_eq := plan_eq.symm ▸ fits.nodes_eq
  inputs := fits.inputs
  agrees node value known := grows node value (fits.agrees node value known)

/-- Work keeps a run evaluated. -/
theorem Evaluated.worked {job : Option (Job α)} (evaluated : Evaluated graph invoker happened run)
    (worked : run.Worked after job) (sound : run.plan.layout.Sound graph)
    (acyclic : graph.Acyclic) :
    Evaluated graph invoker (happened ++ job.toList.map .launched) after := by
  have grows : ∀ node value, run.gathered.outputs.get? node = some value →
      after.gathered.outputs.get? node = some value := by
    rw [worked.gathered_eq]
    exact fun _ _ known => known
  have sent : ∀ other, .launched other ∈ job.toList.map (Happening.launched (α := α)) →
      run.Fits graph other ∧ other.fragment ∉ run.completed := by
    intro other listed
    obtain ⟨same, member, equal⟩ := List.mem_map.1 listed
    cases equal
    have isJob := Option.mem_toList.1 member
    obtain ⟨fragment, inside, rfl, incomplete, supplied⟩ := worked.job_eq other isJob
    exact ⟨evaluated.fits_jobFor sound (worked.unvalued _ isJob) inside supplied, incomplete⟩
  refine ⟨worked.graph_eq.trans evaluated.graph_eq, ?solves, ?known, ?fits, ?complete, ?healthy⟩
  case solves =>
    rw [worked.gathered_eq]
    exact evaluated.solves
  case known =>
    rw [worked.gathered_eq, worked.plan_eq, worked.completed_eq]
    exact evaluated.known_iff
  case fits =>
    intro other listed
    rcases List.mem_append.1 listed with early | late
    · exact (evaluated.fits other early).mono worked.plan_eq grows
    · exact (sent other late).1.mono worked.plan_eq grows
  case complete =>
    intro other listed input node
    rcases List.mem_append.1 listed with early | late
    · exact evaluated.complete other early input node
    · obtain ⟨fits, incomplete⟩ := sent other late
      rcases evaluated.run_job sound acyclic fits incomplete with ⟨_, ran, _⟩ | ⟨_, ran, _, known⟩
      · rw [ran]
        nofun
      · rw [ran]
        exact fun same => known input node (Report.failed.inj same)
  case healthy =>
    intro solvable
    obtain ⟨unfailed, noError⟩ := evaluated.healthy solvable
    refine ⟨fun id failed => unfailed id ((worked.failed id).1 failed), fun error settled => ?_⟩
    rcases worked.outcome with ⟨same, _⟩ | ⟨_, settledNow, _⟩
    · exact noError error (same.symm.trans settled)
    · cases settledNow.symm.trans settled

/-- A success that comes of running the job keeps a run evaluated. -/
theorem Evaluated.received (evaluated : Evaluated graph invoker happened run)
    (sound : run.plan.layout.Sound graph) (acyclic : graph.Acyclic) {job : Job α}
    (awaited : Awaited happened run job) {outputs : List (NodeId × α)}
    (ran : job.run graph invoker = .succeeded outputs) :
    Evaluated graph invoker (happened ++ [.reported job.fragment (.succeeded outputs)])
      (run.received job.fragment outputs) := by
  have fits := evaluated.fits job awaited.sent
  have outputs_eq := awaited.unvalued.outputs_received job.fragment outputs
  obtain ⟨positions, solves⟩ : outputs.map Prod.fst = job.nodes ∧
      graph.Solves invoker (run.gathered.outputs.insertAll outputs) := by
    rcases evaluated.run_job sound acyclic fits awaited.incomplete with
      ⟨_, same, positions, solves⟩ | ⟨_, same, _⟩
    · cases ran.symm.trans same
      exact ⟨positions, solves⟩
    · cases ran.symm.trans same
  have fresh := (evaluated.supplied sound acyclic fits awaited.incomplete).fresh
  have grows : ∀ node value, run.gathered.outputs.get? node = some value →
      (run.received job.fragment outputs).gathered.outputs.get? node = some value := by
    intro node value known
    rw [outputs_eq, SortedMap.get?_insertAll_of_not_mem]
    · exact known
    · intro given
      rw [fresh node (positions ▸ given)] at known
      cases known
  have launched_iff : ∀ other, .launched other ∈
      happened ++ [.reported job.fragment (.succeeded outputs)] ↔ .launched other ∈ happened := by
    simp
  obtain ⟨fragment, member, same, nodes_eq⟩ := fits.nodes_eq
  refine ⟨evaluated.graph_eq, outputs_eq.symm ▸ solves, ?known, fun other listed => ?fits,
    fun other listed => ?complete, evaluated.healthy⟩
  case known =>
    rw [← same]
    refine awaited.unvalued.known_received_iff sound member (fun node => ?_) evaluated.known_iff
    rw [positions, nodes_eq]
  case fits => exact (evaluated.fits other ((launched_iff other).1 listed)).mono rfl grows
  case complete => exact evaluated.complete other ((launched_iff other).1 listed)

/-- A failure that comes of running the job keeps a run evaluated. -/
theorem Evaluated.failed {report : Report α} {reached : List FragmentId}
    (evaluated : Evaluated graph invoker happened run)
    (sound : run.plan.layout.Sound graph) (acyclic : graph.Acyclic) {job : Job α}
    (awaited : Awaited happened run job)
    (ran : report = job.run graph invoker) (failure : ∀ outputs, report ≠ .succeeded outputs)
    (marked : Marked { run with outstanding := run.outstanding.erase job.fragment } after reached) :
    Evaluated graph invoker (happened ++ [.reported job.fragment report]) after := by
  have unsolvable : ¬ graph.Solvable invoker := by
    rcases evaluated.run_job sound acyclic (evaluated.fits job awaited.sent) awaited.incomplete with
      ⟨outputs, same, _⟩ | ⟨_, _, none, _⟩
    · exact absurd (ran.trans same) (failure outputs)
    · exact none
  have launched_iff : ∀ other, .launched other ∈ happened ++ [.reported job.fragment report] ↔
      .launched other ∈ happened := by
    simp
  have gathered_eq : after.gathered = run.gathered := marked.gathered_eq
  refine ⟨marked.graph_eq.trans evaluated.graph_eq, gathered_eq.symm ▸ evaluated.solves, ?known,
    fun other listed => ?fits, fun other listed => ?complete,
    fun solvable => absurd solvable unsolvable⟩
  case known =>
    rw [gathered_eq, marked.plan_eq, marked.completed_eq]
    exact evaluated.known_iff
  case fits =>
    refine (evaluated.fits other ((launched_iff other).1 listed)).mono marked.plan_eq ?_
    rw [gathered_eq]
    exact fun _ _ known => known
  case complete => exact evaluated.complete other ((launched_iff other).1 listed)

/-- **At every turn of a history in which reports come of running the jobs, the run is
evaluated.** -/
theorem History.evaluated {turn : RunTurn α} (sound : plan.layout.Sound graph)
    (acyclic : graph.Acyclic) (history : (ofPlan graph plan).History happened turn)
    (runBy : RunBy graph invoker happened) :
    ∃ run, turn.run? = some run ∧ run.Books run.agenda.flatten ∧ Recorded plan happened run ∧
      Evaluated graph invoker happened run := by
  suffices evaluated : ∃ run, turn.run? = some run ∧ run.Books run.agenda.flatten ∧
      Recorded plan happened run ∧
        (RunBy graph invoker happened → Evaluated graph invoker happened run) by
    obtain ⟨run, running, books, recorded, evaluated⟩ := evaluated
    exact ⟨run, running, books, recorded, evaluated runBy⟩
  refine History.invariant (motive := fun happened run =>
    RunBy graph invoker happened → Evaluated graph invoker happened run)
    sound ?first ?worked ?received ?failed history
  case first =>
    refine fun _ => ⟨rfl, nofun, fun node => iff_of_false nofun ?_, nofun, nofun,
      fun _ => ⟨not_failed_ofPlan, nofun⟩⟩
    rintro ⟨_, _, completed, _⟩
    exact SortedSet.not_mem_empty _ completed
  case worked =>
    intro happened run after job recorded evaluated work runBy
    exact (evaluated (runBy.mono (List.subset_append_left _ _))).worked work
      (recorded.plan_eq.symm ▸ sound) acyclic
  case received =>
    intro happened run job outputs recorded evaluated awaited runBy
    have ran := runBy job (List.mem_append_left _ awaited.sent) _
      (List.mem_append_right _ List.mem_cons_self)
    exact (evaluated (runBy.mono (List.subset_append_left _ _))).received
      (recorded.plan_eq.symm ▸ sound) acyclic awaited ran.symm
  case failed =>
    intro happened run after job report reached recorded evaluated awaited failure marked runBy
    have ran := runBy job (List.mem_append_left _ awaited.sent) report
      (List.mem_append_right _ List.mem_cons_self)
    exact (evaluated (runBy.mono (List.subset_append_left _ _))).failed
      (recorded.plan_eq.symm ▸ sound) acyclic awaited ran failure marked

/-- What holds of the outcome at a turn when reports come of running the jobs. -/
structure Evaluates (graph : Graph) (invoker : Invoker α) (happened : List (Happening α))
    (turn : RunTurn α) : Prop where
  /-- No check of the books has failed. -/
  no_fault : ∃ run, turn.run? = some run
  /-- No job misses the value of an input. -/
  complete : ∀ job, .launched job ∈ happened → ∀ input node,
    job.run graph invoker ≠ .failed (missingCause input node)
  /-- When nothing is outstanding and no call is left to go on, there are values exactly
  if direct evaluation gives some, in whatever order. -/
  ok_iff : ∀ run, turn.run? = some run → run.outstanding = ∅ → run.agenda.flatten = [] →
    ∀ order, graph.IsOrder order →
      ((∃ values, run.outcome = some (.ok values)) ↔
        ∃ result, graph.evaluate invoker ∅ order = some result)
  /-- Values are those of direct evaluation, one for each node. -/
  outputs_eq : ∀ run values, turn.run? = some run → run.outcome = some (.ok values) →
    (∀ order, graph.IsOrder order → graph.evaluate invoker ∅ order = some values.outputs) ∧
      ∀ node, (values.outputs.get? node).isSome ↔ node ∈ graph.nodeIds

/-- **Runs whose reports come of running the jobs compute what direct evaluation does.** -/
theorem History.evaluates {turn : RunTurn α} (sound : plan.layout.Sound graph)
    (acyclic : graph.Acyclic) (history : (ofPlan graph plan).History happened turn)
    (runBy : RunBy graph invoker happened) : Evaluates graph invoker happened turn := by
  obtain ⟨run, running, books, recorded, evaluated⟩ := history.evaluated sound acyclic runBy
  obtain rfl := recorded.plan_eq
  have whole : ∀ values, run.outcome = some (.ok values) →
      graph.Solves invoker values.outputs ∧
        ∀ node, (∃ value, values.outputs.get? node = some value) ↔ node ∈ graph.nodeIds := by
    intro values settled
    obtain rfl := gathered_of_values settled
    refine ⟨evaluated.solves, fun node => (evaluated.known_iff node).trans ⟨?_, fun member => ?_⟩⟩
    · rintro ⟨fragment, member, _, inside⟩
      exact sound.mem_nodeIds member inside
    · obtain ⟨fragment, fragmentMember, inside⟩ := sound.exists_fragment member
      exact ⟨fragment, fragmentMember,
        books.completed_of_values sound settled fragmentMember, inside⟩
  have direct : ∀ values, run.outcome = some (.ok values) → ∀ order, graph.IsOrder order →
      graph.evaluate invoker ∅ order = some values.outputs := by
    intro values settled order isOrder
    obtain ⟨solves, domain⟩ := whole values settled
    rcases Graph.evaluate_eq isOrder with ⟨result, found, alsoSolves, alsoDomain⟩ | ⟨_, none⟩
    · rw [found, alsoSolves.eq isOrder solves fun node => (alsoDomain node).trans (domain node).symm]
    · exact absurd ⟨values.outputs, solves, fun node member => (domain node).2 member⟩ none
  refine ⟨⟨run, running⟩, evaluated.complete, ?_, ?_⟩
  · intro other same nothing nothingLeft order isOrder
    cases running.symm.trans same
    refine ⟨fun ⟨values, settled⟩ => ⟨_, direct values settled order isOrder⟩, ?_⟩
    rintro ⟨result, found⟩
    have solvable : graph.Solvable invoker := by
      rcases Graph.evaluate_eq isOrder with ⟨_, _, solves, domain⟩ | ⟨absent, _⟩
      · exact ⟨_, solves, fun node member => (domain node).2 member⟩
      · cases found.symm.trans absent
    obtain ⟨unfailed, noError⟩ := evaluated.healthy solvable
    obtain ⟨outcome, settled⟩ := Option.ne_none_iff_exists'.1
      (books.outcome_of_idle sound nothing nothingLeft unfailed)
    cases outcome with
    | ok values => exact ⟨values, settled⟩
    | error error => exact absurd settled (noError error)
  · intro other values same settled
    cases running.symm.trans same
    refine ⟨direct values settled, fun node => ?_⟩
    rw [Option.isSome_iff_exists]
    exact (whole values settled).2 node

end Run

/-- **The run of an acyclic graph computes what direct evaluation does**, whatever its
nodes cost, whatever sizing its plan was made for and in whatever order the dispatcher
runs the jobs and reports on them. -/
theorem Plan.exists_evaluates {graph : Graph} (acyclic : graph.Acyclic) (cost : Node → Cost)
    (sizing : Sizing) (invoker : Invoker α) :
    ∃ plan, ofGraph graph cost sizing = .ok plan ∧ graph.Builds cost sizing plan ∧
      ∀ (happened : List (Happening α)) (turn : RunTurn α),
        (Run.ofPlan graph plan).History happened turn → RunBy graph invoker happened →
          Run.Evaluates graph invoker happened turn := by
  obtain ⟨plan, planned, built, settled⟩ := acyclic.exists_built cost sizing
  exact ⟨plan, planned, built,
    fun _ _ history runBy => history.evaluates settled.toSound acyclic runBy⟩

/-- Nodes that add one to the sum of their inputs. -/
def increment : Invoker Nat := fun _ arguments => .value (arguments.foldl Nat.add 1)

/-- The reports on the diamond are what comes of running its jobs with such nodes. -/
theorem runBy_diamondEnded : RunBy Graph.diamond increment Graph.diamondEnded := by
  intro job sent report answered
  simp only [Graph.diamondEnded, Graph.diamondBegun, List.cons_append, List.nil_append,
    List.mem_cons, List.not_mem_nil, Happening.launched.injEq, Happening.reported.injEq,
    reduceCtorEq, or_false, false_or] at sent answered
  -- Each report is about one of the four jobs, and not about the others.
  rcases sent with rfl | rfl | rfl | rfl <;>
    rcases answered with ⟨same, rfl⟩ | ⟨same, rfl⟩ | ⟨same, rfl⟩ | ⟨same, rfl⟩ <;>
      (revert same; decide +kernel)

/-- The diamond, one node a fragment, with nodes that add one to the sum of their inputs: values
cross from each fragment to the next, and the values of all nodes are those of direct
evaluation. -/
theorem Plan.exists_evaluates_diamond :
    Graph.diamond.Acyclic ∧
      ∃ plan, ofGraph Graph.diamond (fun _ => Cost.ofNat 1) { maxItems := 1 } = .ok plan ∧
        Graph.diamond.Builds (fun _ => Cost.ofNat 1) { maxItems := 1 } plan ∧
        ∃ turn run,
          (Run.ofPlan Graph.diamond plan).History Graph.diamondEnded turn ∧
          RunBy Graph.diamond increment Graph.diamondEnded ∧
          turn.run? = some run ∧ run.outstanding = ∅ ∧ run.agenda.flatten = [] ∧
          run.outcome = some (.ok {
            configuration := "diamond"
            outputs := SortedMap.ofList [(0, 1), (1, 2), (2, 2), (3, 5)]
            timed := SortedSet.ofList [1, 2, 3, 4] }) ∧
          Run.Evaluates Graph.diamond increment Graph.diamondEnded turn := by
  obtain ⟨plan, planned, built, evaluates⟩ := exists_evaluates Graph.diamond_acyclic
    (fun _ => Cost.ofNat 1) { maxItems := 1 } increment
  obtain ⟨turn, run, history, running, nothingLeft, nothing, _, settled⟩ :=
    exists_diamondEnded planned
  exact ⟨Graph.diamond_acyclic, plan, planned, built, turn, run, history, runBy_diamondEnded,
    running, nothing, nothingLeft, settled, evaluates _ turn history runBy_diamondEnded⟩

end ValueEngine
