import ValueEngine.Proofs.Execution.Evaluation

/-!
# What jobs are given

A job is given the values that its nodes consume from outside, and leaves out those that are
not known. When every success carries one value for each node of its job, the values known to
a run are those that were reported, and they are there for all nodes of the completed fragments
(`Run.Stocked`). A fragment goes out when all fragments that it consumes have completed, and the
links of the fragments cover every value that crosses from one to another. So nothing is left
out: the inputs of a job are exactly what is consumed, each with the value reported for it before
the job went out (`Plan.exists_equipped`).
-/

set_option autoImplicit false

namespace ValueEngine

universe u

variable {α : Type u}

/-! ## Reported values -/

/-- Every success carries one value for each node of the job that went out. -/
def Thorough (happened : List (Happening α)) : Prop :=
  ∀ job, .launched job ∈ happened → ∀ outputs,
    .reported job.fragment (.succeeded outputs) ∈ happened →
      (outputs.map Prod.fst).Perm job.nodes

theorem Thorough.mono {happened more : List (Happening α)} (thorough : Thorough more)
    (subset : happened ⊆ more) : Thorough happened :=
  fun job sent outputs answered => thorough job (subset sent) outputs (subset answered)

/-- A success came with a value for a node. -/
def Produced (happened : List (Happening α)) (node : NodeId) (value : α) : Prop :=
  ∃ id outputs, .reported id (.succeeded outputs) ∈ happened ∧ (node, value) ∈ outputs

/-- Only successes come with values. -/
theorem produced_append_iff {happened more : List (Happening α)}
    (silent : ∀ id outputs, .reported id (.succeeded outputs) ∉ more) {node : NodeId} {value : α} :
    Produced (happened ++ more) node value ↔ Produced happened node value := by
  constructor
  · rintro ⟨id, outputs, answered, given⟩
    exact ⟨id, outputs, (List.mem_append.1 answered).resolve_right (silent id outputs), given⟩
  · rintro ⟨id, outputs, answered, given⟩
    exact ⟨id, outputs, List.mem_append_left _ answered, given⟩

theorem produced_snoc_iff {happened : List (Happening α)} {id : FragmentId}
    {outputs : List (NodeId × α)} {node : NodeId} {value : α} :
    Produced (happened ++ [.reported id (.succeeded outputs)]) node value ↔
      Produced happened node value ∨ (node, value) ∈ outputs := by
  constructor
  · rintro ⟨other, values, answered, given⟩
    rcases List.mem_append.1 answered with early | late
    · exact Or.inl ⟨other, values, early, given⟩
    · cases List.mem_singleton.1 late
      exact Or.inr given
  · rintro (⟨other, values, early, given⟩ | given)
    · exact ⟨other, values, List.mem_append_left _ early, given⟩
    · exact ⟨id, outputs, List.mem_append_right _ List.mem_cons_self, given⟩

/-- A job that goes out after `before` is given what its nodes consume from outside. -/
structure Job.Equipped (graph : Graph) (before : List (Happening α)) (job : Job α) : Prop where
  /-- The inputs stand in strictly ascending order. -/
  ascending : (job.inputs.map Prod.fst).Pairwise (· < ·)
  /-- They are the nodes outside the job that some node of the job consumes. -/
  mem_iff : ∀ input, input ∈ job.inputs.map Prod.fst ↔
    input ∉ job.nodes ∧ ∃ node ∈ job.nodes, input ∈ graph.inputs node
  /-- Each of them has the value that was reported for it. -/
  produced_iff : ∀ input ∈ job.inputs.map Prod.fst, ∀ value,
    (input, value) ∈ job.inputs ↔ Produced before input value

namespace Run

variable {graph : Graph} {plan : Plan} {happened : List (Happening α)} {run after : Run α}

/-! ## The inputs of a job -/

theorem mem_externalInputs {fragment : Fragment} {input : NodeId} :
    input ∈ externalInputs graph fragment ↔
      input ∉ fragment.nodes ∧ ∃ node ∈ fragment.nodes, input ∈ graph.inputs node := by
  refine SortedSet.mem_filter.trans ?_
  rw [SortedSet.mem_ofList, List.mem_flatMap, decide_eq_true_iff]
  exact and_comm

theorem externalInputs_ascending (graph : Graph) (fragment : Fragment) :
    (externalInputs graph fragment).Pairwise (· < ·) :=
  (SortedSet.filter _ _).ascending.imp fun below => Nat.compare_eq_lt.1 below

theorem mem_inputs_jobFor {fragment : Fragment} {input : NodeId} {value : α} :
    (input, value) ∈ (run.jobFor fragment).inputs ↔
      input ∈ externalInputs run.graph fragment ∧ run.outputs.get? input = some value := by
  refine List.mem_filterMap.trans ⟨?_, fun ⟨outer, known⟩ => ⟨input, outer, by rw [known]; rfl⟩⟩
  rintro ⟨node, outer, given⟩
  obtain ⟨kept, known, same⟩ := Option.map_eq_some_iff.1 given
  cases same
  exact ⟨outer, known⟩

/-- When the values are known of all that a fragment consumes, its job leaves nothing out. -/
theorem map_inputs_jobFor {fragment : Fragment}
    (known : ∀ input ∈ externalInputs run.graph fragment,
      ∃ value, run.outputs.get? input = some value) :
    (run.jobFor fragment).inputs.map Prod.fst = externalInputs run.graph fragment := by
  rw [jobFor, List.map_filterMap]
  refine (List.filterMap_congr fun input outer => ?_).trans List.filterMap_some
  obtain ⟨value, found⟩ := known input outer
  rw [found]
  rfl

/-! ## The values that a run knows -/

/-- What a run knows when every success came with all values of its job. -/
structure Stocked (graph : Graph) (happened : List (Happening α)) (run : Run α) : Prop where
  /-- The graph stays. -/
  graph_eq : run.graph = graph
  /-- The values that are known are those that were reported. -/
  known_iff : ∀ node value, run.gathered.outputs.get? node = some value ↔
    Produced happened node value
  /-- They are the values of the nodes of completed fragments. -/
  completed_iff : ∀ node, (∃ value, run.gathered.outputs.get? node = some value) ↔
    ∃ fragment ∈ run.plan.layout.fragments, fragment.id ∈ run.completed ∧ node ∈ fragment.nodes
  /-- Jobs have the nodes of their fragments. -/
  nodes_eq : ∀ job, .launched job ∈ happened → ∃ fragment ∈ run.plan.layout.fragments,
    fragment.id = job.fragment ∧ fragment.nodes = job.nodes
  /-- Every job was given what it consumes. -/
  equipped : ∀ before job after, happened = before ++ .launched job :: after →
    job.Equipped graph before

/-- What a fragment consumes is known when its inputs have completed. -/
theorem Stocked.known (stocked : Stocked graph happened run)
    (sound : run.plan.layout.Sound graph) {fragment : Fragment}
    (member : fragment ∈ run.plan.layout.fragments)
    (supplied : ∀ input ∈ fragment.inputs, input ∈ run.completed) {input : NodeId}
    (outer : input ∈ externalInputs graph fragment) :
    ∃ value, run.gathered.outputs.get? input = some value := by
  obtain ⟨notInner, node, inside, consumes⟩ := mem_externalInputs.1 outer
  obtain ⟨other, otherMember, holds, feeds⟩ :=
    (sound.exists_fragment_of_input member inside consumes).resolve_left notInner
  exact (stocked.completed_iff input).2 ⟨other, otherMember, supplied _ feeds, holds⟩

/-- A job that goes out when the inputs of its fragment have completed is given all that it
consumes. -/
theorem Stocked.equipped_jobFor (stocked : Stocked graph happened run)
    (sound : run.plan.layout.Sound graph) (unvalued : run.Unvalued) {fragment : Fragment}
    (member : fragment ∈ run.plan.layout.fragments)
    (supplied : ∀ input ∈ fragment.inputs, input ∈ run.completed) :
    (run.jobFor fragment).Equipped graph happened := by
  have graph_eq := stocked.graph_eq
  have keys_eq : (run.jobFor fragment).inputs.map Prod.fst = externalInputs graph fragment := by
    rw [map_inputs_jobFor, graph_eq]
    rw [graph_eq, ← unvalued.outputs_eq]
    exact fun input outer => stocked.known sound member supplied outer
  refine ⟨?_, fun input => ?_, fun input given value => ?_⟩
  · rw [keys_eq]
    exact externalInputs_ascending graph fragment
  · rw [keys_eq]
    exact mem_externalInputs
  · rw [keys_eq, ← graph_eq] at given
    rw [mem_inputs_jobFor, and_iff_right given, ← unvalued.outputs_eq]
    exact stocked.known_iff input value

/-- The nodes of a fragment that has not completed have no values yet. -/
theorem Stocked.fresh (stocked : Stocked graph happened run) (sound : run.plan.layout.Sound graph)
    {fragment : Fragment} (member : fragment ∈ run.plan.layout.fragments)
    (incomplete : fragment.id ∉ run.completed) {node : NodeId} (inside : node ∈ fragment.nodes)
    (value : α) : run.gathered.outputs.get? node ≠ some value := by
  intro known
  obtain ⟨other, otherMember, completed, holds⟩ := (stocked.completed_iff node).1 ⟨value, known⟩
  rw [sound.eq_of_mem_nodes otherMember member holds inside] at completed
  exact incomplete completed

/-! ## Histories -/

/-- Work leaves the values as they are, and its job is given what it consumes. -/
theorem Stocked.worked {job : Option (Job α)} (stocked : Stocked graph happened run)
    (worked : run.Worked after job) (sound : run.plan.layout.Sound graph) :
    Stocked graph (happened ++ job.toList.map .launched) after := by
  have silent : ∀ id outputs, .reported id (.succeeded outputs) ∉
      job.toList.map (Happening.launched (α := α)) := by
    intro id outputs answered
    obtain ⟨_, _, same⟩ := List.mem_map.1 answered
    cases same
  refine ⟨worked.graph_eq.trans stocked.graph_eq, fun node value => ?known, ?completed, ?nodes,
    ?equipped⟩
  case known =>
    rw [worked.gathered_eq, produced_append_iff silent]
    exact stocked.known_iff node value
  case completed =>
    rw [worked.gathered_eq, worked.plan_eq, worked.completed_eq]
    exact stocked.completed_iff
  case nodes =>
    intro other listed
    rw [worked.plan_eq]
    rcases List.mem_append.1 listed with early | late
    · exact stocked.nodes_eq other early
    · obtain ⟨same, isJob, equal⟩ := List.mem_map.1 late
      cases equal
      obtain ⟨fragment, member, rfl, _⟩ := worked.job_eq other (Option.mem_toList.1 isJob)
      exact ⟨fragment, member, rfl, rfl⟩
  case equipped =>
    intro before other rest split
    cases job with
    | none =>
      rw [Option.toList_none, List.map_nil, List.append_nil] at split
      exact stocked.equipped before other rest split
    | some job =>
      rcases split_snoc split with ⟨rfl, same⟩ | ⟨between, earlier⟩
      · cases same
        obtain ⟨fragment, member, rfl, _, supplied⟩ := worked.job_eq other rfl
        exact stocked.equipped_jobFor sound (worked.unvalued _ rfl) member supplied
      · exact stocked.equipped before other between earlier

/-- A report launches nothing, so the jobs stay those that were given what they consume. -/
theorem Stocked.equipped_snoc (stocked : Stocked graph happened run) {id : FragmentId}
    {report : Report α} : ∀ before job rest,
      happened ++ [.reported id report] = before ++ .launched job :: rest →
        job.Equipped graph before := by
  intro before job rest split
  rcases split_snoc split with ⟨_, same⟩ | ⟨between, earlier⟩
  · cases same
  · exact stocked.equipped before job between earlier

/-- The values of a success are those of its nodes, which had none. -/
theorem Stocked.received (stocked : Stocked graph happened run)
    (sound : run.plan.layout.Sound graph) (unvalued : run.Unvalued) {fragment : Fragment}
    (member : fragment ∈ run.plan.layout.fragments) (incomplete : fragment.id ∉ run.completed)
    {outputs : List (NodeId × α)} (positions : (outputs.map Prod.fst).Perm fragment.nodes) :
    Stocked graph (happened ++ [.reported fragment.id (.succeeded outputs)])
      (run.received fragment.id outputs) := by
  have keys_nodup : (outputs.map Prod.fst).Nodup :=
    positions.nodup_iff.2 (sound.fragment_nodup member)
  have kept : ∀ node value, run.gathered.outputs.get? node = some value →
      (run.gathered.outputs.insertAll outputs).get? node = some value := by
    intro node value known
    rw [SortedMap.get?_insertAll_of_not_mem]
    · exact known
    · exact fun given =>
        stocked.fresh sound member incomplete (positions.mem_iff.1 given) value known
  refine ⟨stocked.graph_eq, fun node value => ?known,
    unvalued.known_received_iff sound member (fun _ => positions.mem_iff) stocked.completed_iff,
    fun job listed => ?nodes, stocked.equipped_snoc⟩
  case known =>
    rw [unvalued.outputs_received, produced_snoc_iff, ← stocked.known_iff]
    constructor
    · exact fun known => (SortedMap.mem_of_get?_insertAll known).symm
    · rintro (known | given)
      · exact kept node value known
      · exact SortedMap.get?_insertAll_of_mem keys_nodup given
  case nodes =>
    refine stocked.nodes_eq job ((List.mem_append.1 listed).resolve_right fun late => ?_)
    cases List.mem_singleton.1 late

/-- A failure leaves the values as they are. -/
theorem Stocked.failed {id : FragmentId} {report : Report α} {reached : List FragmentId}
    (stocked : Stocked graph happened run) (failure : ∀ outputs, report ≠ .succeeded outputs)
    (marked : Marked { run with outstanding := run.outstanding.erase id } after reached) :
    Stocked graph (happened ++ [.reported id report]) after := by
  have silent : ∀ other outputs, .reported other (.succeeded outputs) ∉
      [Happening.reported id report] := by
    intro other outputs answered
    cases List.mem_singleton.1 answered
    exact failure outputs rfl
  have gathered_eq : after.gathered = run.gathered := marked.gathered_eq
  refine ⟨marked.graph_eq.trans stocked.graph_eq, fun node value => ?known, ?completed,
    fun job listed => ?nodes, stocked.equipped_snoc⟩
  case known =>
    rw [gathered_eq, produced_append_iff silent]
    exact stocked.known_iff node value
  case completed =>
    rw [gathered_eq, marked.plan_eq, marked.completed_eq]
    exact stocked.completed_iff
  case nodes =>
    rw [marked.plan_eq]
    refine stocked.nodes_eq job ((List.mem_append.1 listed).resolve_right fun late => ?_)
    cases List.mem_singleton.1 late

/-- **At every turn of a history with thorough successes the run knows what was reported, and
every job was given what it consumes.** -/
theorem History.stocked {turn : RunTurn α} (sound : plan.layout.Sound graph)
    (history : (ofPlan graph plan).History happened turn) (thorough : Thorough happened) :
    ∃ run, turn.run? = some run ∧ Recorded plan happened run ∧ Stocked graph happened run := by
  suffices stocked : ∃ run, turn.run? = some run ∧ Recorded plan happened run ∧
      (Thorough happened → Stocked graph happened run) by
    obtain ⟨run, running, recorded, stocked⟩ := stocked
    exact ⟨run, running, recorded, stocked thorough⟩
  refine (History.invariant (motive := fun happened run =>
    Thorough happened → Stocked graph happened run) sound ?first ?worked ?received ?failed
      history).imp fun run ⟨running, _, rest⟩ => ⟨running, rest⟩
  case first =>
    intro _
    refine ⟨rfl, fun node value => iff_of_false nofun nofun, fun node => iff_of_false nofun ?_,
      nofun, fun before job rest split => by simp at split⟩
    rintro ⟨_, _, completed, _⟩
    exact SortedSet.not_mem_empty _ completed
  case worked =>
    intro happened run after job recorded stocked work thorough
    exact (stocked (thorough.mono (List.subset_append_left _ _))).worked work
      (recorded.plan_eq.symm ▸ sound)
  case received =>
    intro happened run job outputs recorded stocked awaited thorough
    have stocked := stocked (thorough.mono (List.subset_append_left _ _))
    have incomplete := awaited.incomplete
    obtain ⟨fragment, member, isJob, nodes_eq⟩ := stocked.nodes_eq job awaited.sent
    have positions : (outputs.map Prod.fst).Perm fragment.nodes := by
      rw [nodes_eq]
      exact thorough job (List.mem_append_left _ awaited.sent) outputs
        (List.mem_append_right _ List.mem_cons_self)
    rw [← isJob] at incomplete ⊢
    exact stocked.received (recorded.plan_eq.symm ▸ sound) awaited.unvalued member incomplete
      positions
  case failed =>
    intro happened run after job report reached _ stocked _ failure marked thorough
    exact (stocked (thorough.mono (List.subset_append_left _ _))).failed failure marked

end Run

/-- **Every job is given exactly what its nodes consume from outside**, in ascending order and
with the values that were reported, whatever the plan and however the dispatcher reports, as long
as successes carry one value for each node of their job. Other fragments may have failed. -/
theorem Plan.exists_equipped {graph : Graph} (acyclic : graph.Acyclic) (cost : Node → Cost)
    (sizing : Sizing) :
    ∃ plan, ofGraph graph cost sizing = .ok plan ∧ graph.Builds cost sizing plan ∧
      ∀ (happened : List (Happening α)) (turn : RunTurn α),
        (Run.ofPlan graph plan).History happened turn → Thorough happened →
          ∀ before job after, happened = before ++ .launched job :: after →
            job.Equipped graph before ∧ ∃ fragment ∈ plan.layout.fragments,
              fragment.id = job.fragment ∧ fragment.nodes = job.nodes := by
  obtain ⟨plan, planned, built, settled⟩ := acyclic.exists_built cost sizing
  refine ⟨plan, planned, built, fun happened turn history thorough before job after split => ?_⟩
  obtain ⟨run, _, recorded, stocked⟩ := history.stocked settled.toSound thorough
  obtain rfl := recorded.plan_eq
  have sent : .launched job ∈ happened :=
    split ▸ List.mem_append_right _ List.mem_cons_self
  exact ⟨stocked.equipped before job after split, stocked.nodes_eq job sent⟩

/-- The diamond, node by node: when the source has the value seven, this is what the first node
that consumes it is given. -/
theorem Plan.exists_equipped_diamond :
    Graph.diamond.Acyclic ∧
      ∃ plan, ofGraph Graph.diamond (fun _ => Cost.ofNat 1) { maxItems := 1 } = .ok plan ∧
        Graph.diamond.Builds (fun _ => Cost.ofNat 1) { maxItems := 1 } plan ∧
        ∃ (source job : Job Nat) (turn : RunTurn Nat),
          (Run.ofPlan Graph.diamond plan).History
            ([.launched source] ++ .reported source.fragment (.succeeded [(0, 7)]) ::
              [.launched job]) turn ∧
          job.inputs = [(0, 7)] ∧
          job.Equipped Graph.diamond
            [.launched source, .reported source.fragment (.succeeded [(0, 7)])] := by
  obtain ⟨plan, found, built, equipped⟩ := exists_equipped (α := Nat) Graph.diamond_acyclic
    (fun _ => Cost.ofNat 1) { maxItems := 1 }
  have course : ((Run.ofPlan Graph.diamond plan : Run Nat).start.run?.bind fun run =>
      (run.report 1 (.succeeded [(0, 7)])).bind fun turn =>
        (Run.ofPlan Graph.diamond plan : Run Nat).start.job?.bind fun source =>
          turn.job?.map fun job => (source.fragment, source.nodes, job.fragment, job.inputs)) =
            some (1, [0], 2, [(0, 7)]) := by
    cases found.symm.trans (ofGraph_of_order Graph.executionOrder_diamond _ _)
    decide +kernel
  obtain ⟨run, running, course⟩ := Option.bind_eq_some_iff.1 course
  obtain ⟨turn, accepted, course⟩ := Option.bind_eq_some_iff.1 course
  obtain ⟨source, sent, course⟩ := Option.bind_eq_some_iff.1 course
  obtain ⟨job, sentToo, course⟩ := Option.map_eq_some_iff.1 course
  obtain ⟨isSource, nodes_eq, isJob, inputs_eq⟩ : source.fragment = 1 ∧ source.nodes = [0] ∧
    job.fragment = 2 ∧ job.inputs = [(0, 7)] := by simpa using course
  have history := Run.History.start.report running accepted
  rw [RunTurn.shown, RunTurn.shown, sent, sentToo, ← isSource] at history
  have thorough : Thorough ([.launched source] ++
      .reported source.fragment (.succeeded [(0, 7)]) :: [.launched job]) := by
    intro other launched outputs answered
    simp only [List.cons_append, List.nil_append, List.mem_cons, Happening.launched.injEq,
      Happening.reported.injEq, Report.succeeded.injEq, reduceCtorEq, List.not_mem_nil, or_false,
      false_or] at launched answered
    obtain ⟨same, rfl⟩ := answered
    rcases launched with rfl | rfl
    · rw [nodes_eq]
      exact .refl _
    · rw [isJob, isSource] at same
      cases same
  refine ⟨Graph.diamond_acyclic, plan, found, built, source, job, turn, history, inputs_eq, ?_⟩
  exact (equipped _ turn history thorough [_, _] job [] rfl).1

end ValueEngine
