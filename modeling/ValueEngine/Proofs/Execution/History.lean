import ValueEngine.Proofs.Arena.Building
import ValueEngine.Proofs.Execution.Reports

/-!
# Histories of a run

A dispatcher gets jobs and reports on them, one at a time, from inside a launch or
later, in any order it likes. A history lists the launches and the reports up to
some turn of the run (`Run.History`). Whatever the dispatcher does, no turn is a
fault, each fragment goes out once and not before its inputs have succeeded, and
the counters tell how many inputs are missing while no report is being worked
through (`Plan.exists_orderly`).

A history is what comes of the moves of a dispatcher, one after the other, so it can be
computed (`Run.history_iff_course`).
-/

set_option autoImplicit false

namespace ValueEngine

universe u

variable {α : Type u}

/-! ## What happens -/

/-- What a dispatcher sees of a run, and what it does to it. -/
inductive Happening (α : Type u) where
  | launched (job : Job α)
  | reported (fragment : FragmentId) (report : Report α)
deriving DecidableEq

/-- The fragment that goes out. -/
def Happening.launch? : Happening α → Option FragmentId
  | launched job => some job.fragment
  | reported _ _ => none

/-- The fragment that is reported successful. -/
def Happening.success? : Happening α → Option FragmentId
  | reported fragment (.succeeded _) => some fragment
  | _ => none

/-- The fragments that have gone out, in their order. -/
def launches (happened : List (Happening α)) : List FragmentId :=
  happened.filterMap Happening.launch?

/-- The fragments that were reported successful, in their order. -/
def successes (happened : List (Happening α)) : List FragmentId :=
  happened.filterMap Happening.success?

theorem mem_launches {happened : List (Happening α)} {id : FragmentId} :
    id ∈ launches happened ↔ ∃ job, .launched job ∈ happened ∧ job.fragment = id := by
  rw [launches, List.mem_filterMap]
  constructor
  · rintro ⟨happening, member, gone⟩
    cases happening with
    | launched job => exact ⟨job, member, Option.some.inj gone⟩
    | reported _ _ => cases gone
  · rintro ⟨job, member, rfl⟩
    exact ⟨_, member, rfl⟩

/-- What a turn shows to the dispatcher. -/
def RunTurn.shown (turn : RunTurn α) : List (Happening α) := turn.job?.toList.map .launched

namespace Run

/-- The histories of a run that starts with the books `first`. The dispatcher reports on
any outstanding fragment, or returns from the innermost launch. -/
inductive History (first : Run α) : List (Happening α) → RunTurn α → Prop where
  | start : History first first.start.shown first.start
  | report {happened : List (Happening α)} {turn next : RunTurn α} {run : Run α}
      {id : FragmentId} {report : Report α} (before : History first happened turn)
      (running : turn.run? = some run) (accepted : run.report id report = some next) :
      History first (happened ++ .reported id report :: next.shown) next
  | resume {happened : List (Happening α)} {turn : RunTurn α} {run : Run α}
      (before : History first happened turn) (running : turn.run? = some run) :
      History first (happened ++ run.resume.shown) run.resume

/-- No report is being worked through: nothing that is left of interrupted calls
unblocks a fragment. -/
def AtRest (run : Run α) : Prop := ∀ tasks ∈ run.agenda, ∀ id, .unblock id ∉ tasks

/-- What holds at a turn of a run with fragments `layout` after what has happened. -/
structure Orderly (layout : Layout) (happened : List (Happening α)) (turn : RunTurn α) :
    Prop where
  /-- No check of the books has failed. -/
  no_fault : ∃ run, turn.run? = some run
  /-- No fragment has gone out twice. -/
  launches_nodup : (launches happened).Nodup
  /-- A fragment goes out after all of its inputs were reported successful. -/
  supplied : ∀ before job after, happened = before ++ .launched job :: after →
    ∃ fragment ∈ layout.fragments, fragment.id = job.fragment ∧
      ∀ input ∈ fragment.inputs, input ∈ successes before
  /-- At rest, the counter of a fragment tells how many of its inputs were not
  reported successful. -/
  blocked_eq : ∀ run, turn.run? = some run → run.AtRest → ∀ fragment ∈ layout.all,
    ∃ progress, run.progress.get? fragment.id = some progress ∧
      progress.blocked =
        (fragment.inputs.toList.filter fun input => decide (input ∉ successes happened)).length

/-! ## What the books record -/

/-- What the books record of what has happened. -/
structure Recorded (plan : Plan) (happened : List (Happening α)) (run : Run α) : Prop where
  plan_eq : run.plan = plan
  completed_iff : ∀ id, id ∈ run.completed ↔ id ∈ successes happened
  launched_iff : ∀ id, run.Launched id ↔ id ∈ launches happened
  launches_nodup : (launches happened).Nodup
  supplied : ∀ before job after, happened = before ++ .launched job :: after →
    ∃ fragment ∈ plan.layout.fragments, fragment.id = job.fragment ∧
      ∀ input ∈ fragment.inputs, input ∈ successes before

/-- An item of a list with one more element at the end is this element or stands in
the list. -/
theorem split_snoc {β : Type u} {items before rest : List β} {last item : β}
    (split : items ++ [last] = before ++ item :: rest) :
    (before = items ∧ item = last) ∨ ∃ between, items = before ++ item :: between := by
  rcases List.eq_nil_or_concat rest with rfl | ⟨between, other, rfl⟩
  · obtain ⟨same, lastSame⟩ := List.append_inj' split rfl
    exact Or.inl ⟨same.symm, (List.cons.inj lastSame).1.symm⟩
  · rw [List.concat_eq_append, ← List.cons_append, ← List.append_assoc] at split
    exact Or.inr ⟨between, (List.append_inj' split rfl).1⟩

variable {graph : Graph} {plan : Plan} {happened : List (Happening α)} {run after : Run α}

/-- At first nothing has happened. -/
theorem recorded_ofPlan : Recorded plan [] (ofPlan graph plan : Run α) :=
  ⟨rfl, fun id => iff_of_false (SortedSet.not_mem_empty id) List.not_mem_nil,
    fun id => iff_of_false (not_launched_ofPlan id) List.not_mem_nil, List.nodup_nil,
    fun before job rest split => by simp at split⟩

/-- What is recorded before some work and what the work launches is recorded
after it. -/
theorem Recorded.worked {job : Option (Job α)} (recorded : Recorded plan happened run)
    (worked : run.Worked after job) :
    Recorded plan (happened ++ job.toList.map .launched) after := by
  cases job with
  | none =>
    rw [Option.toList_none, List.map_nil, List.append_nil]
    exact ⟨worked.plan_eq.trans recorded.plan_eq, worked.completed_eq ▸ recorded.completed_iff,
      fun id => ((worked.launched id).trans (or_iff_left not_sent)).trans
        (recorded.launched_iff id), recorded.launches_nodup, recorded.supplied⟩
  | some job =>
    have successes_eq : successes (happened ++ [.launched job]) = successes happened := by
      simp [successes, Happening.success?]
    have launches_eq : launches (happened ++ [.launched job]) =
        launches happened ++ [job.fragment] := by
      simp [launches, Happening.launch?]
    refine ⟨worked.plan_eq.trans recorded.plan_eq, ?completed, ?launched, ?nodup, ?supplied⟩
    case completed =>
      intro id
      rw [Option.toList_some, List.map_singleton, successes_eq, worked.completed_eq]
      exact recorded.completed_iff id
    case launched =>
      intro id
      rw [Option.toList_some, List.map_singleton, launches_eq, List.mem_append,
        List.mem_singleton, worked.launched, recorded.launched_iff]
      refine or_congr_right ⟨?_, fun same => ⟨job, rfl, same.symm⟩⟩
      rintro ⟨_, ⟨⟩, same⟩
      exact same.symm
    case nodup =>
      rw [Option.toList_some, List.map_singleton, launches_eq]
      refine List.nodup_append.2 ⟨recorded.launches_nodup, List.nodup_singleton _, ?_⟩
      rintro id early _ late rfl
      exact worked.fresh job rfl (List.mem_singleton.1 late ▸ (recorded.launched_iff id).2 early)
    case supplied =>
      intro before other rest split
      rcases split_snoc split with ⟨rfl, same⟩ | ⟨between, earlier⟩
      · cases same
        obtain ⟨fragment, member, rfl, _, supplied⟩ := worked.job_eq job rfl
        refine ⟨fragment, recorded.plan_eq ▸ member, rfl, fun input consumed => ?_⟩
        exact (recorded.completed_iff input).1 (supplied input consumed)
      · exact recorded.supplied before other between earlier

/-- A success is recorded before the work that follows it. -/
theorem Recorded.received (recorded : Recorded plan happened run) (id : FragmentId)
    (outputs : List (NodeId × α)) :
    Recorded plan (happened ++ [.reported id (.succeeded outputs)]) (run.received id outputs) := by
  have successes_eq : successes (happened ++ [.reported id (.succeeded outputs)]) =
      successes happened ++ [id] := by
    simp [successes, Happening.success?]
  have launches_eq : launches (happened ++ [.reported id (.succeeded outputs)]) =
      launches happened := by
    simp [launches, Happening.launch?]
  refine ⟨recorded.plan_eq, fun other => ?completed, ?launched, ?nodup,
    fun before job rest split => ?supplied⟩
  case completed =>
    rw [successes_eq, List.mem_append, List.mem_singleton, ← recorded.completed_iff]
    exact SortedSet.mem_insert.trans or_comm
  case launched =>
    rw [launches_eq]
    exact recorded.launched_iff
  case nodup =>
    rw [launches_eq]
    exact recorded.launches_nodup
  case supplied =>
    rcases split_snoc split with ⟨_, same⟩ | ⟨between, earlier⟩
    · cases same
    · exact recorded.supplied before job between earlier

/-- A failure is recorded. -/
theorem Recorded.failed {id : FragmentId} {report : Report α} {reached : List FragmentId}
    (recorded : Recorded plan happened run) (failure : ∀ outputs, report ≠ .succeeded outputs)
    (marked : Marked { run with outstanding := run.outstanding.erase id } after reached) :
    Recorded plan (happened ++ [.reported id report]) after := by
  have success : (Happening.reported id report).success? = none := by
    cases report with
    | succeeded outputs => exact absurd rfl (failure outputs)
    | failed cause => rfl
    | dropped => rfl
  have successes_eq : successes (happened ++ [.reported id report]) = successes happened := by
    simp [successes, success]
  have launches_eq : launches (happened ++ [.reported id report]) = launches happened := by
    simp [launches, Happening.launch?]
  refine ⟨marked.plan_eq.trans recorded.plan_eq, fun other => ?completed, ?launched, ?nodup,
    fun before job rest split => ?supplied⟩
  case completed =>
    rw [successes_eq, marked.completed_eq]
    exact recorded.completed_iff other
  case launched =>
    intro other
    rw [launches_eq]
    exact marked.launched_iff.trans (recorded.launched_iff other)
  case nodup =>
    rw [launches_eq]
    exact recorded.launches_nodup
  case supplied =>
    rcases split_snoc split with ⟨_, same⟩ | ⟨between, earlier⟩
    · cases same
    · exact recorded.supplied before job between earlier

/-- **At every turn of a history the books are right and record what has happened.** -/
theorem History.recorded {turn : RunTurn α} (sound : plan.layout.Sound graph)
    (history : (ofPlan graph plan).History happened turn) :
    ∃ run, turn.run? = some run ∧ run.Books run.agenda.flatten ∧ Recorded plan happened run := by
  induction history with
  | start =>
    obtain ⟨after, running, books, worked⟩ := Books.start (α := α) sound
    exact ⟨after, running, books, recorded_ofPlan.worked worked⟩
  | @report happened turn next run id report _ running accepted ih =>
    obtain ⟨_, same, books, recorded⟩ := ih
    cases running.symm.trans same
    obtain ⟨after, running, books, answered⟩ :=
      books.report (recorded.plan_eq.symm ▸ sound) accepted
    refine ⟨after, running, books, ?_⟩
    rw [List.append_cons, RunTurn.shown]
    generalize next.job? = job at answered
    cases answered with
    | succeeded worked => exact (recorded.received id _).worked worked
    | failed failure marked =>
      rw [Option.toList_none, List.map_nil, List.append_nil]
      exact recorded.failed failure marked
  | resume _ running ih =>
    obtain ⟨_, same, books, recorded⟩ := ih
    cases running.symm.trans same
    obtain ⟨after, running, books, worked⟩ := books.resume (recorded.plan_eq.symm ▸ sound)
    exact ⟨after, running, books, recorded.worked worked⟩

/-- A job that has gone out is that of a fragment. -/
theorem Recorded.exists_fragment (recorded : Recorded plan happened run) {job : Job α}
    (sent : .launched job ∈ happened) :
    ∃ fragment ∈ plan.layout.fragments, fragment.id = job.fragment := by
  obtain ⟨before, rest, split⟩ := List.append_of_mem sent
  obtain ⟨fragment, member, about, _⟩ := recorded.supplied before job rest split
  exact ⟨fragment, member, about⟩

/-- A job that has gone out and was not reported on. -/
structure Awaited (happened : List (Happening α)) (run : Run α) (job : Job α) : Prop where
  sent : .launched job ∈ happened
  outstanding : job.fragment ∈ run.outstanding
  incomplete : job.fragment ∉ run.completed
  unvalued : run.Unvalued

/-- Every report is on such a job. -/
theorem Recorded.exists_awaited {due : List Task} (recorded : Recorded plan happened run)
    (books : run.Books due) (sound : run.plan.layout.Sound graph) {id : FragmentId}
    {report : Report α} {turn : RunTurn α} (accepted : run.report id report = some turn) :
    ∃ job, job.fragment = id ∧ Awaited happened run job := by
  have outstanding := outstanding_of_report accepted
  obtain ⟨fragment, member, rfl, launched, incomplete⟩ := books.of_outstanding outstanding
  obtain ⟨job, sent, about⟩ := mem_launches.1 ((recorded.launched_iff fragment.id).1 launched)
  exact ⟨job, about, sent, about ▸ outstanding, about ▸ incomplete,
    books.unvalued sound member incomplete⟩

/-- **What holds of the first books, and stays true as fragments go out and as reports on them
are written down, holds at every turn of a history.** A success is written down before the work
that follows it, so `received` speaks of books between two turns. -/
theorem History.invariant {motive : List (Happening α) → Run α → Prop} {turn : RunTurn α}
    (sound : plan.layout.Sound graph) (first : motive [] (ofPlan graph plan))
    (worked : ∀ {happened : List (Happening α)} {run after : Run α} {job : Option (Job α)},
      Recorded plan happened run → motive happened run → run.Worked after job →
        motive (happened ++ job.toList.map .launched) after)
    (received : ∀ {happened : List (Happening α)} {run : Run α} {job : Job α}
      {outputs : List (NodeId × α)}, Recorded plan happened run → motive happened run →
        Awaited happened run job →
          motive (happened ++ [.reported job.fragment (.succeeded outputs)])
            (run.received job.fragment outputs))
    (failed : ∀ {happened : List (Happening α)} {run after : Run α} {job : Job α}
      {report : Report α} {reached : List FragmentId}, Recorded plan happened run →
        motive happened run → Awaited happened run job →
          (∀ outputs, report ≠ .succeeded outputs) →
            Marked { run with outstanding := run.outstanding.erase job.fragment } after reached →
              motive (happened ++ [.reported job.fragment report]) after)
    (history : (ofPlan graph plan).History happened turn) :
    ∃ run, turn.run? = some run ∧ run.Books run.agenda.flatten ∧ Recorded plan happened run ∧
      motive happened run := by
  suffices holds : ∀ run, turn.run? = some run → motive happened run by
    obtain ⟨run, running, books, recorded⟩ := history.recorded sound
    exact ⟨run, running, books, recorded, holds run running⟩
  induction history with
  | start =>
    intro run reached
    obtain ⟨after, same, _, work⟩ := Books.start (α := α) sound
    cases reached.symm.trans same
    exact worked recorded_ofPlan first work
  | @report happened turn next before id report history running accepted ih =>
    intro run reached
    obtain ⟨_, same, books, recorded⟩ := history.recorded sound
    cases running.symm.trans same
    have earlier := ih before running
    have soundBefore : before.plan.layout.Sound graph := recorded.plan_eq.symm ▸ sound
    obtain ⟨job, rfl, awaited⟩ := recorded.exists_awaited books soundBefore accepted
    obtain ⟨after, same, _, answered⟩ := books.report soundBefore accepted
    cases reached.symm.trans same
    rw [List.append_cons, RunTurn.shown]
    generalize next.job? = launch at answered
    cases answered with
    | succeeded work =>
      exact worked (recorded.received job.fragment _) (received recorded earlier awaited) work
    | failed failure marked =>
      rw [Option.toList_none, List.map_nil, List.append_nil]
      exact failed recorded earlier awaited failure marked
  | @resume happened turn before history running ih =>
    intro run reached
    obtain ⟨_, same, books, recorded⟩ := history.recorded sound
    cases running.symm.trans same
    obtain ⟨after, same, _, work⟩ := books.resume (recorded.plan_eq.symm ▸ sound)
    cases reached.symm.trans same
    exact worked recorded (ih before running) work

/-- When nothing is left of interrupted calls, no report is being worked through. -/
theorem atRest_of_flatten (nothing : run.agenda.flatten = []) : run.AtRest := by
  intro tasks left id due
  have among := List.mem_flatten.2 ⟨tasks, left, due⟩
  rw [nothing] at among
  cases among

/-- Every turn of a history is orderly. -/
theorem History.orderly {turn : RunTurn α} (sound : plan.layout.Sound graph)
    (history : (ofPlan graph plan).History happened turn) :
    Orderly plan.layout happened turn := by
  obtain ⟨run, running, books, recorded⟩ := history.recorded sound
  refine ⟨⟨run, running⟩, recorded.launches_nodup, recorded.supplied, ?_⟩
  intro other same atRest fragment member
  cases running.symm.trans same
  obtain ⟨progress, found, entry⟩ :=
    books.entries fragment (recorded.plan_eq.symm ▸ member)
  refine ⟨progress, found, ?_⟩
  have noUnblock : run.agenda.flatten.count (.unblock fragment.id) = 0 := by
    refine List.count_eq_zero.2 fun due => ?_
    obtain ⟨tasks, left, due⟩ := List.mem_flatten.1 due
    exact atRest tasks left fragment.id due
  rw [entry.blocked_eq, noUnblock, Nat.add_zero, pending]
  refine congrArg List.length (List.filter_congr fun input _ => ?_)
  rw [decide_eq_decide, not_iff_not]
  exact recorded.completed_iff input

end Run

/-! ## Courses -/

/-- What a dispatcher does next: it reports on a fragment, or returns from the innermost
launch. -/
inductive DispatcherMove (α : Type u) where
  | report (fragment : FragmentId) (report : Report α)
  | resume

/-- The turn that comes of a move, and what happens up to it, if the move can be made. -/
def RunTurn.move? (turn : RunTurn α) : DispatcherMove α → Option (List (Happening α) × RunTurn α)
  | .report id report => do
    let run ← turn.run?
    let next ← run.report id report
    return (.reported id report :: next.shown, next)
  | .resume => do
    let run ← turn.run?
    return (run.resume.shown, run.resume)

namespace Run

/-- What has happened up to some turn, and then comes of a move. -/
def goOn? (course : List (Happening α) × RunTurn α) (move : DispatcherMove α) :
    Option (List (Happening α) × RunTurn α) :=
  (course.2.move? move).map fun further => (course.1 ++ further.1, further.2)

/-- What comes of some moves, if each of them can be made. -/
def course? (first : Run α) (moves : List (DispatcherMove α)) :
    Option (List (Happening α) × RunTurn α) :=
  moves.foldlM goOn? (first.start.shown, first.start)

variable {first : Run α} {happened more : List (Happening α)} {turn next : RunTurn α}
  {moves : List (DispatcherMove α)} {move : DispatcherMove α}

/-- A course goes on with one more move. -/
theorem course?_concat_eq_some_iff : first.course? (moves ++ [move]) = some (more, next) ↔
    ∃ happened turn between, first.course? moves = some (happened, turn) ∧
      turn.move? move = some (between, next) ∧ happened ++ between = more := by
  simp only [course?, goOn?, List.foldlM_append, List.foldlM_cons, List.foldlM_nil, bind_pure,
    Option.bind_eq_bind, Option.bind_eq_some_iff, Option.map_eq_some_iff, Prod.exists,
    Prod.mk.injEq]
  constructor
  · rintro ⟨happened, turn, before, between, _, moved, same, rfl⟩
    exact ⟨happened, turn, between, before, moved, same⟩
  · rintro ⟨happened, turn, between, before, moved, same⟩
    exact ⟨happened, turn, before, between, next, moved, same, rfl⟩

/-- **The histories of a run are what comes of the moves of a dispatcher.** -/
theorem history_iff_course :
    first.History happened turn ↔ ∃ moves, first.course? moves = some (happened, turn) := by
  constructor
  · intro history
    induction history with
    | start => exact ⟨[], rfl⟩
    | @report happened turn next run id report _ running accepted ih =>
      obtain ⟨moves, before⟩ := ih
      refine ⟨moves ++ [.report id report], course?_concat_eq_some_iff.2 ⟨_, _, _, before, ?_, rfl⟩⟩
      simp [RunTurn.move?, running, accepted]
    | @resume happened turn run _ running ih =>
      obtain ⟨moves, before⟩ := ih
      refine ⟨moves ++ [.resume], course?_concat_eq_some_iff.2 ⟨_, _, _, before, ?_, rfl⟩⟩
      simp [RunTurn.move?, running]
  · rintro ⟨moves, course⟩
    induction moves using List.reverseRecOn generalizing happened turn with
    | nil =>
      cases course
      exact .start
    | append_singleton moves move ih =>
      obtain ⟨earlier, before, between, begun, moved, rfl⟩ := course?_concat_eq_some_iff.1 course
      cases move with
      | report id report =>
        simp only [RunTurn.move?, Option.bind_eq_bind, Option.bind_eq_some_iff, Option.pure_def,
          Option.some.injEq, Prod.mk.injEq] at moved
        obtain ⟨run, running, next, accepted, rfl, rfl⟩ := moved
        exact (ih begun).report running accepted
      | resume =>
        simp only [RunTurn.move?, Option.bind_eq_bind, Option.bind_eq_some_iff, Option.pure_def,
          Option.some.injEq, Prod.mk.injEq] at moved
        obtain ⟨run, running, rfl, rfl⟩ := moved
        exact (ih begun).resume running

/-- What a course comes to is the run at a turn of its history. -/
theorem exists_of_course {holds : Run α → Prop}
    (course : ∃ found ∈ first.course? moves, found.1 = happened ∧
      ∃ run ∈ found.2.run?, holds run) :
    ∃ turn run, first.History happened turn ∧ turn.run? = some run ∧ holds run := by
  obtain ⟨⟨_, turn⟩, made, rfl, run, running, seen⟩ := course
  exact ⟨turn, run, history_iff_course.2 ⟨moves, made⟩, running, seen⟩

end Run

/-- **Whatever the dispatcher does, the run of an acyclic graph is orderly.** -/
theorem Plan.exists_orderly {graph : Graph} (acyclic : graph.Acyclic) (cost : Node → Cost)
    (sizing : Sizing) :
    ∃ plan, ofGraph graph cost sizing = .ok plan ∧ graph.Builds cost sizing plan ∧
      ∀ (happened : List (Happening α)) (turn : RunTurn α),
        (Run.ofPlan graph plan).History happened turn →
          Run.Orderly plan.layout happened turn := by
  obtain ⟨plan, planned, built, settled⟩ := acyclic.exists_built cost sizing
  exact ⟨plan, planned, built, fun _ _ history => history.orderly settled.toSound⟩

namespace Graph

/-- The diamond, one node a fragment: the second job is reported on before the third goes out. -/
def diamondBegun (report : Report Nat) : List (Happening Nat) :=
  [.launched ⟨1, [0], [], [2, 3], 1, Cost.ofNat 1⟩, .reported 1 (.succeeded [(0, 1)]),
    .launched ⟨2, [2], [(0, 1)], [4], 1, Cost.ofNat 1⟩, .reported 2 report,
    .launched ⟨3, [1], [(0, 1)], [4], 1, Cost.ofNat 1⟩]

/-- When both successors have the value two, the last job goes out with these values. -/
def diamondEnded : List (Happening Nat) :=
  diamondBegun (.succeeded [(2, 2)]) ++ [.reported 3 (.succeeded [(1, 2)]),
    .launched ⟨4, [3], [(1, 2), (2, 2)], [], 1, Cost.ofNat 1⟩, .reported 4 (.succeeded [(3, 5)])]

/-- When the second job is dropped, the third one still goes out and is reported on, and the last
one does not go out. -/
def diamondBroken (report : Report Nat) : List (Happening Nat) :=
  diamondBegun .dropped ++ [.reported 3 report]

/-- The moves up to the launch of the third job. -/
def diamondMoves (report : Report Nat) : List (DispatcherMove Nat) :=
  [.report 1 (.succeeded [(0, 1)]), .report 2 report, .resume]

end Graph

namespace Plan

section Diamond

variable {plan : Plan}
  (planned : ofGraph Graph.diamond (fun _ => Cost.ofNat 1) { maxItems := 1 } = .ok plan)
include planned

/-- When the third job of the diamond has gone out the last fragment waits for this one only. -/
theorem exists_diamondBegun :
    ∃ turn run,
      (Run.ofPlan Graph.diamond plan).History (Graph.diamondBegun (.succeeded [(2, 2)])) turn ∧
      turn.run? = some run ∧ run.agenda.flatten = [] ∧
      (run.progress.toList.map fun entry => (entry.1, entry.2.blocked)) =
        [(0, 1), (1, 0), (2, 0), (3, 0), (4, 1)] ∧
      run.outcome = none := by
  have course : ∃ found ∈ (Run.ofPlan Graph.diamond plan).course?
      (Graph.diamondMoves (.succeeded [(2, 2)])),
      found.1 = Graph.diamondBegun (.succeeded [(2, 2)]) ∧
        ∃ run ∈ found.2.run?, run.agenda.flatten = [] ∧
          (run.progress.toList.map fun entry => (entry.1, entry.2.blocked)) =
            [(0, 1), (1, 0), (2, 0), (3, 0), (4, 1)] ∧
          run.outcome = none := by
    cases planned.symm.trans (ofGraph_of_order Graph.executionOrder_diamond _ _)
    decide +kernel
  exact Run.exists_of_course course

/-- When all jobs of the diamond have succeeded nothing is left, and there are values. -/
theorem exists_diamondEnded :
    ∃ turn run,
      (Run.ofPlan Graph.diamond plan).History Graph.diamondEnded turn ∧
      turn.run? = some run ∧ run.agenda.flatten = [] ∧ run.outstanding = ∅ ∧
      (run.progress.toList.map fun entry => (entry.1, entry.2.blocked)) =
        [(0, 0), (1, 0), (2, 0), (3, 0), (4, 0)] ∧
      run.outcome = some (.ok {
        configuration := "diamond"
        outputs := SortedMap.ofList [(0, 1), (1, 2), (2, 2), (3, 5)]
        timed := SortedSet.ofList [1, 2, 3, 4] }) := by
  have course : ∃ found ∈ (Run.ofPlan Graph.diamond plan).course?
      (Graph.diamondMoves (.succeeded [(2, 2)]) ++
        [.report 3 (.succeeded [(1, 2)]), .report 4 (.succeeded [(3, 5)])]),
      found.1 = Graph.diamondEnded ∧
        ∃ run ∈ found.2.run?, run.agenda.flatten = [] ∧ run.outstanding = ∅ ∧
          (run.progress.toList.map fun entry => (entry.1, entry.2.blocked)) =
            [(0, 0), (1, 0), (2, 0), (3, 0), (4, 0)] ∧
          run.outcome = some (.ok {
            configuration := "diamond"
            outputs := SortedMap.ofList [(0, 1), (1, 2), (2, 2), (3, 5)]
            timed := SortedSet.ofList [1, 2, 3, 4] }) := by
    cases planned.symm.trans (ofGraph_of_order Graph.executionOrder_diamond _ _)
    decide +kernel
  exact Run.exists_of_course course

/-- When the second job of the diamond has been dropped the error is about it, whether the third
job, which does not depend on it, succeeds or fails. -/
theorem exists_diamondBroken {report : Report Nat} {failed : Bool}
    (either : report = .succeeded [(1, 2)] ∧ failed = false ∨
      report = .failed ⟨"no value", []⟩ ∧ failed = true) :
    ∃ turn run,
      (Run.ofPlan Graph.diamond plan).History (Graph.diamondBroken report) turn ∧
      turn.run? = some run ∧ run.agenda.flatten = [] ∧ run.outstanding = ∅ ∧
      (run.progress.toList.map fun entry => (entry.1, entry.2.failed)) =
        [(0, true), (1, false), (2, true), (3, failed), (4, true)] ∧
      run.outcome = some (.error (.fragment 2 [2] [2, 3]
        ⟨"job for fragment #2 dropped without a result", []⟩)) := by
  have course : ∃ found ∈ (Run.ofPlan Graph.diamond plan).course?
      (Graph.diamondMoves .dropped ++ [.report 3 report]),
      found.1 = Graph.diamondBroken report ∧
        ∃ run ∈ found.2.run?, run.agenda.flatten = [] ∧ run.outstanding = ∅ ∧
          (run.progress.toList.map fun entry => (entry.1, entry.2.failed)) =
            [(0, true), (1, false), (2, true), (3, failed), (4, true)] ∧
          run.outcome = some (.error (.fragment 2 [2] [2, 3]
            ⟨"job for fragment #2 dropped without a result", []⟩)) := by
    cases planned.symm.trans (ofGraph_of_order Graph.executionOrder_diamond _ _)
    rcases either with ⟨rfl, rfl⟩ | ⟨rfl, rfl⟩
    · decide +kernel
    · decide +kernel
  exact Run.exists_of_course course

end Diamond

/-- Along a history of the diamond in which all jobs succeed, the last fragment waits for the third
one when this has gone out, and nothing waits in the end; and when the second job is dropped and
the third one fails, the walks that mark what depends on them find all they meet. -/
theorem exists_orderly_diamond :
    Graph.diamond.Acyclic ∧
      ∃ plan, ofGraph Graph.diamond (fun _ => Cost.ofNat 1) { maxItems := 1 } = .ok plan ∧
        Graph.diamond.Builds (fun _ => Cost.ofNat 1) { maxItems := 1 } plan ∧
        (∃ turn run,
          (Run.ofPlan Graph.diamond plan).History (Graph.diamondBegun (.succeeded [(2, 2)])) turn ∧
          turn.run? = some run ∧ run.AtRest ∧
          (run.progress.toList.map fun entry => (entry.1, entry.2.blocked)) =
            [(0, 1), (1, 0), (2, 0), (3, 0), (4, 1)] ∧
          Run.Orderly plan.layout (Graph.diamondBegun (.succeeded [(2, 2)])) turn) ∧
        (∃ turn run,
          (Run.ofPlan Graph.diamond plan).History Graph.diamondEnded turn ∧
          turn.run? = some run ∧ run.AtRest ∧
          (run.progress.toList.map fun entry => (entry.1, entry.2.blocked)) =
            [(0, 0), (1, 0), (2, 0), (3, 0), (4, 0)] ∧
          Run.Orderly plan.layout Graph.diamondEnded turn) ∧
        ∃ turn run,
          (Run.ofPlan Graph.diamond plan).History
            (Graph.diamondBroken (.failed ⟨"no value", []⟩)) turn ∧
          turn.run? = some run ∧ run.AtRest ∧
          (run.progress.toList.map fun entry => (entry.1, entry.2.failed)) =
            [(0, true), (1, false), (2, true), (3, true), (4, true)] ∧
          Run.Orderly plan.layout (Graph.diamondBroken (.failed ⟨"no value", []⟩)) turn := by
  obtain ⟨plan, planned, built, orderly⟩ := exists_orderly Graph.diamond_acyclic
    (fun _ => Cost.ofNat 1) { maxItems := 1 }
  refine ⟨Graph.diamond_acyclic, plan, planned, built, ?_, ?_, ?_⟩
  · obtain ⟨turn, run, history, running, nothing, counts, _⟩ := exists_diamondBegun planned
    exact ⟨turn, run, history, running, Run.atRest_of_flatten nothing, counts,
      orderly _ turn history⟩
  · obtain ⟨turn, run, history, running, nothing, _, counts, _⟩ := exists_diamondEnded planned
    exact ⟨turn, run, history, running, Run.atRest_of_flatten nothing, counts,
      orderly _ turn history⟩
  · obtain ⟨turn, run, history, running, nothing, _, marks, _⟩ :=
      exists_diamondBroken planned (.inr ⟨rfl, rfl⟩)
    exact ⟨turn, run, history, running, Run.atRest_of_flatten nothing, marks,
      orderly _ turn history⟩

end Plan

end ValueEngine
