import ValueEngine.Proofs.Execution.Mishaps

/-!
# How far a failure reaches

The error of a run lists the nodes of the first fragment that failed and of all that
depends on it. Nothing that depends on a fragment with a mishap is ever launched, because
a fragment waits for everything that it depends on, and what had a mishap never completes.
All the rest goes on: when nothing is outstanding and no call is left to go on, the
fragments that were launched are those that depend on no mishap (`Plan.exists_contained`).
-/

set_option autoImplicit false

namespace ValueEngine

universe u

open Relation

variable {α : Type u}

namespace Run

variable {graph : Graph} {plan : Plan} {happened : List (Happening α)} {run : Run α}
  {due : List Task} {first last : FragmentId}

/-! ## What has been launched -/

/-- The root is never launched. -/
theorem Books.exists_fragment_of_launched (books : run.Books due) (launched : run.Launched last)
    (known : last ∈ run.plan.layout.all.map Fragment.id) :
    ∃ fragment ∈ run.plan.layout.fragments, fragment.id = last := by
  obtain ⟨fragment, member, rfl⟩ := List.mem_map.1 known
  obtain ⟨progress, found, entry⟩ := books.entries fragment member
  obtain ⟨_, same, flagged⟩ := launched
  cases found.symm.trans same
  exact ⟨fragment, Layout.mem_fragments_of_ne_root member (entry.unblocked flagged).2, rfl⟩

/-- What a launched fragment depends on has completed. -/
theorem Books.completed_of_reaches (books : run.Books due) (sound : run.plan.layout.Sound graph)
    (path : TransGen run.plan.layout.Feeds first last) (launched : run.Launched last) :
    first ∈ run.completed := by
  have along : ∀ {first last : FragmentId}, run.plan.layout.Feeds first last →
      run.Launched last → first ∈ run.completed := by
    intro first last feeds launched
    obtain ⟨producer, member, rfl, isRoot | ⟨consumer, consumerMember, rfl, consumed⟩⟩ :=
      sound.cases_of_feeds feeds
    · obtain ⟨fragment, inside, same⟩ := books.exists_fragment_of_launched launched
        (isRoot ▸ List.mem_map_of_mem Layout.root_mem_all)
      exact absurd (same.trans isRoot) (sound.id_ne_root inside)
    · exact books.completed_of_feeds consumerMember launched consumed
  induction path using TransGen.head_induction_on with
  | single feeds => exact along feeds launched
  | head feeds _ ih => exact along feeds (books.launched_of_completed ih)

/-- What depends on a fragment with a mishap has not been launched. -/
theorem Tracked.not_launched (tracked : Tracked run.plan.layout happened run)
    (books : run.Books due) (sound : run.plan.layout.Sound graph)
    {mishap : FragmentId × Cause} (member : mishap ∈ mishaps happened)
    (path : TransGen run.plan.layout.Feeds mishap.1 last) : ¬ run.Launched last := by
  intro launched
  obtain ⟨_, _, incomplete⟩ := tracked.answered mishap member
  exact incomplete (books.completed_of_reaches sound path launched)

/-- What was launched and is not outstanding has completed or had a mishap itself. -/
theorem Tracked.completed_or_mishap (tracked : Tracked run.plan.layout happened run)
    (books : run.Books due) (sound : run.plan.layout.Sound graph) {fragment : Fragment}
    (member : fragment ∈ run.plan.layout.fragments) (launched : run.Launched fragment.id)
    (answered : fragment.id ∉ run.outstanding) :
    fragment.id ∈ run.completed ∨ ∃ mishap ∈ mishaps happened, mishap.1 = fragment.id := by
  obtain ⟨progress, found, entry⟩ := books.entries fragment (Layout.mem_all_of_mem member)
  obtain ⟨_, same, flagged⟩ := id launched
  cases found.symm.trans same
  rcases entry.answered flagged with outstanding | completed | failed
  · exact absurd outstanding answered
  · exact Or.inl completed
  · obtain ⟨mishap, known, path⟩ := (tracked.failed_iff fragment.id).1 ⟨progress, found, failed⟩
    rcases reflTransGen_iff_eq_or_transGen.1 path with same | further
    · exact Or.inr ⟨mishap, known, same.symm⟩
    · exact absurd launched (tracked.not_launched books sound known further)

/-- When nothing is outstanding or due, what depends on no mishap has been launched. The
induction is on the rank of the fragment: its inputs depend on no mishap either, so they have
been launched, and have had no mishap themselves. -/
theorem Tracked.launched_of_unharmed (tracked : Tracked run.plan.layout happened run)
    (books : run.Books []) (sound : run.plan.layout.Sound graph) (nothing : run.outstanding = ∅)
    {fragment : Fragment} (member : fragment ∈ run.plan.layout.fragments)
    (unharmed : ∀ mishap ∈ mishaps happened,
      ¬ TransGen run.plan.layout.Feeds mishap.1 fragment.id) : run.Launched fragment.id := by
  obtain ⟨rank, rises⟩ := sound.ranked
  induction height : rank fragment.id using Nat.strongRecOn generalizing fragment with
  | ind height ih =>
    obtain ⟨progress, found, entry⟩ := books.entries fragment (Layout.mem_all_of_mem member)
    have supplied : run.pending fragment = 0 := by
      refine pending_eq_zero_iff.2 fun input consumed => ?_
      obtain ⟨producer, producerMember, rfl⟩ := Layout.mem_ids_iff.1
        (sound.inputs_mem fragment (Layout.mem_all_of_mem member) input consumed)
      have feeds : run.plan.layout.Feeds producer.id fragment.id :=
        (sound.feeds_iff (Layout.mem_all_of_mem producerMember)).2
          ((sound.linked producer (Layout.mem_all_of_mem producerMember) fragment
            (Layout.mem_all_of_mem member)).1 consumed)
      have launched : run.Launched producer.id :=
        ih _ (height ▸ rises fragment member _ consumed) producerMember
          (fun mishap known path => unharmed mishap known (path.tail feeds)) rfl
      have answered : producer.id ∉ run.outstanding := nothing ▸ SortedSet.not_mem_empty _
      rcases tracked.completed_or_mishap books sound producerMember launched answered with
        completed | ⟨mishap, known, same⟩
      · exact completed
      · exact absurd (TransGen.single (same ▸ feeds)) (unharmed mishap known)
    have free : progress.blocked = 0 := by
      rw [entry.blocked_eq, supplied, List.count_nil]
    by_cases failed : progress.failed = true
    · obtain ⟨mishap, known, path⟩ := (tracked.failed_iff fragment.id).1 ⟨progress, found, failed⟩
      rcases reflTransGen_iff_eq_or_transGen.1 path with same | further
      · exact same ▸ (tracked.answered mishap known).1
      · exact absurd further (unharmed mishap known)
    · have ready := entry.ready (sound.id_ne_root member) free (Bool.eq_false_iff.2 failed)
      exact ⟨progress, found, ready.resolve_right (by simp)⟩

/-! ## Contained failures -/

/-- What holds of failures at a turn of a run with fragments `layout` after what has
happened. -/
structure Contained (layout : Layout) (happened : List (Happening α)) (run : Run α) : Prop where
  /-- The error of the first mishap names the nodes of its fragment, and lists them and those
  of all fragments that depend on it, each once. -/
  blamed : ∀ mishap, (mishaps happened).head? = some mishap →
    ∃ error, run.outcome = some (.error error) ∧ layout.Blames mishap error
  /-- What depends on a mishap is not launched. -/
  withheld : ∀ mishap ∈ mishaps happened, ∀ id, TransGen layout.Feeds mishap.1 id →
    id ∉ launches happened
  /-- When nothing is outstanding and no call is left to go on, the fragments that depend on no
  mishap have been launched, and no other. -/
  launched_iff : run.outstanding = ∅ → run.agenda.flatten = [] → ∀ id,
    id ∈ launches happened ↔ ∃ fragment ∈ layout.fragments, fragment.id = id ∧
      ∀ mishap ∈ mishaps happened, ¬ TransGen layout.Feeds mishap.1 id
  /-- They have succeeded, apart from those that had a mishap themselves. -/
  finished : run.outstanding = ∅ → ∀ id ∈ launches happened,
    id ∈ successes happened ∨ ∃ mishap ∈ mishaps happened, mishap.1 = id

/-- At every turn of a history the failures are contained. -/
theorem History.contained {turn : RunTurn α} (settled : plan.layout.Settled graph)
    (history : (ofPlan graph plan).History happened turn) :
    ∃ run, turn.run? = some run ∧ Contained plan.layout happened run := by
  obtain ⟨run, running, books, recorded, tracked⟩ := history.tracked settled
  have layout_eq : run.plan.layout = plan.layout := congrArg Plan.layout recorded.plan_eq
  have sound : run.plan.layout.Sound graph := layout_eq ▸ settled.toSound
  rw [← layout_eq] at tracked ⊢
  have isFragment : ∀ id ∈ launches happened,
      ∃ fragment ∈ run.plan.layout.fragments, fragment.id = id := by
    intro id launched
    obtain ⟨job, sent, rfl⟩ := mem_launches.1 launched
    obtain ⟨before, after, split⟩ := List.append_of_mem sent
    obtain ⟨fragment, member, same, _⟩ := recorded.supplied before job after split
    exact ⟨fragment, layout_eq ▸ member, same⟩
  have withheld : ∀ mishap ∈ mishaps happened, ∀ id,
      TransGen run.plan.layout.Feeds mishap.1 id → id ∉ launches happened := by
    intro mishap known id path launched
    exact tracked.not_launched books sound known path ((recorded.launched_iff id).2 launched)
  refine ⟨run, running, tracked.blamed, withheld, fun nothing nothingLeft id => ⟨fun launched => ?_,
    ?_⟩, fun nothing id launched => ?_⟩
  · obtain ⟨fragment, member, same⟩ := isFragment id launched
    exact ⟨fragment, member, same, fun mishap known path => withheld mishap known id path launched⟩
  · rintro ⟨fragment, member, rfl, unharmed⟩
    rw [nothingLeft] at books
    exact (recorded.launched_iff fragment.id).1
      (tracked.launched_of_unharmed books sound nothing member unharmed)
  · obtain ⟨fragment, member, rfl⟩ := isFragment id launched
    have answered : fragment.id ∉ run.outstanding := nothing ▸ SortedSet.not_mem_empty _
    rw [← recorded.completed_iff]
    exact tracked.completed_or_mishap books sound member
      ((recorded.launched_iff fragment.id).2 launched) answered

end Run

/-- **Whatever the dispatcher does, failures are contained**: what depends on a fragment that
failed or was dropped is reported and never launched, and everything else is launched. -/
theorem Plan.exists_contained {graph : Graph} (acyclic : graph.Acyclic) (cost : Node → Cost)
    (sizing : Sizing) :
    ∃ plan, ofGraph graph cost sizing = .ok plan ∧ graph.Builds cost sizing plan ∧
      ∀ (happened : List (Happening α)) (turn : RunTurn α),
        (Run.ofPlan graph plan).History happened turn →
          ∃ run, turn.run? = some run ∧ Run.Contained plan.layout happened run := by
  obtain ⟨plan, planned, built, settled⟩ := acyclic.exists_built cost sizing
  exact ⟨plan, planned, built, fun _ _ history => history.contained settled⟩

/-- The diamond, one node a fragment, when the second job is dropped: the third one, which does not
depend on it, goes out and succeeds, and the last one, which depends on both, is withheld. -/
theorem Plan.exists_contained_diamond :
    Graph.diamond.Acyclic ∧
      ∃ plan, ofGraph Graph.diamond (fun _ => Cost.ofNat 1) { maxItems := 1 } = .ok plan ∧
        Graph.diamond.Builds (fun _ => Cost.ofNat 1) { maxItems := 1 } plan ∧
        ∃ turn run,
          (Run.ofPlan Graph.diamond plan).History
            (Graph.diamondBroken (.succeeded [(1, 2)])) turn ∧
          turn.run? = some run ∧ run.outstanding = ∅ ∧ run.agenda.flatten = [] ∧
          run.outcome = some (.error (.fragment 2 [2] [2, 3]
            ⟨"job for fragment #2 dropped without a result", []⟩)) ∧
          launches (Graph.diamondBroken (.succeeded [(1, 2)])) = [1, 2, 3] ∧
          successes (Graph.diamondBroken (.succeeded [(1, 2)])) = [1, 3] ∧
          Run.Contained plan.layout (Graph.diamondBroken (.succeeded [(1, 2)])) run := by
  obtain ⟨plan, planned, built, contained⟩ := exists_contained Graph.diamond_acyclic
    (fun _ => Cost.ofNat 1) { maxItems := 1 }
  obtain ⟨turn, run, history, running, nothingLeft, nothing, _, settled⟩ :=
    exists_diamondBroken planned (.inl ⟨rfl, rfl⟩)
  obtain ⟨_, same, contained⟩ := contained _ turn history
  cases running.symm.trans same
  exact ⟨Graph.diamond_acyclic, plan, planned, built, turn, run, history, running, nothing,
    nothingLeft, settled, rfl, rfl, contained⟩

end ValueEngine
