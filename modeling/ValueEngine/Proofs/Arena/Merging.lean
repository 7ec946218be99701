import ValueEngine.Proofs.Arena.Joining

/-!
# Merging in place

The passes of merging on an arena do what they do on the layout that it holds, and every lookup on
the way finds something. A scan looks up candidates that it has seen in the arena. Pairs that can
be joined one after the other keep their fragments until it is their turn. A pass along the numbers
that there are at its start meets each of them before the fragment leaves, since only the fragment
that is looked at can become part of another one.

Merging stops after two passes in a row that join nothing. A layout is at rest then, and two
passes more would leave it as it is (`Arena.Holds.merge`).
-/

set_option autoImplicit false

namespace ValueEngine.Arena

variable {arena : Arena} {layout : Layout} {graph : Graph} {sizing : Sizing}

/-! ## Scans -/

/-- The state of a scan by numbers. -/
def Scan.ofPairing (pairing : Layout.Pairing) : Scan where
  candidates := pairing.waiting.map fun fragment => (fragment.inputs, fragment.id)
  pairs := pairing.pairs

/-- A scan looks up candidates that are there. -/
theorem Holds.scanNext (holds : arena.Holds layout) {pairing : Layout.Pairing}
    (present : ∀ waits ∈ pairing.waiting, waits ∈ layout.fragments) (fragment : Fragment) :
    arena.scanNext sizing (.ofPairing pairing) fragment =
      some (.ofPairing (pairing.next sizing fragment)) := by
  unfold Arena.scanNext Layout.Pairing.next
  by_cases candidate : fragment.isCandidate sizing = true
  · rw [if_pos candidate, if_pos candidate]
    simp only [Scan.ofPairing, List.find?_map, List.filter_map, Function.comp_def]
    cases found : pairing.waiting.find? fun other => decide (other.inputs = fragment.inputs) with
    | none => rfl
    | some other =>
      have member := present other (List.mem_of_find?_eq_some found)
      simp only [Option.map_some, holds.find (Layout.mem_all_of_mem member), Option.bind_eq_bind,
        Option.bind_some]
      split
      · rfl
      · split <;> rfl
  · rw [if_neg candidate, if_neg candidate]

/-- **A scan of an arena finds the pairs of the layout that it holds.** -/
theorem Holds.pairs (holds : arena.Holds layout) (sizing : Sizing) :
    arena.pairs sizing = some (layout.pairs sizing) := by
  have nodup : (layout.fragments.map Fragment.id).Nodup := (List.nodup_cons.mp holds.ids_nodup).2
  obtain ⟨scan, scanned, rfl⟩ : ∃ scan,
      layout.fragments.foldlM (arena.scanNext sizing) {} = some scan ∧
        scan = .ofPairing (layout.fragments.foldl (Layout.Pairing.next sizing) {}) := by
    apply exists_foldlM fun done scan =>
      scan = Scan.ofPairing (List.foldl (Layout.Pairing.next sizing) {} done)
    · rfl
    · rintro done next rest _ split rfl
      have nodupDone : (([] ++ done).map Fragment.id).Nodup := by
        rw [split, List.map_append, List.nodup_append] at nodup
        exact nodup.1
      have consistent := (Layout.Pairing.Consistent.start sizing).foldl nodupDone
      refine ⟨_, holds.scanNext (fun waits member => ?_) next, ?_⟩
      · rw [split]
        exact List.mem_append_left _ (consistent.waiting_mem waits member).1
      · rw [List.foldl_append]
        rfl
  rw [Arena.pairs, holds.fragments_eq, scanned]
  rfl

/-! ## Fragments with the same inputs -/

/-- A pair is joined. -/
theorem Holds.joinPair (holds : arena.Holds layout) (sound : layout.Sound graph)
    {pair : FragmentId × FragmentId} (matched : layout.Matched sizing pair)
    (distinct : pair.1 ≠ pair.2) :
    ∃ later, arena.joinPair pair = some later ∧ later.Holds (layout.joinPair pair) := by
  obtain ⟨first, firstMember, second, secondMember, firstId, secondId, same, _⟩ := matched
  rw [← firstId, ← secondId] at distinct
  have firstFound := holds.find (Layout.mem_all_of_mem firstMember)
  have secondFound := holds.find (Layout.mem_all_of_mem secondMember)
  rw [Arena.joinPair, Layout.joinPair, ← firstId, ← secondId, firstFound, secondFound,
    sound.fragment?_eq (Layout.mem_all_of_mem firstMember),
    sound.fragment?_eq (Layout.mem_all_of_mem secondMember)]
  simp only [Option.bind_eq_bind, Option.bind_some]
  split
  · exact holds.append sound secondMember firstMember distinct.symm same.symm
  · exact holds.append sound firstMember secondMember distinct same

/-- Pairs are joined one after the other. -/
theorem Holds.foldlM_joinPair {pairs : List (FragmentId × FragmentId)}
    (holds : arena.Holds layout) (sound : layout.Sound graph) (ready : layout.Ready sizing pairs) :
    ∃ later, pairs.foldlM Arena.joinPair arena = some later ∧
      later.Holds (pairs.foldl Layout.joinPair layout) := by
  induction pairs generalizing arena layout with
  | nil => exact ⟨arena, rfl, holds⟩
  | cons pair rest ih =>
    have distinct : pair.1 ≠ pair.2 := by
      have nodup := ready.nodup
      rw [List.flatMap_cons, List.nodup_append] at nodup
      simpa using nodup.1
    obtain ⟨merge, readyRest, _⟩ := sound.joinPair ready
    obtain ⟨later, joined, holdsLater⟩ :=
      holds.joinPair sound (ready.matched pair List.mem_cons_self) distinct
    obtain ⟨last, joinedRest, holdsLast⟩ := ih holdsLater (merge.sound sound) readyRest
    refine ⟨last, ?_, holdsLast⟩
    rw [List.foldlM_cons, joined]
    exact joinedRest

/-- **The first pass in place**: it tells whether it leaves fewer fragments. -/
theorem Holds.mergeAlike (holds : arena.Holds layout) (sizing : Sizing)
    (settled : layout.Settled graph) (changed : Bool) :
    ∃ later, arena.mergeAlike sizing changed =
        some (later, changed || decide ((layout.mergeAlike sizing).size < layout.size)) ∧
      later.Holds (layout.mergeAlike sizing) := by
  fun_induction Layout.mergeAlike layout sizing generalizing arena changed with
  | case1 layout next smaller =>
    rename_i ih
    obtain ⟨merged, _⟩ := settled.joinAlike sizing
    have ready := settled.ready_pairs sizing
    obtain ⟨some, next_eq⟩ : layout.pairs sizing ≠ [] ∧
        next = ((layout.pairs sizing).foldl Layout.joinPair layout).prune := by
      unfold next Layout.joinAlike at smaller ⊢
      split at smaller
      case h_1 => exact absurd smaller (Nat.lt_irrefl _)
      case h_2 some => exact ⟨some, rfl⟩
    obtain ⟨joined, joinedEq, holdsJoined⟩ := holds.foldlM_joinPair settled.toSound ready
    have soundJoined := settled.merges (settled.foldl_joinPair ready).1
    obtain ⟨pruned, prunedEq, holdsPruned⟩ := holdsJoined.prune soundJoined
    obtain ⟨last, lastEq, holdsLast⟩ := ih (next_eq ▸ holdsPruned) merged.settled true
    refine ⟨last, ?_, holdsLast⟩
    have fewer : (next.mergeAlike sizing).size < layout.size :=
      Nat.lt_of_le_of_lt (merged.settled.mergeAlike sizing).1.size_le smaller
    have live_lt : pruned.live < arena.live := by
      rw [holds.live_eq, holdsPruned.live_eq, ← next_eq]
      exact smaller
    rw [Arena.mergeAlike, holds.pairs sizing]
    simp only [Option.bind_eq_bind, Option.bind_some, List.isEmpty_iff, some, if_false, joinedEq,
      prunedEq, live_lt, if_true, lastEq, fewer, decide_true, Bool.or_true, Bool.true_or]
  | case2 layout next =>
    rename_i stable
    obtain ⟨none, same⟩ := (settled.joinAlike sizing).2 (Nat.le_of_not_lt stable)
    have stays : next = layout := same
    rw [stays, Arena.mergeAlike, holds.pairs sizing, none]
    refine ⟨arena, ?_, holds⟩
    simp

/-! ## Fragments with one dependent -/

/-- A fragment is looked at by the second pass: nothing happens, or it becomes part of its only
dependent, and this is counted. -/
structure Chained (layout : Layout) (sizing : Sizing) (id : FragmentId) (merged : Nat)
    (later : Arena) (count : Nat) : Prop where
  holds : later.Holds (layout.joinToDependent sizing id)
  counts : count = merged ∧ layout.joinToDependent sizing id = layout ∨
    count = merged + 1 ∧ (layout.joinToDependent sizing id).size < layout.size
  stay : ∀ other ∈ layout.ids, other ≠ id → other ∈ (layout.joinToDependent sizing id).ids

/-- The fragment becomes part of its only dependent. -/
theorem Holds.chained_prepend (holds : arena.Holds layout) (settled : layout.Settled graph)
    {host guest : Fragment} (hostMember : host ∈ layout.fragments)
    (guestMember : guest ∈ layout.fragments) (only : ∀ id, id ∈ guest.dependents ↔ id = host.id)
    (joined_eq : layout.joinToDependent sizing guest.id = layout.joinBefore host guest)
    (merged : Nat) :
    ∃ later, arena.prepend host.id guest.id = some later ∧
      Chained layout sizing guest.id merged later (merged + 1) := by
  have guestInside := Layout.mem_all_of_mem guestMember
  have distinct : host.id ≠ guest.id := fun same =>
    settled.not_mem_dependents guestInside ((only guest.id).mpr same.symm)
  obtain ⟨later, joined, holdsLater⟩ :=
    holds.prepend settled.toSound hostMember guestMember distinct only
  have consumed : guest.id ∈ host.inputs :=
    (settled.linked guest guestInside host (Layout.mem_all_of_mem hostMember)).mpr
      ((only host.id).mpr rfl)
  have notConsumed := settled.asymm guestMember hostMember consumed
  have contraction := settled.contraction_joinBefore hostMember guestMember notConsumed only
  refine ⟨later, joined, joined_eq ▸ holdsLater, .inr ⟨rfl, ?_⟩, fun id member differs => ?_⟩
  · rw [joined_eq]
    exact Layout.size_mapWithout_lt guestMember _
  · rw [joined_eq, contraction.mem_ids (settled.id_ne_root guestMember)]
    exact ⟨member, differs⟩

/-- **The second pass looks at a fragment in place.** -/
theorem Holds.joinToDependent (holds : arena.Holds layout) (sizing : Sizing)
    (settled : layout.Settled graph) {guest : Fragment} (guestMember : guest ∈ layout.fragments)
    (merged : Nat) :
    ∃ later count, Arena.joinToDependent sizing (arena, merged) guest.id = some (later, count) ∧
      Chained layout sizing guest.id merged later count := by
  have guestFound := holds.find (Layout.mem_all_of_mem guestMember)
  have dependents_eq := settled.dependents_eq (Layout.mem_all_of_mem guestMember)
  have unchanged : layout.joinToDependent sizing guest.id = layout →
      Chained layout sizing guest.id merged arena merged := fun same =>
    ⟨same.symm ▸ holds, .inl ⟨rfl, same⟩, fun _ member _ => same.symm ▸ member⟩
  match shape : guest.dependents.toList with
  | [] =>
    refine ⟨arena, merged, ?_, unchanged ?_⟩
    · simp [Arena.joinToDependent, guestFound, shape]
    · simp [Layout.joinToDependent, dependents_eq, shape]
  | first :: second :: rest =>
    refine ⟨arena, merged, ?_, unchanged ?_⟩
    · simp [Arena.joinToDependent, guestFound, shape]
    · simp [Layout.joinToDependent, dependents_eq, shape]
  | [dependent] =>
    have only : ∀ id, id ∈ guest.dependents ↔ id = dependent := by
      intro id
      rw [← SortedSet.mem_toList, shape, List.mem_singleton]
    by_cases isRoot : dependent = FragmentId.root
    · refine ⟨arena, merged, ?_, unchanged ?_⟩
      · simp [Arena.joinToDependent, guestFound, shape, isRoot]
      · simp [Layout.joinToDependent, dependents_eq, shape, isRoot]
    obtain ⟨host, hostInside, rfl⟩ := List.mem_map.mp
      (settled.dependents_mem guest (Layout.mem_all_of_mem guestMember) dependent
        ((only dependent).mpr rfl))
    have hostMember := Layout.mem_fragments_of_ne_root hostInside isRoot
    have hostFound := holds.find hostInside
    have hostFoundThere := settled.fragment?_eq hostInside
    have guestFoundThere := settled.fragment?_eq (Layout.mem_all_of_mem guestMember)
    by_cases fits : guest.mayJoin sizing host = true
    · have joined_eq : layout.joinToDependent sizing guest.id = layout.joinBefore host guest := by
        simp [Layout.joinToDependent, dependents_eq, shape, isRoot, hostFoundThere,
          guestFoundThere, fits]
      obtain ⟨later, joined, chained⟩ :=
        holds.chained_prepend settled hostMember guestMember only joined_eq merged
      refine ⟨later, merged + 1, ?_, chained⟩
      simp [Arena.joinToDependent, guestFound, shape, isRoot, hostFound, fits, joined]
    · refine ⟨arena, merged, ?_, unchanged ?_⟩
      · simp [Arena.joinToDependent, guestFound, shape, isRoot, hostFound, fits]
      · simp [Layout.joinToDependent, dependents_eq, shape, isRoot, hostFoundThere,
          guestFoundThere, fits]

/-- The second pass has looked at some fragments; those that it has not looked at are there. -/
structure ChainedAll (layout : Layout) (sizing : Sizing) (done : List FragmentId)
    (state : Arena × Nat) : Prop where
  holds : state.1.Holds (done.foldl (Layout.joinToDependent sizing) layout)
  counts : 0 < state.2 ↔ (done.foldl (Layout.joinToDependent sizing) layout).size < layout.size
  stay : ∀ id ∈ layout.ids, id ∉ done → id ∈ (done.foldl (Layout.joinToDependent sizing) layout).ids

theorem ChainedAll.next {done : List FragmentId} {state : Arena × Nat} {id : FragmentId}
    {later : Arena} {count : Nat} (chainedAll : ChainedAll layout sizing done state)
    (chained : Chained (done.foldl (Layout.joinToDependent sizing) layout) sizing id state.2 later
      count)
    (size_le : (done.foldl (Layout.joinToDependent sizing) layout).size ≤ layout.size) :
    ChainedAll layout sizing (done ++ [id]) (later, count) := by
  refine ⟨?_, ?_, ?_⟩ <;> rw [List.foldl_append, List.foldl_cons, List.foldl_nil]
  · exact chained.holds
  · rcases chained.counts with ⟨same, still⟩ | ⟨more, fewer⟩
    · rw [still]
      exact same ▸ chainedAll.counts
    · exact iff_of_true (more ▸ Nat.succ_pos _) (Nat.lt_of_lt_of_le fewer size_le)
  · intro other member absent
    rw [List.mem_append, List.mem_singleton, not_or] at absent
    exact chained.stay other (chainedAll.stay other member absent.1) absent.2

/-- **The second pass in place**: it tells whether it leaves fewer fragments. -/
theorem Holds.mergeChains (holds : arena.Holds layout) (sizing : Sizing)
    (settled : layout.Settled graph) :
    ∃ later, arena.mergeChains sizing =
        some (later, decide ((layout.mergeChains sizing).size < layout.size)) ∧
      later.Holds (layout.mergeChains sizing) := by
  have nodup : layout.ids.Nodup := (List.nodup_cons.mp holds.ids_nodup).2
  obtain ⟨⟨later, count⟩, run, holdsLater, counts, _⟩ : ∃ last,
      layout.ids.foldlM (Arena.joinToDependent sizing) (arena, 0) = some last ∧
        ChainedAll layout sizing layout.ids last := by
    apply exists_foldlM (ChainedAll layout sizing)
    · exact ⟨holds, by simp, fun id member _ => member⟩
    · rintro done next rest ⟨state, count⟩ split chainedAll
      have inside : next ∈ layout.ids := by simp [split]
      have fresh : next ∉ done := not_mem_before nodup split
      have merged := (settled.foldl_joinToDependent sizing done).1
      obtain ⟨guest, guestMember, rfl⟩ := Layout.mem_ids_iff.mp (chainedAll.stay next inside fresh)
      obtain ⟨later, laterCount, stepped, chained⟩ :=
        chainedAll.holds.joinToDependent sizing merged.settled guestMember count
      exact ⟨(later, laterCount), stepped, chainedAll.next chained merged.size_le⟩
  refine ⟨later, ?_, holdsLater⟩
  have ids_eq : arena.fragments.map Fragment.id = layout.ids :=
    congrArg (List.map Fragment.id) holds.fragments_eq
  rw [Arena.mergeChains, ids_eq, run]
  simp only [Option.bind_eq_bind, Option.bind_some, Layout.mergeChains, decide_eq_decide.mpr counts]
  rfl

/-! ## Both passes in turn -/

/-- One pass more ends the merging of a layout in which a scan finds no pair. -/
theorem Holds.merge_one (holds : arena.Holds layout) (settled : layout.Settled graph)
    (none : layout.pairs sizing = []) :
    ∃ later, arena.merge sizing 1 = some later ∧ later.Holds layout := by
  obtain ⟨later, alike, holdsLater⟩ := holds.mergeAlike sizing settled false
  rw [Layout.mergeAlike_of_pairs_eq_nil none] at alike holdsLater
  refine ⟨later, ?_, holdsLater⟩
  rw [Arena.merge, alike]
  simp [maxIdle]

/-- **Merging in place ends and makes of an arena what merging makes of the layout that it
holds.** -/
theorem Holds.merge (holds : arena.Holds layout) (sizing : Sizing)
    (settled : layout.Settled graph) :
    ∃ later, arena.merge sizing 0 = some later ∧ later.Holds (layout.mergeAll sizing) := by
  induction size : layout.size using Nat.strongRecOn generalizing arena layout with
  | _ size ih =>
    subst size
    obtain ⟨alike, unpaired⟩ := settled.mergeAlike sizing
    obtain ⟨chains, unchanged⟩ := alike.settled.mergeChains sizing
    obtain ⟨first, firstEq, holdsFirst⟩ := holds.mergeAlike sizing settled false
    obtain ⟨second, secondEq, holdsSecond⟩ :=
      holdsFirst.mergeChains sizing alike.settled
    have alike_le := alike.size_le
    have chains_le := chains.size_le
    have live_lt_iff : second.live < arena.live ↔
        ((layout.mergeAlike sizing).mergeChains sizing).size < layout.size := by
      rw [holds.live_eq, holdsSecond.live_eq]
    rw [Arena.merge, firstEq, Layout.mergeAll]
    simp only [Option.bind_eq_bind, Option.bind_some, secondEq, Bool.false_or]
    generalize layout.mergeAlike sizing = next at *
    by_cases joinedChains : (next.mergeChains sizing).size < next.size
    · -- The second pass has joined something: both go on.
      have fewer : (next.mergeChains sizing).size < layout.size :=
        Nat.lt_of_lt_of_le joinedChains alike_le
      obtain ⟨later, merged, holdsLater⟩ := ih _ fewer holdsSecond chains.settled rfl
      refine ⟨later, ?_, if_pos fewer ▸ holdsLater⟩
      by_cases joinedAlike : next.size < layout.size <;>
        simp [joinedAlike, joinedChains, maxIdle, merged, live_lt_iff, fewer]
    · obtain ⟨same, unchained⟩ := unchanged (Nat.le_of_not_lt joinedChains)
      rw [same] at holdsSecond live_lt_iff joinedChains ⊢
      by_cases joinedAlike : next.size < layout.size
      · -- Only the first pass has: one more pass tells that it is over.
        obtain ⟨later, merged, holdsLater⟩ := holdsSecond.merge_one alike.settled unpaired
        refine ⟨later, ?_, ?_⟩
        · simp [joinedAlike, maxIdle, merged, live_lt_iff]
        · rw [if_pos joinedAlike, Layout.Exhausted.mergeAll_eq ⟨unpaired, unchained⟩]
          exact holdsLater
      · refine ⟨second, ?_, ?_⟩
        · simp [joinedAlike, maxIdle]
        · rw [if_neg joinedAlike]
          exact holdsSecond

end ValueEngine.Arena
