import Mathlib.Logic.Relation
import ValueEngine.Proofs.Fragment.Pairing

/-!
# Merging keeps layouts settled

Merging is a sequence of steps: two fragments with the same inputs become one, a fragment is
joined to its only dependent, or the root stops waiting for what another fragment consumes
(`Layout.Merge`). Each step keeps a layout sound, and none makes more fragments of it.

A scan finds its pairs in a layout that changes while they are joined. When one pair is joined,
another one keeps both of its fragments as they are but for the links, and these turn from the one
joined fragment to the other alike, so their inputs are the same after it as well
(`Matched.joinAfter`).

Joining pairs can leave the root waiting for a fragment that another one consumes. This is mended
by `Layout.prune` at the end of a pass. Joining a fragment to its only dependent does not disturb
what the root waits for.

A pass that joins anything leaves fewer fragments. So when the two passes end, neither finds
anything to join in what is left (`Layout.Exhausted`).
-/

set_option autoImplicit false

namespace ValueEngine

open Relation

namespace Fragment

variable {host guest : Fragment}

theorem onJoinAfter_id (fragment : Fragment) :
    (onJoinAfter host guest fragment).id = fragment.id := by
  unfold onJoinAfter
  split <;> rfl

/-- Only the host gets more nodes and a higher cost. -/
theorem mayJoin_onJoinAfter (sizing : Sizing) {first second : Fragment}
    (firstOther : first.id ≠ host.id) (secondOther : second.id ≠ host.id) :
    (onJoinAfter host guest first).mayJoin sizing (onJoinAfter host guest second) =
      first.mayJoin sizing second := by
  rw [onJoinAfter, if_neg firstOther, onJoinAfter, if_neg secondOther]
  rfl

end Fragment

namespace Layout

variable {layout later : Layout} {graph : Graph} {sizing : Sizing}

/-! ## One step -/

/-- One step of merging. -/
inductive Merge (sizing : Sizing) (layout : Layout) : Layout → Prop
  /-- Two fragments with the same inputs become one. -/
  | alike {host guest : Fragment} (hostMember : host ∈ layout.fragments)
      (guestMember : guest ∈ layout.fragments) (distinct : host.id ≠ guest.id)
      (same : host.inputs = guest.inputs) (fits : host.mayJoin sizing guest = true) :
      Merge sizing layout (layout.joinAfter host guest)
  /-- A fragment becomes part of its only dependent. -/
  | chain {host guest : Fragment} (hostMember : host ∈ layout.fragments)
      (guestMember : guest ∈ layout.fragments) (distinct : host.id ≠ guest.id)
      (only : ∀ id, id ∈ guest.dependents ↔ id = host.id)
      (fits : guest.mayJoin sizing host = true) : Merge sizing layout (layout.joinBefore host guest)
  /-- The root stops waiting for what another fragment consumes. -/
  | prune : Merge sizing layout layout.prune

theorem size_mapWithout_le (id : FragmentId) (change : Fragment → Fragment) :
    (layout.mapWithout id change).length ≤ layout.size := by
  rw [mapWithout, List.length_map]
  exact List.length_filter_le _ _

theorem size_mapWithout_lt {guest : Fragment} (member : guest ∈ layout.fragments)
    (change : Fragment → Fragment) : (layout.mapWithout guest.id change).length < layout.size := by
  rw [mapWithout, List.length_map]
  exact List.length_filter_lt_length_iff_exists.mpr ⟨guest, member, by simp⟩

theorem size_prune : layout.prune.size = layout.size := List.length_map _

/-- No step makes more fragments. -/
theorem Merge.size_le (merge : Merge sizing layout later) : later.size ≤ layout.size := by
  cases merge with
  | alike => exact size_mapWithout_le _ _
  | chain => exact size_mapWithout_le _ _
  | prune => exact Nat.le_of_eq size_prune

theorem size_le_of_merges (merges : ReflTransGen (Merge sizing) layout later) :
    later.size ≤ layout.size := by
  induction merges with
  | refl => exact Nat.le_refl _
  | tail _ merge ih => exact Nat.le_trans merge.size_le ih

/-! ## What the root waits for -/

/-- A fragment is awaited twice exactly if the root waits for it and another
fragment consumes it. -/
theorem Sound.isAwaitedTwice_iff (sound : layout.Sound graph) {fragment : Fragment}
    (member : fragment ∈ layout.fragments) :
    layout.isAwaitedTwice fragment ↔
      fragment.id ∈ layout.terminals ∧ ∃ other ∈ layout.fragments, fragment.id ∈ other.inputs := by
  have awaited_iff := sound.linked fragment (mem_all_of_mem member) layout.root root_mem_all
  rw [isAwaitedTwice, Bool.and_eq_true, decide_eq_true_eq, decide_eq_true_eq]
  refine and_congr_right fun awaited => ?_
  refine (SortedSet.one_lt_size_iff (awaited_iff.1 awaited)).trans ⟨?_, ?_⟩
  · rintro ⟨dependent, feeds, notRoot⟩
    obtain ⟨other, otherMember, rfl⟩ :=
      List.mem_map.1 (sound.dependents_mem fragment (mem_all_of_mem member) dependent feeds)
    exact ⟨other, mem_fragments_of_ne_root otherMember notRoot,
      (sound.linked fragment (mem_all_of_mem member) other otherMember).2 feeds⟩
  · rintro ⟨other, otherMember, consumed⟩
    exact ⟨other.id, (sound.linked fragment (mem_all_of_mem member) other
      (mem_all_of_mem otherMember)).1 consumed, sound.id_ne_root otherMember⟩

theorem Sound.mem_terminals_prune (sound : layout.Sound graph) {fragment : Fragment}
    (member : fragment ∈ layout.fragments) :
    fragment.id ∈ layout.prune.terminals ↔
      fragment.id ∈ layout.terminals ∧ ¬ layout.isAwaitedTwice fragment := by
  simp only [prune, SortedSet.mem_filter, sound.fragment?_eq (mem_all_of_mem member),
    Option.any_some, Bool.not_eq_true', Bool.not_eq_true]

theorem release_id (fragment : Fragment) : (layout.release fragment).id = fragment.id := by
  unfold release
  split <;> rfl

theorem release_nodes (fragment : Fragment) :
    (layout.release fragment).nodes = fragment.nodes := by
  unfold release
  split <;> rfl

theorem release_inputs (fragment : Fragment) :
    (layout.release fragment).inputs = fragment.inputs := by
  unfold release
  split <;> rfl

theorem mem_dependents_release {fragment : Fragment} {id : FragmentId} :
    id ∈ (layout.release fragment).dependents ↔
      id ∈ fragment.dependents ∧ (id = FragmentId.root → ¬ layout.isAwaitedTwice fragment) := by
  unfold release
  split
  · rename_i twice
    simp [twice]
  · rename_i once
    simp [once]

theorem mem_prune {fragment : Fragment} :
    fragment ∈ layout.prune.fragments ↔ ∃ old ∈ layout.fragments, layout.release old = fragment :=
  List.mem_map

theorem mem_all_prune {fragment : Fragment} (member : fragment ∈ layout.prune.all) :
    fragment = layout.prune.root ∨ ∃ old ∈ layout.fragments, layout.release old = fragment :=
  (List.mem_cons.1 member).imp_right mem_prune.1

theorem ids_prune : layout.prune.ids = layout.ids := by
  rw [ids, prune, List.map_map]
  exact List.map_congr_left fun fragment _ => release_id fragment

theorem all_ids_prune : layout.prune.all.map Fragment.id = layout.all.map Fragment.id :=
  congrArg (FragmentId.root :: ·) ids_prune

/-- Pruning cuts a link to the root at both of its ends. -/
theorem Sound.linked_prune (sound : layout.Sound graph) :
    ∀ first ∈ layout.prune.all, ∀ second ∈ layout.prune.all,
      first.id ∈ second.inputs ↔ second.id ∈ first.dependents := by
  intro first firstMember second secondMember
  rcases mem_all_prune firstMember with rfl | ⟨old, oldMember, rfl⟩
  · refine iff_of_false (fun consumed => ?_) (SortedSet.not_mem_empty _)
    rcases mem_all_prune secondMember with rfl | ⟨other, otherMember, rfl⟩
    · exact sound.root_not_mem_inputs root_mem_all (SortedSet.mem_filter.1 consumed).1
    · rw [release_inputs] at consumed
      exact sound.root_not_mem_inputs (mem_all_of_mem otherMember) consumed
  · have before := sound.linked old (mem_all_of_mem oldMember)
    rw [mem_dependents_release, release_id]
    rcases mem_all_prune secondMember with rfl | ⟨other, otherMember, rfl⟩
    · refine (sound.mem_terminals_prune oldMember).trans (and_congr (before _ root_mem_all) ?_)
      exact ⟨fun once _ => once, fun once => once rfl⟩
    · rw [release_inputs, release_id, before other (mem_all_of_mem otherMember)]
      exact ⟨fun feeds => ⟨feeds, fun isRoot => absurd isRoot (sound.id_ne_root otherMember)⟩,
        And.left⟩

/-- The root still waits for every fragment that no other one consumes. -/
theorem Sound.awaited_prune (sound : layout.Sound graph) :
    ∀ fragment ∈ layout.prune.fragments,
      (∀ other ∈ layout.prune.fragments, fragment.id ∉ other.inputs) →
        fragment.id ∈ layout.prune.terminals := by
  intro fragment member last
  obtain ⟨old, oldMember, rfl⟩ := mem_prune.1 member
  rw [release_id] at last ⊢
  have lastBefore : ∀ other ∈ layout.fragments, old.id ∉ other.inputs := by
    intro other otherMember
    rw [← @release_inputs layout]
    exact last _ (mem_prune.2 ⟨other, otherMember, rfl⟩)
  refine (sound.mem_terminals_prune oldMember).2 ⟨sound.awaited old oldMember lastBefore, ?_⟩
  rw [sound.isAwaitedTwice_iff oldMember]
  rintro ⟨_, other, otherMember, consumed⟩
  exact lastBefore other otherMember consumed

/-- **Pruning a sound layout settles it.** -/
theorem Sound.prune (sound : layout.Sound graph) : layout.prune.Settled graph where
  ids_nodup := by
    rw [all_ids_prune]
    exact sound.ids_nodup
  nodes_perm := by
    have nodes_eq : layout.prune.fragments.flatMap Fragment.nodes =
        layout.fragments.flatMap Fragment.nodes := by
      rw [Layout.prune, List.flatMap_map]
      exact List.flatMap_congr fun fragment _ => release_nodes fragment
    rw [nodes_eq]
    exact sound.nodes_perm
  ordered := by
    intro fragment member
    obtain ⟨old, oldMember, rfl⟩ := mem_prune.1 member
    rw [release_nodes]
    exact sound.ordered old oldMember
  consumes := by
    intro first firstMember second secondMember
    obtain ⟨old, oldMember, rfl⟩ := mem_prune.1 firstMember
    obtain ⟨other, otherMember, rfl⟩ := mem_prune.1 secondMember
    simp only [release_id, release_inputs, Graph.FeedsFragment, release_nodes]
    exact sound.consumes old oldMember other otherMember
  linked := sound.linked_prune
  inputs_mem := by
    intro fragment member id consumed
    rw [ids_prune]
    rcases mem_all_prune member with rfl | ⟨old, oldMember, rfl⟩
    · exact sound.inputs_mem layout.root root_mem_all id (SortedSet.mem_filter.1 consumed).1
    · rw [release_inputs] at consumed
      exact sound.inputs_mem old (mem_all_of_mem oldMember) id consumed
  dependents_mem := by
    intro fragment member id feeds
    rw [all_ids_prune]
    rcases mem_all_prune member with rfl | ⟨old, oldMember, rfl⟩
    · exact absurd feeds (SortedSet.not_mem_empty id)
    · exact sound.dependents_mem old (mem_all_of_mem oldMember) id
        (mem_dependents_release.1 feeds).1
  ranked := by
    obtain ⟨rank, rises⟩ := sound.ranked
    refine ⟨rank, fun fragment member id consumed => ?_⟩
    obtain ⟨old, oldMember, rfl⟩ := mem_prune.1 member
    rw [release_inputs] at consumed
    rw [release_id]
    exact rises old oldMember id consumed
  awaited := sound.awaited_prune
  pruned := by
    intro fragment member awaited other otherMember consumed
    obtain ⟨old, oldMember, rfl⟩ := mem_prune.1 member
    obtain ⟨consumer, consumerMember, rfl⟩ := mem_prune.1 otherMember
    rw [release_id] at awaited consumed
    rw [release_inputs] at consumed
    obtain ⟨awaitedBefore, once⟩ := (sound.mem_terminals_prune oldMember).1 awaited
    exact once ((sound.isAwaitedTwice_iff oldMember).2
      ⟨awaitedBefore, consumer, consumerMember, consumed⟩)

/-! ## Any number of steps -/

/-- **A step of merging keeps a layout sound.** -/
theorem Merge.sound (merge : Merge sizing layout later) (sound : layout.Sound graph) :
    later.Sound graph := by
  cases merge with
  | alike hostMember guestMember distinct same _ =>
    exact sound.joinAfter hostMember guestMember distinct same
  | chain hostMember guestMember distinct only _ =>
    exact sound.joinBefore hostMember guestMember distinct only
  | prune => exact sound.prune.toSound

/-- **Whatever is merged in whatever order, a sound layout stays sound.** -/
theorem Sound.merges (sound : layout.Sound graph)
    (merges : ReflTransGen (Merge sizing) layout later) : later.Sound graph := by
  induction merges with
  | refl => exact sound
  | tail _ merge ih => exact merge.sound ih

/-! ## Joining the pairs of a scan -/

/-- The fragments of a pair are there, have the same inputs and fit together. -/
def Matched (layout : Layout) (sizing : Sizing) (pair : FragmentId × FragmentId) : Prop :=
  ∃ first ∈ layout.fragments, ∃ second ∈ layout.fragments,
    first.id = pair.1 ∧ second.id = pair.2 ∧ first.inputs = second.inputs ∧
      first.mayJoin sizing second = true

/-- Pairs that can be joined one after the other. -/
structure Ready (layout : Layout) (sizing : Sizing) (pairs : List (FragmentId × FragmentId)) :
    Prop where
  /-- No fragment stands in two pairs. -/
  nodup : (pairs.flatMap fun pair => [pair.1, pair.2]).Nodup
  /-- The fragments of each pair are there, have the same inputs and fit together. -/
  matched : ∀ pair ∈ pairs, layout.Matched sizing pair

section Pairs

variable {pair : FragmentId × FragmentId}

/-- The pairs that a scan finds can be joined. -/
theorem Sound.ready_pairs (sound : layout.Sound graph) (sizing : Sizing) :
    layout.Ready sizing (layout.pairs sizing) := by
  have consistent :=
    (Pairing.Consistent.start sizing).foldl (List.nodup_cons.1 sound.ids_nodup).2
  exact ⟨consistent.members_nodup, consistent.alike⟩

/-- A pair stays matched when another one is joined. -/
theorem Matched.joinAfter (matched : layout.Matched sizing pair) (sound : layout.Sound graph)
    {host guest : Fragment} (guestMember : guest ∈ layout.fragments)
    (hostOutside : host.id ∉ [pair.1, pair.2]) (guestOutside : guest.id ∉ [pair.1, pair.2]) :
    (layout.joinAfter host guest).Matched sizing pair := by
  obtain ⟨first, firstMember, second, secondMember, firstId, secondId, same, fits⟩ := matched
  have firstInside : first.id ∈ [pair.1, pair.2] := by simp [firstId]
  have secondInside : second.id ∈ [pair.1, pair.2] := by simp [secondId]
  have mem_joined : ∀ fragment ∈ layout.fragments, fragment.id ∈ [pair.1, pair.2] →
      Fragment.onJoinAfter host guest fragment ∈ (layout.joinAfter host guest).fragments := by
    intro fragment member inside
    refine List.mem_map_of_mem (List.mem_filter.2 ⟨member, decide_eq_true fun isGuest => ?_⟩)
    exact guestOutside (isGuest ▸ inside)
  refine ⟨_, mem_joined first firstMember firstInside, _,
    mem_joined second secondMember secondInside, (Fragment.onJoinAfter_id first).trans firstId,
    (Fragment.onJoinAfter_id second).trans secondId, SortedSet.ext_mem fun id => ?_, ?_⟩
  · have fed := sound.linked guest (mem_all_of_mem guestMember)
    simp only [Fragment.mem_inputs_onJoinAfter, ← fed first (mem_all_of_mem firstMember),
      ← fed second (mem_all_of_mem secondMember), same]
  · rw [Fragment.mayJoin_onJoinAfter sizing (fun isHost => hostOutside (isHost ▸ firstInside))
      (fun isHost => hostOutside (isHost ▸ secondInside))]
    exact fits

/-- Joining a matched pair makes one of its fragments the guest of the other. -/
theorem Sound.joinPair_eq (sound : layout.Sound graph) (matched : layout.Matched sizing pair) :
    ∃ host ∈ layout.fragments, ∃ guest ∈ layout.fragments,
      layout.joinPair pair = layout.joinAfter host guest ∧ host.inputs = guest.inputs ∧
        host.mayJoin sizing guest = true ∧ [host.id, guest.id].Perm [pair.1, pair.2] := by
  obtain ⟨first, firstMember, second, secondMember, firstId, secondId, same, fits⟩ := matched
  have firstFound := firstId ▸ sound.fragment?_eq (mem_all_of_mem firstMember)
  have secondFound := secondId ▸ sound.fragment?_eq (mem_all_of_mem secondMember)
  rw [Layout.joinPair, firstFound, secondFound]
  dsimp only
  split
  · refine ⟨second, secondMember, first, firstMember, rfl, same.symm,
      (Fragment.mayJoin_comm sizing second first).trans fits, ?_⟩
    rw [firstId, secondId]
    exact List.Perm.swap _ _ _
  · refine ⟨first, firstMember, second, secondMember, rfl, same, fits, ?_⟩
    rw [firstId, secondId]

/-- Joining the first of some pairs is a step of merging, and the others can be joined after it. -/
theorem Sound.joinPair {rest : List (FragmentId × FragmentId)} (sound : layout.Sound graph)
    (ready : layout.Ready sizing (pair :: rest)) :
    Merge sizing layout (layout.joinPair pair) ∧ (layout.joinPair pair).Ready sizing rest ∧
      (layout.joinPair pair).size < layout.size := by
  have nodup := ready.nodup
  rw [List.flatMap_cons, List.nodup_append] at nodup
  obtain ⟨host, hostMember, guest, guestMember, joined, same, fits, ends⟩ :=
    sound.joinPair_eq (ready.matched pair List.mem_cons_self)
  have distinct : host.id ≠ guest.id := by
    simpa using ends.nodup_iff.2 nodup.1
  have outside : ∀ other ∈ rest, ∀ id ∈ [host.id, guest.id], id ∉ [other.1, other.2] := by
    intro other member id inPair inside
    exact nodup.2.2 id (ends.mem_iff.1 inPair) id (List.mem_flatMap.2 ⟨other, member, inside⟩) rfl
  rw [joined]
  refine ⟨.alike hostMember guestMember distinct same fits, ⟨nodup.2.1, fun other member => ?_⟩,
    size_mapWithout_lt guestMember _⟩
  exact (ready.matched other (List.mem_cons_of_mem _ member)).joinAfter sound guestMember
    (outside other member _ (by simp)) (outside other member _ (by simp))

/-- **Pairs that can be joined are joined in steps of merging**, and each of them makes one fragment
of two. -/
theorem Sound.foldl_joinPair {pairs : List (FragmentId × FragmentId)} (sound : layout.Sound graph)
    (ready : layout.Ready sizing pairs) :
    ReflTransGen (Merge sizing) layout (pairs.foldl Layout.joinPair layout) ∧
      (pairs ≠ [] → (pairs.foldl Layout.joinPair layout).size < layout.size) := by
  induction pairs generalizing layout with
  | nil => exact ⟨.refl, fun some => absurd rfl some⟩
  | cons pair rest ih =>
    obtain ⟨merge, readyRest, fewer⟩ := sound.joinPair ready
    obtain ⟨merges, _⟩ := ih (merge.sound sound) readyRest
    rw [List.foldl_cons]
    exact ⟨.head merge merges, fun _ => Nat.lt_of_le_of_lt (size_le_of_merges merges) fewer⟩

end Pairs

/-! ## The passes -/

/-- What a pass makes of a layout: a settled one, reached in steps of merging. -/
structure Merged (graph : Graph) (sizing : Sizing) (layout later : Layout) : Prop where
  settled : later.Settled graph
  merges : ReflTransGen (Merge sizing) layout later

/-- In such a layout neither pass finds anything to join. -/
structure Exhausted (layout : Layout) (sizing : Sizing) : Prop where
  /-- A scan finds no pair. -/
  pairs_eq : layout.pairs sizing = []
  /-- No fragment can be joined to its only dependent. -/
  joinToDependent_eq : ∀ id ∈ layout.ids, joinToDependent sizing layout id = layout

/-- A layout without pairs is left as it is by the first pass. -/
theorem mergeAlike_of_pairs_eq_nil (none : layout.pairs sizing = []) :
    layout.mergeAlike sizing = layout := by
  have same : layout.joinAlike sizing = layout := by
    rw [joinAlike, none]
  rw [mergeAlike, same]
  simp only [Nat.lt_irrefl, if_false]

theorem Exhausted.mergeChains_eq (exhausted : layout.Exhausted sizing) :
    layout.mergeChains sizing = layout := by
  have stays : ∀ ids ⊆ layout.ids, ids.foldl (joinToDependent sizing) layout = layout := by
    intro ids subset
    induction ids with
    | nil => rfl
    | cons id rest ih =>
      rw [List.foldl_cons, exhausted.joinToDependent_eq id (subset List.mem_cons_self)]
      exact ih fun other member => subset (List.mem_cons_of_mem _ member)
  exact stays layout.ids (List.Subset.refl _)

/-- Merging leaves such a layout as it is. -/
theorem Exhausted.mergeAll_eq (exhausted : layout.Exhausted sizing) :
    layout.mergeAll sizing = layout := by
  rw [mergeAll, mergeAlike_of_pairs_eq_nil exhausted.pairs_eq, exhausted.mergeChains_eq]
  simp only [Nat.lt_irrefl, if_false]

theorem Merged.refl (settled : layout.Settled graph) (sizing : Sizing) :
    Merged graph sizing layout layout :=
  ⟨settled, .refl⟩

theorem Merged.trans {last : Layout} (merged : Merged graph sizing layout later)
    (further : Merged graph sizing later last) : Merged graph sizing layout last :=
  ⟨further.settled, merged.merges.trans further.merges⟩

theorem Merged.size_le (merged : Merged graph sizing layout later) : later.size ≤ layout.size :=
  size_le_of_merges merged.merges

namespace Settled

variable (settled : layout.Settled graph)
include settled

/-- A scan and the joining of its pairs. -/
theorem joinAlike (sizing : Sizing) :
    Merged graph sizing layout (layout.joinAlike sizing) ∧
      (layout.size ≤ (layout.joinAlike sizing).size →
        layout.pairs sizing = [] ∧ layout.joinAlike sizing = layout) := by
  unfold Layout.joinAlike
  split
  case h_1 none => exact ⟨.refl settled sizing, fun _ => ⟨none, rfl⟩⟩
  case h_2 some =>
    obtain ⟨merges, fewer⟩ := settled.foldl_joinPair (settled.ready_pairs sizing)
    refine ⟨⟨(settled.merges merges).prune, merges.tail .prune⟩, fun least => ?_⟩
    rw [size_prune] at least
    exact absurd least (Nat.not_le_of_lt (fewer some))

/-- Joining fragments with the same inputs until a scan finds no pair. -/
theorem mergeAlike (sizing : Sizing) :
    Merged graph sizing layout (layout.mergeAlike sizing) ∧
      (layout.mergeAlike sizing).pairs sizing = [] := by
  fun_induction Layout.mergeAlike layout sizing with
  | case1 layout next smaller ih =>
    obtain ⟨merged, _⟩ := settled.joinAlike sizing
    obtain ⟨further, last⟩ := ih merged.settled
    exact ⟨merged.trans further, last⟩
  | case2 layout next stable =>
    obtain ⟨merged, unchanged⟩ := settled.joinAlike sizing
    obtain ⟨none, same⟩ := unchanged (Nat.le_of_not_lt stable)
    have stays : next = layout := same
    rw [stays]
    exact ⟨.refl settled sizing, none⟩

/-- Joining a fragment to its only dependent leaves alone what the root waits for. -/
theorem joinBefore {host guest : Fragment} (hostMember : host ∈ layout.fragments)
    (guestMember : guest ∈ layout.fragments) (distinct : host.id ≠ guest.id)
    (only : ∀ id, id ∈ guest.dependents ↔ id = host.id) :
    (layout.joinBefore host guest).Settled graph where
  toSound := settled.toSound.joinBefore hostMember guestMember distinct only
  pruned := by
    have feeds_iff := settled.linked guest (mem_all_of_mem guestMember)
    have notConsumed := settled.asymm guestMember hostMember
      ((feeds_iff host (mem_all_of_mem hostMember)).2 ((only host.id).2 rfl))
    have guestNotRoot := settled.id_ne_root guestMember
    have contraction :=
      settled.contraction_joinBefore hostMember guestMember notConsumed only
    intro fragment member awaited other otherMember consumed
    obtain ⟨old, oldMember, _, rfl⟩ := (contraction.mem_fragments guestNotRoot).1 member
    obtain ⟨consumer, consumerMember, stays, rfl⟩ :=
      (contraction.mem_fragments guestNotRoot).1 otherMember
    rw [contraction.id_eq] at awaited consumed
    rw [contraction.mem_inputs consumer (mem_all_of_mem consumerMember) stays] at consumed
    rcases consumed.2.2 with direct | ⟨isHost, throughGuest⟩ | ⟨_, indirect⟩
    · exact settled.pruned old oldMember awaited consumer consumerMember direct
    · have feeds := (feeds_iff consumer (mem_all_of_mem consumerMember)).1 throughGuest
      exact consumed.2.1 (isHost.trans ((only consumer.id).1 feeds).symm)
    · exact settled.pruned old oldMember awaited guest guestMember indirect

/-- Either nothing happens to a fragment, or it is joined to its only dependent. -/
theorem joinToDependent_cases (sizing : Sizing) (id : FragmentId) :
    Layout.joinToDependent sizing layout id = layout ∨
      ∃ host ∈ layout.fragments, ∃ guest ∈ layout.fragments, guest.id = id ∧
        host.id ≠ guest.id ∧ (∀ other, other ∈ guest.dependents ↔ other = host.id) ∧
          guest.mayJoin sizing host = true ∧
            Layout.joinToDependent sizing layout id = layout.joinBefore host guest := by
  unfold Layout.joinToDependent
  split
  case h_2 => exact Or.inl rfl
  case h_1 dependent onlyOne =>
    split
    case isTrue => exact Or.inl rfl
    case isFalse notRoot =>
      split
      case h_2 => exact Or.inl rfl
      case h_1 guest host guestFound hostFound =>
        split
        case isFalse => exact Or.inl rfl
        case isTrue fits =>
          obtain ⟨guestMember, rfl⟩ := mem_of_fragment? guestFound
          obtain ⟨hostMember, rfl⟩ := mem_of_fragment? hostFound
          rw [settled.dependents_eq guestMember] at onlyOne
          have only : ∀ id, id ∈ guest.dependents ↔ id = host.id := by
            intro id
            rw [← SortedSet.mem_toList, onlyOne, List.mem_singleton]
          have guestInside : guest ∈ layout.fragments := by
            rcases List.mem_cons.1 guestMember with rfl | inside
            · cases onlyOne
            · exact inside
          refine Or.inr ⟨host, mem_fragments_of_ne_root hostMember notRoot, guest, guestInside, rfl,
            fun same => ?_, only, fits, rfl⟩
          exact settled.not_mem_dependents guestMember ((only guest.id).2 same.symm)

/-- Joining a fragment to its only dependent where possible. -/
theorem joinToDependent (sizing : Sizing) (id : FragmentId) :
    Merged graph sizing layout (Layout.joinToDependent sizing layout id) ∧
      (layout.size ≤ (Layout.joinToDependent sizing layout id).size →
        Layout.joinToDependent sizing layout id = layout) := by
  rcases settled.joinToDependent_cases sizing id with
    same | ⟨host, hostMember, guest, guestMember, _, distinct, only, fits, joined⟩
  · rw [same]
    exact ⟨.refl settled sizing, fun _ => rfl⟩
  · rw [joined]
    refine ⟨⟨settled.joinBefore hostMember guestMember distinct only,
      .single (.chain hostMember guestMember distinct only fits)⟩, fun least => ?_⟩
    exact absurd least (Nat.not_le_of_lt (size_mapWithout_lt guestMember _))

theorem foldl_joinToDependent (sizing : Sizing) (ids : List FragmentId) :
    Merged graph sizing layout (ids.foldl (Layout.joinToDependent sizing) layout) ∧
      (layout.size ≤ (ids.foldl (Layout.joinToDependent sizing) layout).size →
        ids.foldl (Layout.joinToDependent sizing) layout = layout ∧
          ∀ id ∈ ids, Layout.joinToDependent sizing layout id = layout) := by
  induction ids generalizing layout with
  | nil =>
    exact ⟨.refl settled sizing, fun _ => ⟨rfl, fun _ member => absurd member List.not_mem_nil⟩⟩
  | cons id rest ih =>
    obtain ⟨merged, unchanged⟩ := settled.joinToDependent sizing id
    obtain ⟨further, stable⟩ := ih merged.settled
    rw [List.foldl_cons]
    refine ⟨merged.trans further, fun least => ?_⟩
    have same := unchanged (Nat.le_trans least further.size_le)
    rw [same] at stable least ⊢
    exact ⟨(stable least).1, List.forall_mem_cons.mpr ⟨same, (stable least).2⟩⟩

/-- Joining each fragment to its only dependent where possible. -/
theorem mergeChains (sizing : Sizing) :
    Merged graph sizing layout (layout.mergeChains sizing) ∧
      (layout.size ≤ (layout.mergeChains sizing).size →
        layout.mergeChains sizing = layout ∧
          ∀ id ∈ layout.ids, Layout.joinToDependent sizing layout id = layout) :=
  settled.foldl_joinToDependent sizing layout.ids

/-- **Merging ends with a settled layout in which neither pass finds anything to join.** -/
theorem mergeAll (sizing : Sizing) :
    Merged graph sizing layout (layout.mergeAll sizing) ∧
      (layout.mergeAll sizing).Exhausted sizing := by
  fun_induction Layout.mergeAll layout sizing with
  | case1 layout next smaller ih =>
    obtain ⟨alike, _⟩ := settled.mergeAlike sizing
    obtain ⟨chains, _⟩ := alike.settled.mergeChains sizing
    obtain ⟨further, exhausted⟩ := ih chains.settled
    exact ⟨(alike.trans chains).trans further, exhausted⟩
  | case2 layout next stable =>
    obtain ⟨alike, unpaired⟩ := settled.mergeAlike sizing
    obtain ⟨chains, unchanged⟩ := alike.settled.mergeChains sizing
    obtain ⟨same, unchained⟩ := unchanged (Nat.le_trans alike.size_le (Nat.le_of_not_lt stable))
    have stays : next = layout.mergeAlike sizing := same
    rw [stays]
    exact ⟨alike, unpaired, unchained⟩

end Settled

end Layout

end ValueEngine
