import ValueEngine.Arena.Merging
import ValueEngine.Proofs.Arena.Basic
import ValueEngine.Proofs.Fragment.Merging

/-!
# Joining and pruning in place

Joining two fragments changes the links of their neighbours one by one. After some of the
dependents of the guest have turned to the host, each fragment is what `Fragment.turnSome` tells;
after all of them have, it is what it becomes in the layout where the two are joined
(`Arena.Holds.append`). In the same way the inputs of the guest become inputs of the host
(`Arena.Holds.prepend`), and the root stops waiting for one fragment after the other
(`Arena.Holds.prune`).

A layout that is sound keeps its links at both ends, so every fragment that is looked up on the way
is there.
-/

set_option autoImplicit false

namespace ValueEngine

/-- Looking up a fragment of a layout whose fragments come of others. -/
theorem Layout.fragment?_eq_map {layout : Layout} {kept : List Fragment}
    {image : Fragment → Fragment} (all_eq : layout.all = kept.map image)
    (id_eq : ∀ fragment, (image fragment).id = fragment.id) (id : FragmentId) :
    layout.fragment? id = (kept.find? fun fragment => fragment.id = id).map image := by
  rw [fragment?, all_eq, List.find?_map]
  simp only [Function.comp_def, id_eq]

namespace Fragment

variable {host guest : Fragment} {done : List FragmentId} {next : FragmentId}

/-- What becomes of a fragment when some dependents of `guest` have turned to `host`, which has the
same inputs. -/
def turnSome (host guest : Fragment) (done : List FragmentId) (fragment : Fragment) : Fragment :=
  let dependents := if fragment.id ∈ guest.inputs then fragment.dependents.erase guest.id
    else fragment.dependents
  { fragment with
    inputs := if fragment.id ∈ done then (fragment.inputs.erase guest.id).insert host.id
      else fragment.inputs
    dependents := if fragment.id = host.id then done.foldl SortedSet.insert dependents
      else dependents }

/-- One more dependent turns to `host`. -/
theorem turnSome_concat (fresh : next ∉ done) (fragment : Fragment) :
    (let dropped :=
        if fragment.id = next then (turnSome host guest done fragment).dropInput guest.id
        else turnSome host guest done fragment
      let fed := if fragment.id = host.id then dropped.addDependent next else dropped
      if fragment.id = next then fed.addInput host.id else fed) =
      turnSome host guest (done ++ [next]) fragment := by
  by_cases isNext : fragment.id = next
  · subst isNext
    by_cases isHost : fragment.id = host.id
    · simp [turnSome, dropInput, addDependent, addInput, fresh, eq_true isHost]
    · simp [turnSome, dropInput, addInput, fresh, isHost]
  · by_cases isHost : fragment.id = host.id
    · simp [turnSome, addDependent, isNext, eq_true isHost]
    · simp [turnSome, isNext, isHost]

/-- When all of them have turned and `host` runs the nodes, the two are joined. -/
theorem turnSome_all (fragment : Fragment) :
    (if fragment.id = host.id then
      runBefore guest (turnSome host guest guest.dependents.toList fragment)
      else turnSome host guest guest.dependents.toList fragment) =
      onJoinAfter host guest fragment := by
  unfold onJoinAfter turnTo turnSome runBefore
  split <;> simp only [SortedSet.union, SortedSet.mem_toList]

/-- What becomes of a fragment when some inputs of `guest` have become inputs of `host`, its only
dependent. -/
def feedSome (host guest : Fragment) (done : List FragmentId) (fragment : Fragment) : Fragment :=
  { fragment with
    inputs :=
      if fragment.id = host.id then
        done.foldl SortedSet.insert (fragment.inputs.erase guest.id)
      else fragment.inputs
    dependents := if fragment.id ∈ done then (fragment.dependents.erase guest.id).insert host.id
      else fragment.dependents }

/-- One more input of `guest` becomes an input of `host`. -/
theorem feedSome_concat (fresh : next ∉ done) (fragment : Fragment) :
    (let dropped := if fragment.id = next
        then (feedSome host guest done fragment).dropDependent guest.id
        else feedSome host guest done fragment
      let fed := if fragment.id = next then dropped.addDependent host.id else dropped
      if fragment.id = host.id then fed.addInput next else fed) =
      feedSome host guest (done ++ [next]) fragment := by
  by_cases isNext : fragment.id = next
  · subst isNext
    by_cases isHost : fragment.id = host.id
    · simp [feedSome, dropDependent, addDependent, addInput, fresh, eq_true isHost]
    · simp [feedSome, dropDependent, addDependent, fresh, isHost]
  · by_cases isHost : fragment.id = host.id
    · simp [feedSome, addInput, isNext, eq_true isHost]
    · simp [feedSome, isNext, isHost]

/-- When all of them have and `host` runs the nodes, the two are joined. -/
theorem feedSome_all (fragment : Fragment) :
    (if fragment.id = host.id then
        runAfter guest (feedSome host guest guest.inputs.toList fragment)
      else feedSome host guest guest.inputs.toList fragment) =
      onJoinBefore host guest fragment := by
  unfold onJoinBefore feedTo feedSome runAfter
  split <;> simp only [SortedSet.union, SortedSet.mem_toList]

end Fragment

namespace Layout

variable {layout : Layout} {graph : Graph} {done : List FragmentId} {fragment : Fragment}

/-- What becomes of a fragment when the root has looked at some of the fragments that it waits
for. -/
def releaseSome (layout : Layout) (done : List FragmentId) (fragment : Fragment) : Fragment :=
  { fragment with
    inputs := if fragment.id = FragmentId.root
      then fragment.inputs.filter fun id =>
        !(decide (id ∈ done) && (layout.fragment? id).any layout.isAwaitedTwice)
      else fragment.inputs
    dependents := if fragment.id ∈ done ∧ 1 < fragment.dependents.size
      then fragment.dependents.erase FragmentId.root
      else fragment.dependents }

/-- The root looks at a fragment that has other dependents. -/
theorem releaseSome_concat_of_twice (sound : layout.Sound graph)
    (member : fragment ∈ layout.fragments)
    (awaited : fragment.id ∈ layout.terminals) (fresh : fragment.id ∉ done)
    (twice : 1 < fragment.dependents.size) {other : Fragment} (also : other ∈ layout.all) :
    (let cut := if other.id = fragment.id
        then (layout.releaseSome done other).dropDependent FragmentId.root
        else layout.releaseSome done other
      if other.id = FragmentId.root then cut.dropInput fragment.id else cut) =
      layout.releaseSome (done ++ [fragment.id]) other := by
  have found := sound.fragment?_eq (mem_all_of_mem member)
  have notRoot := sound.id_ne_root member
  by_cases isRoot : other.id = FragmentId.root
  · have differs : other.id ≠ fragment.id := fun same => notRoot (same.symm.trans isRoot)
    have inputs_eq : ((layout.releaseSome done other).inputs.erase fragment.id) =
        (layout.releaseSome (done ++ [fragment.id]) other).inputs := by
      refine SortedSet.ext_mem fun id => ?_
      simp only [releaseSome, if_pos isRoot, SortedSet.mem_erase, SortedSet.mem_filter,
        List.mem_append, List.mem_singleton]
      by_cases same : id = fragment.id
      · simp [same, found, isAwaitedTwice, awaited, twice]
      · simp [same]
    rw [if_pos isRoot, if_neg differs, Fragment.dropInput, inputs_eq]
    simp [releaseSome, differs]
  · by_cases same : other.id = fragment.id
    · obtain rfl := sound.eq_of_id also (mem_all_of_mem member) same
      simp [releaseSome, Fragment.dropDependent, isRoot, fresh, twice]
    · simp [releaseSome, isRoot, same]

/-- The root looks at a fragment that has no other dependent. -/
theorem releaseSome_concat_of_once (sound : layout.Sound graph)
    (member : fragment ∈ layout.fragments)
    (once : ¬ 1 < fragment.dependents.size) {other : Fragment} (also : other ∈ layout.all) :
    layout.releaseSome done other = layout.releaseSome (done ++ [fragment.id]) other := by
  have found := sound.fragment?_eq (mem_all_of_mem member)
  have inputs_eq : (layout.releaseSome done other).inputs =
      (layout.releaseSome (done ++ [fragment.id]) other).inputs := by
    refine SortedSet.ext_mem fun id => ?_
    by_cases isRoot : other.id = FragmentId.root
    · simp only [releaseSome, if_pos isRoot, SortedSet.mem_filter, List.mem_append,
        List.mem_singleton]
      by_cases same : id = fragment.id
      · simp [same, found, isAwaitedTwice, once]
      · simp [same]
    · simp only [releaseSome, if_neg isRoot]
  have dependents_eq : (layout.releaseSome done other).dependents =
      (layout.releaseSome (done ++ [fragment.id]) other).dependents := by
    by_cases same : other.id = fragment.id
    · obtain rfl := sound.eq_of_id also (mem_all_of_mem member) same
      simp [releaseSome, once]
    · simp [releaseSome, same]
  calc layout.releaseSome done other
    _ = { layout.releaseSome (done ++ [fragment.id]) other with
          inputs := (layout.releaseSome done other).inputs
          dependents := (layout.releaseSome done other).dependents } := rfl
    _ = layout.releaseSome (done ++ [fragment.id]) other := by rw [inputs_eq, dependents_eq]

/-- When the root has looked at all of them, the layout is pruned. -/
theorem Sound.all_prune (sound : layout.Sound graph) :
    layout.prune.all = layout.all.map (layout.releaseSome layout.terminals.toList) := by
  have root_eq : layout.prune.root = layout.releaseSome layout.terminals.toList layout.root := by
    have terminals_eq : layout.prune.terminals =
        (layout.releaseSome layout.terminals.toList layout.root).inputs := by
      refine SortedSet.ext_mem fun id => ?_
      simp only [Layout.prune, releaseSome, root, if_true, SortedSet.mem_filter,
        SortedSet.mem_toList]
      refine and_congr_right fun awaited => ?_
      simp [awaited]
    have notAwaited : FragmentId.root ∉ layout.terminals := sound.root_not_mem_inputs root_mem_all
    rw [root, terminals_eq]
    simp [releaseSome, SortedSet.mem_toList, root, notAwaited]
  rw [all, all, List.map_cons, root_eq]
  refine congrArg (_ :: ·) (List.map_congr_left fun fragment member => ?_)
  have notRoot := sound.id_ne_root member
  by_cases twice : layout.isAwaitedTwice fragment = true
  · have both := twice
    rw [isAwaitedTwice, Bool.and_eq_true, decide_eq_true_eq, decide_eq_true_eq] at both
    simp [release, twice, releaseSome, notRoot, SortedSet.mem_toList, both]
  · have notBoth := twice
    rw [isAwaitedTwice, Bool.and_eq_true, decide_eq_true_eq, decide_eq_true_eq] at notBoth
    simp [release, twice, releaseSome, notRoot, SortedSet.mem_toList, notBoth]

end Layout

namespace Arena

variable {arena taken state later : Arena} {layout joined : Layout} {graph : Graph}
  {host guest : Fragment} {image : Fragment → Fragment}

namespace Without

/-- What is made of an arena without `guest` holds the contraction that makes the same of its
fragments. -/
theorem holds (without : taken.Without layout guest)
    (ascending : (layout.all.map Fragment.id).Pairwise (· < ·))
    (contraction : Layout.Contraction layout joined host guest image)
    (guestMember : guest ∈ layout.fragments) (guestNotRoot : guest.id ≠ FragmentId.root)
    (edited : taken.Edited image later) : later.Holds joined where
  fragment?_eq id := by
    rw [edited.fragment?_eq, without.fragment?_eq,
      Layout.fragment?_eq_map contraction.all_eq contraction.id_eq, List.find?_filter]
    refine congrArg (Option.map image) ?_
    split
    case isTrue same =>
      refine (List.find?_eq_none.mpr fun fragment _ => ?_).symm
      simp [same]
    case isFalse differs =>
      refine congrArg (List.find? · layout.all) (funext fun fragment => ?_)
      by_cases same : fragment.id = id
      · simp [same, differs]
      · simp [same]
  live_eq := by
    have nodup : layout.ids.Nodup :=
      (List.nodup_cons.mp (ascending.imp fun below => Nat.ne_of_lt below)).2
    have kept : joined.ids = layout.ids.erase guest.id := by
      rw [nodup.erase_eq_filter, Layout.ids, (contraction.cons_eq guestNotRoot).2, List.map_map,
        Layout.ids, List.filter_map]
      refine List.map_congr_left (fun fragment _ => contraction.id_eq fragment) |>.trans ?_
      exact congrArg (List.map Fragment.id) (List.filter_congr fun _ _ => decide_not)
    have sizes : joined.size = layout.size - 1 := by
      rw [Layout.size, ← List.length_map Fragment.id]
      refine (congrArg List.length kept).trans ?_
      have member : guest.id ∈ layout.ids := List.mem_map_of_mem guestMember
      rw [List.length_erase_of_mem member, Layout.ids, List.length_map, Layout.size]
    have live_eq := without.live_eq
    rw [edited.live_eq, sizes]
    omega
  ascending := by
    have same : Fragment.id ∘ image = Fragment.id := funext contraction.id_eq
    rw [contraction.all_eq, List.map_map, same]
    exact ascending.sublist (List.filter_sublist.map _)

variable (without : taken.Without layout guest) (sound : layout.Sound graph)
include without sound

theorem find {fragment : Fragment} (member : fragment ∈ layout.all)
    (differs : fragment.id ≠ guest.id) : taken.fragment? fragment.id = some fragment := by
  rw [without.fragment?_eq, if_neg differs, sound.fragment?_eq member]

/-- The inputs of the fragment that was taken are there. -/
theorem find_input (guestMember : guest ∈ layout.fragments) {id : FragmentId}
    (consumed : id ∈ guest.inputs) :
    ∃ input, input.id = id ∧ taken.fragment? id = some input := by
  obtain ⟨input, member, rfl⟩ := Layout.mem_ids_iff.mp
    (sound.inputs_mem guest (Layout.mem_all_of_mem guestMember) id consumed)
  refine ⟨input, rfl, without.find sound (Layout.mem_all_of_mem member) fun same => ?_⟩
  exact sound.not_mem_inputs (Layout.mem_all_of_mem guestMember) (same ▸ consumed)

/-- The dependents of the fragment that was taken are there. -/
theorem find_dependent (guestMember : guest ∈ layout.fragments) {id : FragmentId}
    (feeds : id ∈ guest.dependents) :
    ∃ dependent, dependent.id = id ∧ taken.fragment? id = some dependent := by
  obtain ⟨dependent, member, rfl⟩ := List.mem_map.mp
    (sound.dependents_mem guest (Layout.mem_all_of_mem guestMember) id feeds)
  refine ⟨dependent, rfl, without.find sound member fun same => ?_⟩
  exact sound.not_mem_dependents (Layout.mem_all_of_mem guestMember) (same ▸ feeds)

/-- The inputs stop feeding the fragment that was taken. -/
theorem exists_cut (guestMember : guest ∈ layout.fragments) :
    ∃ cut, guest.inputs.toList.foldlM
        (fun arena input => arena.update input (Fragment.dropDependent guest.id)) taken = some cut ∧
      taken.Edited (fun fragment => if fragment.id ∈ guest.inputs.toList
        then fragment.dropDependent guest.id else fragment) cut := by
  apply exists_foldlM_toList fun done state => taken.Edited (fun fragment =>
    if fragment.id ∈ done then fragment.dropDependent guest.id else fragment) state
  · simpa using Edited.refl taken
  · intro done next state consumed fresh edited
    obtain ⟨input, rfl, found⟩ := without.find_input sound guestMember consumed
    obtain ⟨later, updated, editedLater⟩ :=
      edited.update without.numbered found (Fragment.dropDependent guest.id)
    refine ⟨later, updated, editedLater.congr fun id fragment _ => ?_⟩
    by_cases isInput : fragment.id = input.id
    · simp [isInput, fresh]
    · simp [isInput]

/-- The dependents of the fragment that was taken turn to `host`. -/
theorem exists_turned (guestMember : guest ∈ layout.fragments)
    (hostMember : host ∈ layout.fragments) (distinct : host.id ≠ guest.id)
    (edited : taken.Edited (Fragment.turnSome host guest []) state) :
    ∃ turned, guest.dependents.toList.foldlM (turn host.id guest.id) state = some turned ∧
      taken.Edited (Fragment.turnSome host guest guest.dependents.toList) turned := by
  apply exists_foldlM_toList fun done state =>
    taken.Edited (Fragment.turnSome host guest done) state
  · exact edited
  · intro done next state feeds fresh edited
    obtain ⟨dependent, rfl, found⟩ := without.find_dependent sound guestMember feeds
    have hostFound := without.find sound (Layout.mem_all_of_mem hostMember) distinct
    obtain ⟨dropped, droppedEq, droppedEdited⟩ :=
      edited.update without.numbered found (Fragment.dropInput guest.id)
    obtain ⟨linked, linkedEq, linkedEdited⟩ :=
      droppedEdited.link without.numbered hostFound found
    refine ⟨linked, ?_, linkedEdited.congr fun id fragment _ =>
      Fragment.turnSome_concat fresh fragment⟩
    rw [turn, droppedEq]
    exact linkedEq

/-- The inputs of the fragment that was taken become inputs of `host`. -/
theorem exists_fed (guestMember : guest ∈ layout.fragments)
    (hostMember : host ∈ layout.fragments) (distinct : host.id ≠ guest.id)
    (edited : taken.Edited (Fragment.feedSome host guest []) state) :
    ∃ fed, guest.inputs.toList.foldlM (feed host.id guest.id) state = some fed ∧
      taken.Edited (Fragment.feedSome host guest guest.inputs.toList) fed := by
  apply exists_foldlM_toList fun done state =>
    taken.Edited (Fragment.feedSome host guest done) state
  · exact edited
  · intro done next state consumed fresh edited
    obtain ⟨input, rfl, found⟩ := without.find_input sound guestMember consumed
    have hostFound := without.find sound (Layout.mem_all_of_mem hostMember) distinct
    obtain ⟨dropped, droppedEq, droppedEdited⟩ :=
      edited.update without.numbered found (Fragment.dropDependent guest.id)
    obtain ⟨linked, linkedEq, linkedEdited⟩ :=
      droppedEdited.link without.numbered found hostFound
    refine ⟨linked, ?_, linkedEdited.congr fun id fragment _ =>
      Fragment.feedSome_concat fresh fragment⟩
    rw [feed, droppedEq]
    exact linkedEq

end Without

namespace Holds

variable (holds : arena.Holds layout) (sound : layout.Sound graph)
include holds sound

section Joining

variable (hostMember : host ∈ layout.fragments) (guestMember : guest ∈ layout.fragments)
  (distinct : host.id ≠ guest.id)
include hostMember guestMember distinct

/-- **Fragments with the same inputs are joined in place.** -/
theorem append (sameInputs : host.inputs = guest.inputs) :
    ∃ later, arena.append host.id guest.id = some later ∧
      later.Holds (layout.joinAfter host guest) := by
  obtain ⟨taken, takenEq, without⟩ := holds.take guestMember
  obtain ⟨cut, cutEq, cutEdited⟩ := without.exists_cut sound guestMember
  have cutOnly : taken.Edited (Fragment.turnSome host guest []) cut := by
    refine cutEdited.congr fun id fragment _ => ?_
    by_cases feeds : fragment.id ∈ guest.inputs <;>
      simp [Fragment.turnSome, Fragment.dropDependent, SortedSet.mem_toList, feeds]
  obtain ⟨turned, turnedEq, turnedEdited⟩ :=
    without.exists_turned sound guestMember hostMember distinct cutOnly
  obtain ⟨last, lastEq, lastEdited⟩ := turnedEdited.update without.numbered
    (without.find sound (Layout.mem_all_of_mem hostMember) distinct) (Fragment.runBefore guest)
  refine ⟨last, ?_, without.holds holds.ascending
    (sound.contraction_joinAfter hostMember guestMember distinct sameInputs) guestMember
    (sound.id_ne_root guestMember)
    (lastEdited.congr fun id fragment _ => Fragment.turnSome_all fragment)⟩
  simp only [Arena.append, takenEq, Option.bind_eq_bind, Option.bind_some, cutEq, turnedEq, lastEq]

/-- **A fragment is joined to its only dependent in place.** -/
theorem prepend (only : ∀ id, id ∈ guest.dependents ↔ id = host.id) :
    ∃ later, arena.prepend host.id guest.id = some later ∧
      later.Holds (layout.joinBefore host guest) := by
  have consumed : guest.id ∈ host.inputs :=
    (sound.linked guest (Layout.mem_all_of_mem guestMember) host
      (Layout.mem_all_of_mem hostMember)).2 ((only host.id).2 rfl)
  have notConsumed := sound.asymm guestMember hostMember consumed
  obtain ⟨taken, takenEq, without⟩ := holds.take guestMember
  have hostFound := without.find sound (Layout.mem_all_of_mem hostMember) distinct
  obtain ⟨cut, cutEq, cutEdited⟩ :=
    (Edited.refl taken).update without.numbered hostFound (Fragment.dropInput guest.id)
  have cutOnly : taken.Edited (Fragment.feedSome host guest []) cut := by
    refine cutEdited.congr fun id fragment _ => ?_
    by_cases isHost : fragment.id = host.id
    · simp [Fragment.feedSome, Fragment.dropInput, eq_true isHost]
    · simp [Fragment.feedSome, isHost]
  obtain ⟨fed, fedEq, fedEdited⟩ :=
    without.exists_fed sound guestMember hostMember distinct cutOnly
  obtain ⟨last, lastEq, lastEdited⟩ :=
    fedEdited.update without.numbered hostFound (Fragment.runAfter guest)
  refine ⟨last, ?_, without.holds holds.ascending
    (sound.contraction_joinBefore hostMember guestMember notConsumed only) guestMember
    (sound.id_ne_root guestMember)
    (lastEdited.congr fun id fragment _ => Fragment.feedSome_all fragment)⟩
  simp only [Arena.prepend, takenEq, Option.bind_eq_bind, Option.bind_some, cutEq, fedEq, lastEq]

end Joining

/-- **The root stops waiting in place for what another fragment consumes.** -/
theorem prune : ∃ later, arena.prune = some later ∧ later.Holds layout.prune := by
  have rootFound : arena.fragment? FragmentId.root = some layout.root :=
    holds.find Layout.root_mem_all
  have inside : ∀ id fragment, arena.fragment? id = some fragment → fragment ∈ layout.all := by
    intro id fragment found
    rw [holds.fragment?_eq] at found
    exact (Layout.mem_of_fragment? found).1
  obtain ⟨last, lastEq, lastEdited⟩ : ∃ last,
      layout.terminals.toList.foldlM Arena.release arena = some last ∧
        arena.Edited (layout.releaseSome layout.terminals.toList) last := by
    apply exists_foldlM_toList fun done state => arena.Edited (layout.releaseSome done) state
    · refine (Edited.refl arena).congr fun id fragment _ => ?_
      have all : fragment.inputs.filter (fun _ => true) = fragment.inputs :=
        SortedSet.ext_mem fun id => by simp
      simp [Layout.releaseSome, all]
    · intro done next state awaited fresh edited
      obtain ⟨fragment, member, rfl⟩ :=
        Layout.mem_ids_iff.mp (sound.inputs_mem layout.root Layout.root_mem_all next awaited)
      have found := holds.find (Layout.mem_all_of_mem member)
      have here : state.fragment? fragment.id = some (layout.releaseSome done fragment) := by
        rw [edited.fragment?_eq, found]
        rfl
      have dependents_eq : (layout.releaseSome done fragment).dependents = fragment.dependents := by
        simp [Layout.releaseSome, fresh]
      rw [Arena.release, here, Option.bind_eq_bind, Option.bind_some, dependents_eq]
      by_cases twice : 1 < fragment.dependents.size
      · rw [if_pos twice]
        obtain ⟨later, unlinked, editedLater⟩ := edited.unlink holds.numbered found rootFound
        refine ⟨later, unlinked, editedLater.congr fun id other otherFound => ?_⟩
        exact Layout.releaseSome_concat_of_twice sound member awaited fresh twice
          (inside id other otherFound)
      · rw [if_neg twice]
        refine ⟨state, rfl, edited.congr fun id other otherFound => ?_⟩
        exact Layout.releaseSome_concat_of_once sound member twice (inside id other otherFound)
  refine ⟨last, ?_, fun id => ?_, ?_, ?_⟩
  · rw [Arena.prune, rootFound]
    exact lastEq
  · rw [lastEdited.fragment?_eq, holds.fragment?_eq,
      Layout.fragment?_eq_map sound.all_prune fun _ => rfl]
    rfl
  · rw [lastEdited.live_eq, Layout.size_prune]
    exact holds.live_eq
  · rw [Layout.all_ids_prune]
    exact holds.ascending

end Holds

end Arena

end ValueEngine
