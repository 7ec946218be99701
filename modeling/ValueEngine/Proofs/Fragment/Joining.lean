import ValueEngine.Proofs.Fragment.Soundness

/-!
# Joining two fragments

Both ways of making one fragment of two are contractions. Fragments with the same
inputs may be joined because neither can reach the other: whatever leads to one
of them through its inputs leads to both. A fragment may be joined to its only
dependent because every way out of it passes through this dependent.

The rank in which the links rise stays the same when a fragment is joined to its
dependent. When fragments with the same inputs are joined, the joined fragment
gets the lower of the two ranks, which is still above those of the inputs.
-/

set_option autoImplicit false

namespace ValueEngine

variable {host guest : Fragment}

namespace Fragment

theorem mem_inputs_onJoinAfter (fragment : Fragment) (id : FragmentId) :
    id ∈ (onJoinAfter host guest fragment).inputs ↔
      if fragment.id ∈ guest.dependents then id = host.id ∨ id ∈ fragment.inputs ∧ id ≠ guest.id
      else id ∈ fragment.inputs := by
  have inputs_eq :
      (onJoinAfter host guest fragment).inputs = (fragment.turnTo host.id guest).inputs := by
    unfold onJoinAfter
    split <;> rfl
  rw [inputs_eq, turnTo]
  split <;> simp

theorem mem_dependents_onJoinAfter (fragment : Fragment) (id : FragmentId) :
    id ∈ (onJoinAfter host guest fragment).dependents ↔
      (if fragment.id ∈ guest.inputs then id ∈ fragment.dependents ∧ id ≠ guest.id
        else id ∈ fragment.dependents) ∨ fragment.id = host.id ∧ id ∈ guest.dependents := by
  unfold onJoinAfter turnTo
  by_cases isHost : fragment.id = host.id <;> by_cases feeds : fragment.id ∈ guest.inputs
  · simp [isHost, isHost ▸ feeds, or_comm]
  · simp [isHost, isHost ▸ feeds, or_comm]
  · simp [isHost, feeds]
  · simp [isHost, feeds]

theorem mem_inputs_onJoinBefore (fragment : Fragment) (id : FragmentId) :
    id ∈ (onJoinBefore host guest fragment).inputs ↔
      if fragment.id = host.id then id ∈ guest.inputs ∨ id ∈ fragment.inputs ∧ id ≠ guest.id
      else id ∈ fragment.inputs := by
  unfold onJoinBefore
  split
  · simp
  · rfl

theorem mem_dependents_onJoinBefore (fragment : Fragment) (id : FragmentId) :
    id ∈ (onJoinBefore host guest fragment).dependents ↔
      if fragment.id ∈ guest.inputs then id = host.id ∨ id ∈ fragment.dependents ∧ id ≠ guest.id
      else id ∈ fragment.dependents := by
  have dependents_eq :
      (onJoinBefore host guest fragment).dependents =
        (fragment.feedTo host.id guest).dependents := by
    unfold onJoinBefore
    split <;> rfl
  rw [dependents_eq, feedTo]
  split <;> simp

end Fragment

namespace Layout.Sound

variable {layout : Layout} {graph : Graph} (sound : layout.Sound graph)
  (hostMember : host ∈ layout.fragments) (guestMember : guest ∈ layout.fragments)
include sound hostMember guestMember

/-! ## Fragments with the same inputs -/

/-- Joining fragments with the same inputs contracts them. -/
theorem contraction_joinAfter (distinct : host.id ≠ guest.id)
    (sameInputs : host.inputs = guest.inputs) :
    Contraction layout (layout.joinAfter host guest) host guest
      (Fragment.onJoinAfter host guest) where
  all_eq := by
    have notFed := sound.root_not_mem_inputs (mem_all_of_mem guestMember)
    have notHost : layout.root.id ≠ host.id := (sound.id_ne_root hostMember).symm
    have root_eq : (layout.joinAfter host guest).root =
        Fragment.onJoinAfter host guest layout.root := by
      rw [Fragment.onJoinAfter, if_neg notHost]
      simp [root, Layout.joinAfter, Fragment.turnTo, notFed]
    rw [all_filter_ne (sound.id_ne_root guestMember), List.map_cons, ← root_eq]
    rfl
  id_eq fragment := by
    unfold Fragment.onJoinAfter
    split <;> rfl
  nodes_eq fragment notHost := by
    rw [Fragment.onJoinAfter, if_neg notHost]
    rfl
  nodes_perm := by
    rw [Fragment.onJoinAfter, if_pos rfl]
  mem_inputs := by
    intro fragment member stays id
    have fromGuest := sound.linked guest (mem_all_of_mem guestMember) fragment member
    have guestAlone := sound.not_mem_inputs (mem_all_of_mem guestMember)
    have hostAlone := sound.not_mem_inputs (mem_all_of_mem hostMember)
    have alone := sound.not_mem_inputs member
    have sameHost := sound.eq_of_id member (mem_all_of_mem hostMember)
    rw [Fragment.mem_inputs_onJoinAfter]
    grind
  mem_dependents := by
    intro fragment member stays id
    have intoGuest := sound.linked fragment member guest (mem_all_of_mem guestMember)
    have intoHost := sound.linked fragment member host (mem_all_of_mem hostMember)
    have backAndForth := sound.linked guest (mem_all_of_mem guestMember) host
      (mem_all_of_mem hostMember)
    have guestAlone := sound.not_mem_dependents (mem_all_of_mem guestMember)
    have alone := sound.not_mem_dependents member
    have guestAlone' := sound.not_mem_inputs (mem_all_of_mem guestMember)
    have sameHost := sound.eq_of_id member (mem_all_of_mem hostMember)
    rw [Fragment.mem_dependents_onJoinAfter]
    grind

/-- **Fragments with the same inputs may be joined.** -/
theorem joinAfter (distinct : host.id ≠ guest.id) (sameInputs : host.inputs = guest.inputs) :
    (layout.joinAfter host guest).Sound graph := by
  have hostAlone := sound.not_mem_inputs (mem_all_of_mem hostMember)
  have guestAlone := sound.not_mem_inputs (mem_all_of_mem guestMember)
  refine sound.contract (sound.contraction_joinAfter hostMember guestMember distinct sameInputs)
    hostMember guestMember distinct (sameInputs ▸ hostAlone) ?_ ?_
  · obtain ⟨rank, rises⟩ := sound.ranked
    refine ⟨fun id => if id = host.id then min (rank host.id) (rank guest.id) else rank id, ?_⟩
    intro fragment member stays id consumed
    have below := rises fragment member
    have belowGuest := rises guest guestMember
    have fromGuest := sound.linked guest (mem_all_of_mem guestMember) fragment
      (mem_all_of_mem member)
    have sameHost := sound.eq_of_id (mem_all_of_mem member) (mem_all_of_mem hostMember)
    rw [Fragment.mem_inputs_onJoinAfter] at consumed
    grind
  · rw [Fragment.onJoinAfter, if_pos rfl]
    refine List.pairwise_append.2
      ⟨sound.ordered host hostMember, sound.ordered guest guestMember, ?_⟩
    intro earlier earlierMember later laterMember feeds
    have consumed : guest.id ∈ host.inputs :=
      (sound.consumes guest guestMember host hostMember).2
        ⟨distinct.symm, later, laterMember, earlier, earlierMember, feeds⟩
    exact guestAlone (sameInputs ▸ consumed)

/-! ## A fragment and its only dependent -/

/-- Joining a fragment to its only dependent contracts them. -/
theorem contraction_joinBefore (notConsumed : host.id ∉ guest.inputs)
    (only : ∀ id, id ∈ guest.dependents ↔ id = host.id) :
    Contraction layout (layout.joinBefore host guest) host guest
      (Fragment.onJoinBefore host guest) where
  all_eq := by
    have notFed := sound.root_not_mem_inputs (mem_all_of_mem guestMember)
    have notHost : layout.root.id ≠ host.id := (sound.id_ne_root hostMember).symm
    have root_eq : (layout.joinBefore host guest).root =
        Fragment.onJoinBefore host guest layout.root := by
      rw [Fragment.onJoinBefore, if_neg notHost]
      simp [root, Layout.joinBefore, Fragment.feedTo, notFed]
    rw [all_filter_ne (sound.id_ne_root guestMember), List.map_cons, ← root_eq]
    rfl
  id_eq fragment := by
    unfold Fragment.onJoinBefore
    split <;> rfl
  nodes_eq fragment notHost := by
    rw [Fragment.onJoinBefore, if_neg notHost]
    rfl
  nodes_perm := by
    rw [Fragment.onJoinBefore, if_pos rfl]
    exact List.perm_append_comm
  mem_inputs := by
    intro fragment member stays id
    have fromGuest := sound.linked guest (mem_all_of_mem guestMember) fragment member
    have intoHost := sound.linked guest (mem_all_of_mem guestMember) host
      (mem_all_of_mem hostMember)
    have guestAlone := sound.not_mem_inputs (mem_all_of_mem guestMember)
    have alone := sound.not_mem_inputs member
    have sameHost := sound.eq_of_id member (mem_all_of_mem hostMember)
    rw [Fragment.mem_inputs_onJoinBefore]
    grind
  mem_dependents := by
    intro fragment member stays id
    have intoGuest := sound.linked fragment member guest (mem_all_of_mem guestMember)
    have guestAlone := sound.not_mem_dependents (mem_all_of_mem guestMember)
    have alone := sound.not_mem_dependents member
    have sameHost := sound.eq_of_id member (mem_all_of_mem hostMember)
    rw [Fragment.mem_dependents_onJoinBefore]
    grind

/-- **A fragment may be joined to its only dependent.** -/
theorem joinBefore (distinct : host.id ≠ guest.id)
    (only : ∀ id, id ∈ guest.dependents ↔ id = host.id) :
    (layout.joinBefore host guest).Sound graph := by
  have consumed : guest.id ∈ host.inputs :=
    (sound.linked guest (mem_all_of_mem guestMember) host (mem_all_of_mem hostMember)).2
      ((only host.id).2 rfl)
  have notConsumed := sound.asymm guestMember hostMember consumed
  obtain ⟨rank, rises⟩ := sound.ranked
  refine sound.contract
    (sound.contraction_joinBefore hostMember guestMember notConsumed only)
    hostMember guestMember distinct notConsumed ⟨rank, ?_⟩ ?_
  · intro fragment member stays id consumes
    rw [Fragment.mem_inputs_onJoinBefore] at consumes
    split at consumes
    · rename_i isHost
      rw [isHost]
      rcases consumes with indirect | direct
      · exact Nat.lt_trans (rises guest guestMember id indirect) (rises host hostMember _ consumed)
      · exact isHost ▸ rises fragment member id direct.1
    · exact rises fragment member id consumes
  · rw [Fragment.onJoinBefore, if_pos rfl]
    refine List.pairwise_append.2
      ⟨sound.ordered guest guestMember, sound.ordered host hostMember, ?_⟩
    intro earlier earlierMember later laterMember feeds
    exact notConsumed ((sound.consumes host hostMember guest guestMember).2
      ⟨distinct, later, laterMember, earlier, earlierMember, feeds⟩)

end Layout.Sound

end ValueEngine
