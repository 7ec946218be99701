import ValueEngine.Fragment.Merging
import ValueEngine.Proofs.Fragment.Joining

/-!
# The pairs of a scan

A scan puts no fragment into two pairs, and the two fragments of a pair have the same inputs and
fit together (`Pairing.Consistent`).

Of the undersized fragments with the same inputs that it has met and not paired, a scan remembers
one only: the cheapest, and of several the first. A scan that finds no pair has compared each
fragment with the one that was waiting then. So if two fragments that it has not paired would fit
together, the later of them did not fit with a third one, which costs no more than the earlier one
but has more nodes (`Layout.exists_heavier`).
-/

set_option autoImplicit false

namespace ValueEngine

namespace Fragment

theorem mayJoin_comm (sizing : Sizing) (first second : Fragment) :
    first.mayJoin sizing second = second.mayJoin sizing first := by
  simp only [mayJoin, Cost.units_add, Nat.add_comm]

theorem mayJoin_iff {sizing : Sizing} {first second : Fragment} :
    first.mayJoin sizing second = true ↔
      first.items + second.items ≤ sizing.maxItems ∧
        (first.cost + second.cost).units ≤ sizing.maxCost := by
  simp only [mayJoin, Sizing.withinMaxima, Bool.and_eq_true, decide_eq_true_eq]

/-- A fragment that fits by its nodes and costs less than one that fits, fits as well. -/
theorem mayJoin_of_cheaper {sizing : Sizing} {first second other : Fragment}
    (fits : first.mayJoin sizing second = true) (cheaper : other.cost.units ≤ first.cost.units)
    (items : other.items + second.items ≤ sizing.maxItems) :
    other.mayJoin sizing second = true := by
  have bounded := (mayJoin_iff.mp fits).2
  rw [Cost.units_add] at bounded
  refine mayJoin_iff.mpr ⟨items, ?_⟩
  rw [Cost.units_add]
  omega

end Fragment

namespace Layout

namespace Pairing

/-- The numbers of the fragments that stand in a pair. -/
def members (pairing : Pairing) : List FragmentId :=
  pairing.pairs.flatMap fun pair => [pair.1, pair.2]

/-- What a scan has found among the fragments that it has looked at. -/
structure Consistent (sizing : Sizing) (pairing : Pairing) (scanned : List Fragment) : Prop where
  /-- Waiting fragments have been looked at and stand in no pair. -/
  waiting_mem : ∀ fragment ∈ pairing.waiting,
    fragment ∈ scanned ∧ fragment.id ∉ pairing.members
  /-- The fragments of a pair have been looked at, have the same inputs and fit together. -/
  alike : ∀ pair ∈ pairing.pairs, ∃ first ∈ scanned, ∃ second ∈ scanned,
    first.id = pair.1 ∧ second.id = pair.2 ∧ first.inputs = second.inputs ∧
      first.mayJoin sizing second = true
  /-- No fragment stands in two pairs. -/
  members_nodup : pairing.members.Nodup

variable {sizing : Sizing} {pairing : Pairing} {scanned : List Fragment}

theorem Consistent.mem_scanned (consistent : pairing.Consistent sizing scanned) {id : FragmentId}
    (member : id ∈ pairing.members) : id ∈ scanned.map Fragment.id := by
  obtain ⟨pair, pairMember, inPair⟩ := List.mem_flatMap.1 member
  obtain ⟨first, firstMember, second, secondMember, firstId, secondId, _⟩ :=
    consistent.alike pair pairMember
  rcases List.mem_pair.1 inPair with rfl | rfl
  · exact List.mem_map.2 ⟨first, firstMember, firstId⟩
  · exact List.mem_map.2 ⟨second, secondMember, secondId⟩

section Step

variable (consistent : pairing.Consistent sizing scanned)
include consistent

/-- Nothing changes for the fragments that have been looked at before. -/
theorem Consistent.skip (fragment : Fragment) :
    pairing.Consistent sizing (scanned ++ [fragment]) where
  waiting_mem other member :=
    (consistent.waiting_mem other member).imp_left (List.mem_append_left _)
  alike pair member := by
    obtain ⟨first, firstMember, second, secondMember, same⟩ := consistent.alike pair member
    exact ⟨first, List.mem_append_left _ firstMember, second, List.mem_append_left _ secondMember,
      same⟩
  members_nodup := consistent.members_nodup

/-- The fragment waits with some of those that waited before. -/
theorem Consistent.wait {fragment : Fragment} (fresh : fragment.id ∉ scanned.map Fragment.id)
    {others : List Fragment} (subset : others ⊆ pairing.waiting) :
    Pairing.Consistent sizing { pairing with waiting := fragment :: others }
      (scanned ++ [fragment]) where
  waiting_mem other member := by
    rcases List.mem_cons.1 member with rfl | member
    · exact ⟨List.mem_append_right _ (List.mem_singleton.2 rfl),
        fun found => fresh (consistent.mem_scanned found)⟩
    · exact (consistent.skip fragment).waiting_mem other (subset member)
  alike := (consistent.skip fragment).alike
  members_nodup := consistent.members_nodup

/-- The fragment is paired with one that waited. -/
theorem Consistent.pair {fragment other : Fragment} (nodup : (scanned.map Fragment.id).Nodup)
    (fresh : fragment.id ∉ scanned.map Fragment.id) (waits : other ∈ pairing.waiting)
    (same : other.inputs = fragment.inputs) (fits : fragment.mayJoin sizing other = true) :
    Pairing.Consistent sizing
      { waiting := pairing.waiting.filter fun third => third.inputs ≠ fragment.inputs
        pairs := pairing.pairs ++ [(other.id, fragment.id)] }
      (scanned ++ [fragment]) := by
  have members_eq : ∀ waiting, Pairing.members
      { waiting, pairs := pairing.pairs ++ [(other.id, fragment.id)] } =
        pairing.members ++ [other.id, fragment.id] := fun _ => by simp [members]
  obtain ⟨otherMember, unpaired⟩ := consistent.waiting_mem other waits
  have otherSeen : other.id ∈ scanned.map Fragment.id := List.mem_map_of_mem otherMember
  refine ⟨fun third member => ?_, fun pair member => ?_, ?_⟩
  · obtain ⟨thirdWaits, differs⟩ := List.mem_filter.1 member
    obtain ⟨thirdMember, thirdUnpaired⟩ := consistent.waiting_mem third thirdWaits
    refine ⟨List.mem_append_left _ thirdMember, fun found => ?_⟩
    rw [members_eq, List.mem_append] at found
    rcases found with found | found
    · exact thirdUnpaired found
    · rcases List.mem_pair.1 found with found | found
      · rw [List.inj_on_of_nodup_map nodup thirdMember otherMember found] at differs
        exact of_decide_eq_true differs same
      · exact fresh (found ▸ List.mem_map_of_mem thirdMember)
  · rcases List.mem_append.1 member with member | member
    · exact (consistent.skip fragment).alike pair member
    · rw [List.mem_singleton.1 member]
      exact ⟨other, List.mem_append_left _ otherMember, fragment,
        List.mem_append_right _ (List.mem_singleton.2 rfl), rfl, rfl, same,
        (Fragment.mayJoin_comm sizing other fragment).trans fits⟩
  · rw [members_eq]
    refine List.nodup_append.2 ⟨consistent.members_nodup, ?_, fun id member new newMember => ?_⟩
    · rw [List.nodup_cons, List.mem_singleton]
      exact ⟨fun equal => fresh (equal ▸ otherSeen), List.nodup_singleton _⟩
    · rcases List.mem_pair.1 newMember with rfl | rfl
      · exact fun equal => unpaired (equal ▸ member)
      · exact fun equal => fresh (equal ▸ consistent.mem_scanned member)

/-- Looking at one more fragment. -/
theorem Consistent.next {fragment : Fragment}
    (nodup : (scanned.map Fragment.id).Nodup) (fresh : fragment.id ∉ scanned.map Fragment.id) :
    (pairing.next sizing fragment).Consistent sizing (scanned ++ [fragment]) := by
  unfold Pairing.next
  split
  · split
    · exact consistent.wait fresh (List.Subset.refl _)
    · rename_i other found
      have same : other.inputs = fragment.inputs := by simpa using List.find?_some found
      have waits := List.mem_of_find?_eq_some found
      split
      · rename_i fits
        exact consistent.pair nodup fresh waits same fits
      · split
        · exact consistent.skip fragment
        · exact consistent.wait fresh List.filter_sublist.subset
  · exact consistent.skip fragment

end Step

theorem Consistent.start (sizing : Sizing) : Pairing.Consistent sizing {} [] :=
  ⟨fun _ member => absurd member List.not_mem_nil, fun _ member => absurd member List.not_mem_nil,
    List.nodup_nil⟩

theorem Consistent.foldl {fragments : List Fragment}
    (consistent : pairing.Consistent sizing scanned)
    (nodup : ((scanned ++ fragments).map Fragment.id).Nodup) :
    (fragments.foldl (Pairing.next sizing) pairing).Consistent sizing (scanned ++ fragments) := by
  induction fragments generalizing pairing scanned with
  | nil => simpa using consistent
  | cons fragment rest ih =>
    rw [List.append_cons] at nodup ⊢
    have seen : ((scanned ++ [fragment]).map Fragment.id).Nodup :=
      nodup.sublist ((List.sublist_append_left _ _).map _)
    rw [List.map_append, List.map_singleton, List.nodup_append] at seen
    have fresh : fragment.id ∉ scanned.map Fragment.id := fun member =>
      seen.2.2 _ member _ (List.mem_singleton.2 rfl) rfl
    exact ih (consistent.next seen.1 fresh) nodup

/-! ## Scans that find no pair -/

/-- A scan keeps the pairs that it has found. -/
theorem pairs_prefix_next (sizing : Sizing) (pairing : Pairing) (fragment : Fragment) :
    pairing.pairs <+: (pairing.next sizing fragment).pairs := by
  unfold next
  split
  · split
    · exact List.prefix_rfl
    · split
      · exact List.prefix_append _ _
      · split <;> exact List.prefix_rfl
  · exact List.prefix_rfl

theorem pairs_prefix_foldl (sizing : Sizing) (pairing : Pairing) (fragments : List Fragment) :
    pairing.pairs <+: (fragments.foldl (next sizing) pairing).pairs := by
  induction fragments generalizing pairing with
  | nil => exact List.prefix_rfl
  | cons fragment rest ih => exact (pairs_prefix_next sizing pairing fragment).trans (ih _)

/-- What waits in a scan that has found no pair: for each candidate that has been looked at, one
with the same inputs that costs no more. -/
structure Cheapest (sizing : Sizing) (pairing : Pairing) (scanned : List Fragment) : Prop where
  waiting_mem : ∀ waits ∈ pairing.waiting, waits ∈ scanned ∧ waits.isCandidate sizing = true
  exists_waiting : ∀ fragment ∈ scanned, fragment.isCandidate sizing = true →
    ∃ waits ∈ pairing.waiting, waits.inputs = fragment.inputs ∧
      waits.cost.units ≤ fragment.cost.units
  /-- No two candidates wait with the same inputs. -/
  eq_of_inputs : ∀ first ∈ pairing.waiting, ∀ second ∈ pairing.waiting,
    first.inputs = second.inputs → first = second

/-- A candidate is looked at without being paired: it did not fit with the one that waited. -/
def Rejected (sizing : Sizing) (scanned : List Fragment) (fragment : Fragment) : Prop :=
  ∀ earlier ∈ scanned, earlier.isCandidate sizing = true → earlier.inputs = fragment.inputs →
    ∃ waits ∈ scanned, waits.isCandidate sizing = true ∧ waits.inputs = fragment.inputs ∧
      waits.cost.units ≤ earlier.cost.units ∧ fragment.mayJoin sizing waits = false

section Step

variable {sizing : Sizing} {pairing : Pairing} {scanned : List Fragment} {fragment : Fragment}

theorem Cheapest.start (sizing : Sizing) : Cheapest sizing {} [] where
  waiting_mem _ member := absurd member List.not_mem_nil
  exists_waiting _ member := absurd member List.not_mem_nil
  eq_of_inputs _ member := absurd member List.not_mem_nil

/-- A fragment is looked at, and what waits stays as it is. -/
theorem Cheapest.skip (cheapest : pairing.Cheapest sizing scanned)
    (covered : fragment.isCandidate sizing = true → ∃ waits ∈ pairing.waiting,
      waits.inputs = fragment.inputs ∧ waits.cost.units ≤ fragment.cost.units) :
    pairing.Cheapest sizing (scanned ++ [fragment]) where
  waiting_mem waits member :=
    (cheapest.waiting_mem waits member).imp_left (List.mem_append_left _)
  exists_waiting other member candidate := by
    rcases List.mem_append.mp member with before | last
    · exact cheapest.exists_waiting other before candidate
    · cases List.mem_singleton.mp last
      exact covered candidate
  eq_of_inputs := cheapest.eq_of_inputs

/-- A candidate waits from now on, in the place of the one with the same inputs if there is one,
which costs no less. -/
theorem Cheapest.wait (cheapest : pairing.Cheapest sizing scanned)
    (candidate : fragment.isCandidate sizing = true) {others : List Fragment}
    (mem_others : ∀ other, other ∈ others ↔
      other ∈ pairing.waiting ∧ other.inputs ≠ fragment.inputs)
    (cheaper : ∀ other ∈ pairing.waiting, other.inputs = fragment.inputs →
      fragment.cost.units ≤ other.cost.units) :
    Pairing.Cheapest sizing { pairing with waiting := fragment :: others }
      (scanned ++ [fragment]) where
  waiting_mem waits member := by
    rcases List.mem_cons.mp member with rfl | member
    · exact ⟨List.mem_append_right _ (List.mem_singleton.mpr rfl), candidate⟩
    · exact (cheapest.waiting_mem waits ((mem_others waits).mp member).1).imp_left
        (List.mem_append_left _)
  exists_waiting other member isCandidate := by
    rcases List.mem_append.mp member with before | last
    · obtain ⟨waits, waitsMember, same, least⟩ :=
        cheapest.exists_waiting other before isCandidate
      by_cases alike : waits.inputs = fragment.inputs
      · refine ⟨fragment, List.mem_cons_self, alike.symm.trans same, ?_⟩
        exact Nat.le_trans (cheaper waits waitsMember alike) least
      · exact ⟨waits, List.mem_cons_of_mem _ ((mem_others waits).mpr ⟨waitsMember, alike⟩), same,
          least⟩
    · cases List.mem_singleton.mp last
      exact ⟨fragment, List.mem_cons_self, rfl, Nat.le_refl _⟩
  eq_of_inputs first firstMember second secondMember same := by
    rcases List.mem_cons.mp firstMember with rfl | firstWaits
    · rcases List.mem_cons.mp secondMember with rfl | secondWaits
      · rfl
      · exact absurd same.symm ((mem_others second).mp secondWaits).2
    · rcases List.mem_cons.mp secondMember with rfl | secondWaits
      · exact absurd same ((mem_others first).mp firstWaits).2
      · exact cheapest.eq_of_inputs first ((mem_others first).mp firstWaits).1 second
          ((mem_others second).mp secondWaits).1 same

/-- When nothing waits with the inputs of a fragment, no earlier candidate has them. -/
theorem Cheapest.rejected_of_alone (cheapest : pairing.Cheapest sizing scanned)
    (alone : ∀ other ∈ pairing.waiting, other.inputs ≠ fragment.inputs) :
    Rejected sizing scanned fragment := by
  intro earlier member isCandidate same
  obtain ⟨waits, waitsMember, alike, _⟩ := cheapest.exists_waiting earlier member isCandidate
  exact absurd (alike.trans same) (alone waits waitsMember)

/-- A fragment is rejected when the one that waits with its inputs does not fit. -/
theorem Cheapest.rejected_of_unfit (cheapest : pairing.Cheapest sizing scanned) {other : Fragment}
    (waits : other ∈ pairing.waiting) (same : other.inputs = fragment.inputs)
    (unfit : ¬ fragment.mayJoin sizing other) : Rejected sizing scanned fragment := by
  intro earlier member isCandidate alike
  obtain ⟨waiting, waitingMember, equal, least⟩ :=
    cheapest.exists_waiting earlier member isCandidate
  obtain rfl : waiting = other :=
    cheapest.eq_of_inputs waiting waitingMember other waits
      (equal.trans (alike.trans same.symm))
  obtain ⟨seen, otherCandidate⟩ := cheapest.waiting_mem waiting waits
  exact ⟨waiting, seen, otherCandidate, same, least, eq_false_of_ne_true unfit⟩

/-- Looking at one more fragment without finding a pair. -/
theorem Cheapest.next (cheapest : pairing.Cheapest sizing scanned)
    (unpaired : (pairing.next sizing fragment).pairs = pairing.pairs) :
    (pairing.next sizing fragment).Cheapest sizing (scanned ++ [fragment]) ∧
      (fragment.isCandidate sizing = true → Rejected sizing scanned fragment) := by
  unfold Pairing.next at unpaired ⊢
  split at unpaired
  case isFalse skipped =>
    rw [if_neg skipped]
    exact ⟨cheapest.skip fun candidate => absurd candidate skipped,
      fun candidate => absurd candidate skipped⟩
  case isTrue candidate =>
    rw [if_pos candidate]
    split at unpaired
    case h_1 absent =>
      have alone : ∀ other ∈ pairing.waiting, other.inputs ≠ fragment.inputs := by
        intro other member same
        have differs := List.find?_eq_none.mp absent other member
        simp [same] at differs
      refine ⟨cheapest.wait candidate ?_ ?_, fun _ => cheapest.rejected_of_alone alone⟩
      · intro other
        exact ⟨fun member => ⟨member, alone other member⟩, And.left⟩
      · exact fun other member same => absurd same (alone other member)
    case h_2 other found =>
      have same : other.inputs = fragment.inputs := by simpa using List.find?_some found
      have waits := List.mem_of_find?_eq_some found
      split at unpaired
      case isTrue => simp at unpaired
      case isFalse unfit =>
        rw [if_neg unfit]
        refine ⟨?_, fun _ => cheapest.rejected_of_unfit waits same unfit⟩
        split
        case isTrue cheaper =>
          exact cheapest.skip fun _ => ⟨other, waits, same, cheaper⟩
        case isFalse dearer =>
          refine cheapest.wait candidate ?_ ?_
          · intro third
            simp only [List.mem_filter, decide_eq_true_eq]
          · intro third member alike
            obtain rfl : third = other :=
              cheapest.eq_of_inputs third member other waits (alike.trans same.symm)
            exact Nat.le_of_lt (Nat.lt_of_not_le dearer)

theorem Cheapest.foldl {fragments : List Fragment} (cheapest : pairing.Cheapest sizing scanned)
    (unpaired : (fragments.foldl (Pairing.next sizing) pairing).pairs = pairing.pairs) :
    ∀ before fragment after, fragments = before ++ fragment :: after →
      fragment.isCandidate sizing = true → Rejected sizing (scanned ++ before) fragment := by
  induction fragments generalizing pairing scanned with
  | nil =>
    intro before fragment after split
    cases before <;> cases split
  | cons first rest ih =>
    rw [List.foldl_cons] at unpaired
    -- No step finds a pair, since none is lost and none is there in the end.
    have later := pairs_prefix_foldl sizing (pairing.next sizing first) rest
    rw [unpaired] at later
    have here : (pairing.next sizing first).pairs = pairing.pairs :=
      later.eq_of_length_le (pairs_prefix_next sizing pairing first).length_le
    obtain ⟨cheapestNext, rejected⟩ := cheapest.next here
    intro before fragment after split candidate
    cases before with
    | nil =>
      cases split
      rw [List.append_nil]
      exact rejected candidate
    | cons head before =>
      cases split
      rw [List.append_cons]
      exact ih cheapestNext (unpaired.trans here.symm) before fragment after rfl candidate

end Step

end Pairing

variable {layout : Layout} {sizing : Sizing}

/-- In a layout where a scan finds no pair, every undersized fragment was rejected by what waited
for it. -/
theorem rejected_of_pairs_eq_nil (unpaired : layout.pairs sizing = [])
    {before after : List Fragment} {fragment : Fragment}
    (split : layout.fragments = before ++ fragment :: after)
    (candidate : fragment.isCandidate sizing = true) :
    Pairing.Rejected sizing before fragment :=
  (Pairing.Cheapest.start sizing).foldl unpaired before fragment after split candidate

/-- **Two undersized fragments with the same inputs that fit together are left apart only by a
third one**, which costs no more than the earlier of the two and has more nodes, too many for the
later. -/
theorem exists_heavier (unpaired : layout.pairs sizing = [])
    {before after : List Fragment} {first second : Fragment}
    (split : layout.fragments = before ++ second :: after) (member : first ∈ before)
    (firstCandidate : first.isCandidate sizing = true)
    (secondCandidate : second.isCandidate sizing = true) (same : first.inputs = second.inputs)
    (fits : first.mayJoin sizing second = true) :
    ∃ third ∈ before, third.isCandidate sizing = true ∧ third.inputs = second.inputs ∧
      third.cost.units ≤ first.cost.units ∧ first.items < third.items ∧
        sizing.maxItems < third.items + second.items := by
  obtain ⟨third, thirdMember, thirdCandidate, thirdInputs, cheaper, unfit⟩ :=
    rejected_of_pairs_eq_nil unpaired split secondCandidate first member firstCandidate same
  rw [Fragment.mayJoin_comm] at unfit
  have heavy : sizing.maxItems < third.items + second.items := by
    by_contra light
    rw [Fragment.mayJoin_of_cheaper fits cheaper (Nat.le_of_not_lt light)] at unfit
    cases unfit
  have fewer := (Fragment.mayJoin_iff.mp fits).1
  exact ⟨third, thirdMember, thirdCandidate, thirdInputs, cheaper, by omega, heavy⟩

end Layout

end ValueEngine
