import Mathlib.Data.List.ReduceOption
import ValueEngine.Arena.Basic
import ValueEngine.Proofs.Fragment.Joining

/-!
# What an arena holds

An arena holds a layout when it finds the same fragments, the root included, and counts as many
(`Arena.Holds`). Then it also lists the same fragments, since both lists follow the numbers.

A step on an arena changes single fragments. What a sequence of steps has made of an arena is said
by one function on fragments (`Arena.Edited`), and each further step composes it with one more
change (`Arena.Edited.update`). The fragments of the arena have the numbers of their slots, so the
function can tell them apart.
-/

set_option autoImplicit false

namespace ValueEngine

/-- **A loop whose every step has a result has one**, and an invariant over what has been done holds
in the end. -/
theorem exists_foldlM {σ α : Type} {step : σ → α → Option σ} {list : List α} {start : σ}
    (Invariant : List α → σ → Prop) (initial : Invariant [] start)
    (progress : ∀ done next rest state, list = done ++ next :: rest → Invariant done state →
      ∃ later, step state next = some later ∧ Invariant (done ++ [next]) later) :
    ∃ last, list.foldlM step start = some last ∧ Invariant list last := by
  have onward : ∀ rest done state, list = done ++ rest → Invariant done state →
      ∃ last, rest.foldlM step state = some last ∧ Invariant list last := by
    intro rest
    induction rest with
    | nil =>
      intro done state split holds
      rw [List.append_nil] at split
      exact ⟨state, rfl, split ▸ holds⟩
    | cons next rest ih =>
      intro done state split holds
      obtain ⟨later, stepped, further⟩ := progress done next rest state split holds
      obtain ⟨last, run, holdsLast⟩ := ih (done ++ [next]) later (by simpa using split) further
      refine ⟨last, ?_, holdsLast⟩
      rw [List.foldlM_cons, stepped]
      exact run
  exact onward list [] start rfl initial

/-- A loop over a set comes to each of its elements once. -/
theorem not_mem_before {α : Type} {list done rest : List α} {next : α} (nodup : list.Nodup)
    (split : list = done ++ next :: rest) : next ∉ done := by
  rw [split, List.nodup_middle, List.nodup_cons] at nodup
  exact fun again => nodup.1 (List.mem_append_left _ again)

theorem exists_foldlM_toList {σ α : Type} [Ord α] [Std.TransOrd α] {step : σ → α → Option σ}
    {set : SortedSet α} {start : σ} (Invariant : List α → σ → Prop) (initial : Invariant [] start)
    (progress : ∀ done next state, next ∈ set → next ∉ done → Invariant done state →
      ∃ later, step state next = some later ∧ Invariant (done ++ [next]) later) :
    ∃ last, set.toList.foldlM step start = some last ∧ Invariant set.toList last := by
  refine exists_foldlM Invariant initial fun done next rest state split holds => ?_
  have member : next ∈ set.toList := by simp [split]
  exact progress done next state member (not_mem_before set.nodup split) holds

/-- A lookup of every element of a list succeeds when each of them does. -/
theorem mapM_eq_some_map {α β : Type} {find : α → Option β} {value : α → β} {list : List α}
    (found : ∀ element ∈ list, find element = some (value element)) :
    list.mapM find = some (list.map value) := by
  induction list with
  | nil => rfl
  | cons first rest ih =>
    obtain ⟨here, later⟩ := List.forall_mem_cons.mp found
    rw [List.mapM_cons, here, ih later]
    rfl

namespace Arena

variable {arena state later : Arena} {id other : FragmentId} {fragment : Fragment}
  {change : Fragment → Fragment}

theorem lt_length_of_fragment? (found : arena.fragment? id = some fragment) :
    id < arena.slots.length := by
  rw [fragment?, Option.join_eq_some_iff] at found
  exact (List.getElem?_eq_some_iff.mp found).1

/-- The slots after one of them is given new content. -/
theorem fragment?_set {content : Option Fragment} (inside : id < arena.slots.length)
    (live : Nat) (other : FragmentId) :
    Arena.fragment? { slots := arena.slots.set id content, live } other =
      if other = id then content else arena.fragment? other := by
  unfold fragment?
  rw [List.getElem?_set]
  split
  case isTrue same =>
    rw [if_pos same.symm]
    rfl
  case isFalse differs => rw [if_neg (Ne.symm differs)]

/-- The fragment in a slot has the number of the slot. -/
def Numbered (arena : Arena) : Prop :=
  ∀ id fragment, arena.fragment? id = some fragment → fragment.id = id

/-- What a function makes of every fragment of an arena. -/
structure Edited (arena : Arena) (change : Fragment → Fragment) (later : Arena) : Prop where
  fragment?_eq : ∀ id, later.fragment? id = (arena.fragment? id).map change
  live_eq : later.live = arena.live
  length_eq : later.slots.length = arena.slots.length

namespace Edited

theorem refl (arena : Arena) : arena.Edited (fun fragment => fragment) arena where
  fragment?_eq _ := Option.map_id_apply.symm
  live_eq := rfl
  length_eq := rfl

/-- Only what becomes of the fragments that are there matters. -/
theorem congr {also : Fragment → Fragment} (edited : arena.Edited change later)
    (same : ∀ id fragment, arena.fragment? id = some fragment → change fragment = also fragment) :
    arena.Edited also later where
  fragment?_eq id := by
    rw [edited.fragment?_eq]
    cases found : arena.fragment? id with
    | none => rfl
    | some fragment => exact congrArg some (same id fragment found)
  live_eq := edited.live_eq
  length_eq := edited.length_eq

theorem numbered (edited : arena.Edited change later) (numbered : arena.Numbered)
    (id_eq : ∀ fragment, (change fragment).id = fragment.id) : later.Numbered := by
  intro id fragment found
  rw [edited.fragment?_eq, Option.map_eq_some_iff] at found
  obtain ⟨old, oldFound, rfl⟩ := found
  exact (id_eq old).trans (numbered id old oldFound)

/-- **One more fragment is changed.** -/
theorem update (numbered : arena.Numbered) (edited : arena.Edited change state)
    (found : arena.fragment? id = some fragment) (more : Fragment → Fragment) :
    ∃ later, state.update id more = some later ∧
      arena.Edited (fun fragment => if fragment.id = id then more (change fragment)
        else change fragment) later := by
  have here : state.fragment? id = some (change fragment) := by
    rw [edited.fragment?_eq, found]
    rfl
  have inside := lt_length_of_fragment? here
  let changed : Arena := { state with slots := state.slots.set id (some (more (change fragment))) }
  have updated : state.update id more = some changed := by
    rw [Arena.update, here]
    rfl
  refine ⟨changed, updated, fun other => ?_, edited.live_eq, ?_⟩
  · rw [fragment?_set inside]
    split
    case isTrue same =>
      subst same
      rw [found, Option.map_some, if_pos (numbered _ _ found)]
    case isFalse differs =>
      rw [edited.fragment?_eq]
      cases elsewhere : arena.fragment? other with
      | none => rfl
      | some fragment =>
        rw [Option.map_some, Option.map_some,
          if_neg fun same => differs ((numbered _ _ elsewhere).symm.trans same)]
  · exact List.length_set.trans edited.length_eq

/-- A link is made. -/
theorem link (numbered : arena.Numbered) (edited : arena.Edited change state)
    {input dependent : FragmentId} {producer consumer : Fragment}
    (producerFound : arena.fragment? input = some producer)
    (consumerFound : arena.fragment? dependent = some consumer) :
    ∃ later, state.link input dependent = some later ∧
      arena.Edited (fun fragment =>
        let fed := if fragment.id = input then (change fragment).addDependent dependent
          else change fragment
        if fragment.id = dependent then fed.addInput input else fed) later := by
  obtain ⟨fed, fedEq, fedEdited⟩ :=
    edited.update numbered producerFound (Fragment.addDependent dependent)
  obtain ⟨linked, linkedEq, linkedEdited⟩ :=
    fedEdited.update numbered consumerFound (Fragment.addInput input)
  refine ⟨linked, ?_, linkedEdited⟩
  rw [Arena.link, fedEq]
  exact linkedEq

/-- A link is cut. -/
theorem unlink (numbered : arena.Numbered) (edited : arena.Edited change state)
    {input dependent : FragmentId} {producer consumer : Fragment}
    (producerFound : arena.fragment? input = some producer)
    (consumerFound : arena.fragment? dependent = some consumer) :
    ∃ later, state.unlink input dependent = some later ∧
      arena.Edited (fun fragment =>
        let cut := if fragment.id = input then (change fragment).dropDependent dependent
          else change fragment
        if fragment.id = dependent then cut.dropInput input else cut) later := by
  obtain ⟨fed, fedEq, fedEdited⟩ :=
    edited.update numbered producerFound (Fragment.dropDependent dependent)
  obtain ⟨linked, linkedEq, linkedEdited⟩ :=
    fedEdited.update numbered consumerFound (Fragment.dropInput input)
  refine ⟨linked, ?_, linkedEdited⟩
  rw [Arena.unlink, fedEq]
  exact linkedEq

end Edited

/-! ## Arenas and layouts -/

/-- An arena holds the fragments of a layout. -/
structure Holds (arena : Arena) (layout : Layout) : Prop where
  fragment?_eq : ∀ id, arena.fragment? id = layout.fragment? id
  live_eq : arena.live = layout.size
  /-- The layout lists its fragments in the order of their numbers. -/
  ascending : (layout.all.map Fragment.id).Pairwise (· < ·)

/-- The fragments of an arena are those in its slots but the root's. -/
theorem mem_fragments :
    fragment ∈ arena.fragments ↔ ∃ id ≠ FragmentId.root, arena.fragment? id = some fragment := by
  rw [fragments, List.reduceOption_mem_iff, List.mem_iff_getElem?]
  simp only [List.getElem?_tail, fragment?, Option.join_eq_some_iff]
  constructor
  · rintro ⟨position, found⟩
    exact ⟨position + 1, Nat.succ_ne_zero _, found⟩
  · rintro ⟨id, notRoot, found⟩
    obtain ⟨position, rfl⟩ := Nat.exists_eq_succ_of_ne_zero notRoot
    exact ⟨position, found⟩

/-- The fragments of an arena are listed by number. -/
theorem Numbered.pairwise_fragments (numbered : arena.Numbered) :
    arena.fragments.Pairwise fun first second => first.id < second.id := by
  refine List.pairwise_filterMap.mpr (List.pairwise_iff_getElem.mpr ?_)
  intro first second firstInside secondInside below fragment firstFound other secondFound
  have number : ∀ position (inside : position < arena.slots.tail.length) (content : Fragment),
      arena.slots.tail[position] = some content → content.id = position + 1 := by
    intro position inside content found
    apply numbered
    rw [fragment?, ← List.getElem?_tail, List.getElem?_eq_getElem inside, found]
    rfl
  rw [number first firstInside fragment firstFound, number second secondInside other secondFound]
  exact Nat.succ_lt_succ below

namespace Holds

variable {layout : Layout} (holds : arena.Holds layout)
include holds

theorem numbered : arena.Numbered := by
  intro id fragment found
  rw [holds.fragment?_eq] at found
  exact (Layout.mem_of_fragment? found).2

theorem ids_nodup : (layout.all.map Fragment.id).Nodup :=
  holds.ascending.imp Nat.ne_of_lt

theorem find (member : fragment ∈ layout.all) : arena.fragment? fragment.id = some fragment := by
  rw [holds.fragment?_eq]
  obtain ⟨found, lookup⟩ : ∃ found, layout.fragment? fragment.id = some found :=
    Option.isSome_iff_exists.1 (List.find?_isSome.2 ⟨fragment, member, by simp⟩)
  obtain ⟨foundMember, same⟩ := Layout.mem_of_fragment? lookup
  rw [lookup, List.inj_on_of_nodup_map holds.ids_nodup foundMember member same]

/-- **An arena that holds a layout lists its fragments.** -/
theorem fragments_eq : arena.fragments = layout.fragments := by
  have sorted : layout.fragments.Pairwise fun first second => first.id < second.id :=
    List.pairwise_map.mp (List.pairwise_cons.mp holds.ascending).2
  have positive : ∀ fragment ∈ layout.fragments, fragment.id ≠ FragmentId.root := by
    intro fragment member
    exact Nat.ne_of_gt
      ((List.pairwise_cons.mp holds.ascending).1 _ (List.mem_map_of_mem member))
  have nodup : ∀ {list : List Fragment},
      (list.Pairwise fun first second => first.id < second.id) → list.Nodup := fun sorted =>
    sorted.imp fun below same => Nat.ne_of_lt below (congrArg Fragment.id same)
  have sortedHere := holds.numbered.pairwise_fragments
  refine List.Perm.eq_of_pairwise (fun first second _ _ below above => ?_) sortedHere sorted ?_
  · exact absurd below (Nat.lt_asymm above)
  · refine (List.perm_ext_iff_of_nodup (nodup sortedHere) (nodup sorted)).mpr fun fragment => ?_
    rw [mem_fragments]
    constructor
    · rintro ⟨id, notRoot, found⟩
      rw [holds.fragment?_eq] at found
      obtain ⟨member, rfl⟩ := Layout.mem_of_fragment? found
      exact Layout.mem_fragments_of_ne_root member notRoot
    · intro member
      exact ⟨fragment.id, positive fragment member, holds.find (Layout.mem_all_of_mem member)⟩

end Holds

/-- An arena holds the fragments of a layout but for one of them. -/
structure Without (arena : Arena) (layout : Layout) (absent : Fragment) : Prop where
  fragment?_eq : ∀ id, arena.fragment? id = if id = absent.id then none else layout.fragment? id
  live_eq : arena.live + 1 = layout.size

theorem Without.numbered {layout : Layout} (without : arena.Without layout fragment) :
    arena.Numbered := by
  intro id other found
  rw [without.fragment?_eq] at found
  split at found
  · cases found
  · exact (Layout.mem_of_fragment? found).2

/-- A fragment is taken out. -/
theorem Holds.take {layout : Layout} (holds : arena.Holds layout)
    (member : fragment ∈ layout.fragments) :
    ∃ taken, arena.take fragment.id = some (fragment, taken) ∧ taken.Without layout fragment := by
  have found := holds.find (Layout.mem_all_of_mem member)
  have notRoot : fragment.id ≠ FragmentId.root := Nat.ne_of_gt
    ((List.pairwise_cons.mp holds.ascending).1 _ (List.mem_map_of_mem member))
  have live_eq := holds.live_eq
  have positive : 0 < layout.size := List.length_pos_of_mem member
  let taken : Arena := { slots := arena.slots.set fragment.id none, live := arena.live - 1 }
  have present : ¬ (fragment.id = FragmentId.root ∨ arena.live = 0) := by
    rw [not_or]
    exact ⟨notRoot, by omega⟩
  refine ⟨taken, ?_, fun id => ?_, ?_⟩
  · rw [Arena.take, found]
    exact if_neg present
  · rw [fragment?_set (lt_length_of_fragment? found)]
    split
    case isTrue => rfl
    case isFalse => exact holds.fragment?_eq id
  · exact (Nat.sub_add_cancel (live_eq ▸ positive)).trans live_eq

end Arena

end ValueEngine
