import Mathlib.Algebra.Order.BigOperators.Group.List
import Mathlib.Algebra.Order.Ring.Nat
import Mathlib.Data.Finset.Card
import Mathlib.Data.List.Perm.Subperm
import Mathlib.Logic.Relation
import Mathlib.Order.Bounds.Basic
import ValueEngine.Proofs.Arena.Basic
import ValueEngine.Proofs.Fragment.Timing

/-!
# Chains of inputs

The links of the fragments in slots are read off their inputs. They are acyclic when no fragment
consumes its own values, directly or through others, and then they rise in some rank, whatever the
numbers of the fragments are (`Arena.Acyclic.exists_rank`).

A chain of inputs leads to a fragment when each fragment of the chain is consumed by the next one
and the last of them by the fragment. The fragments of a chain run one after the other, which takes
as many ticks as they have together: a delay of the fragment. Its greatest delay is the latest
finish among its inputs, when each of these starts at its own greatest delay
(`Arena.isGreatest_delays`). A chain comes to no fragment twice, so that no delay exceeds what all
fragments take together (`Arena.Acyclic.delay_le`).
-/

set_option autoImplicit false

namespace ValueEngine.Arena

open Relation

variable {arena : Arena} {fragment : Fragment} {id input : FragmentId}

/-! ## Links -/

/-- A fragment is consumed by another one. -/
def Feeds (arena : Arena) (input id : FragmentId) : Prop :=
  ∃ fragment, arena.fragment? id = some fragment ∧ input ∈ fragment.inputs

/-- No fragment consumes its own values, directly or through others. -/
def Acyclic (arena : Arena) : Prop := ∀ id, ¬ TransGen arena.Feeds id id

/-- The fragments have the numbers of their slots, and those that they consume are there. -/
structure Linked (arena : Arena) : Prop where
  numbered : arena.Numbered
  exists_input : ∀ {input id}, arena.Feeds input id →
    ∃ fragment, arena.fragment? input = some fragment

/-- What holds of all links can be checked slot by slot. -/
theorem forall_feeds {P : FragmentId → FragmentId → Prop}
    (checked : ∀ id ∈ List.range arena.slots.length, ∀ fragment ∈ arena.fragment? id,
      ∀ input ∈ fragment.inputs.toList, P input id) (feeds : arena.Feeds input id) :
    P input id := by
  obtain ⟨fragment, found, consumed⟩ := feeds
  exact checked id (List.mem_range.mpr (lt_length_of_fragment? found)) fragment found input
    (SortedSet.mem_toList.mpr consumed)

/-- Links that rise in some rank are acyclic. What feeds nothing needs no rank. -/
theorem acyclic_of_rank (rank : FragmentId → Nat)
    (rises : ∀ {first second third}, arena.Feeds first second → arena.Feeds second third →
      rank first < rank second) : arena.Acyclic := by
  have along : ∀ {first last next}, TransGen arena.Feeds first last → arena.Feeds last next →
      rank first < rank last := by
    intro first last next path feeds
    induction path generalizing next with
    | single link => exact rises link feeds
    | tail _ link ih => exact Nat.lt_trans (ih link) (rises link feeds)
  intro id cycle
  obtain ⟨next, feeds, _⟩ := TransGen.head'_iff.mp cycle
  exact Nat.lt_irrefl _ (along cycle feeds)

open Classical in
/-- **Acyclic links rise in some rank**: the number of fragments that feed a fragment, directly or
through others. -/
theorem Acyclic.exists_rank (acyclic : arena.Acyclic) (linked : arena.Linked) :
    ∃ rank : FragmentId → Nat, ∀ {input id}, arena.Feeds input id → rank input < rank id := by
  let sources := fun id => (Finset.range arena.slots.length).filter fun other =>
    TransGen arena.Feeds other id
  refine ⟨fun id => (sources id).card, fun {input id} feeds => Finset.card_lt_card ?_⟩
  have more : sources input ⊆ sources id := by
    intro other member
    obtain ⟨inside, path⟩ := Finset.mem_filter.mp member
    exact Finset.mem_filter.mpr ⟨inside, path.tail feeds⟩
  refine (Finset.ssubset_iff_of_subset more).mpr
    ⟨input, Finset.mem_filter.mpr ?_, fun itself => ?_⟩
  · obtain ⟨fragment, found⟩ := linked.exists_input feeds
    exact ⟨Finset.mem_range.mpr (lt_length_of_fragment? found), .single feeds⟩
  · exact acyclic input (Finset.mem_filter.mp itself).2

/-! ## Chains -/

/-- Fragments that are consumed one by the next, the last of them by a fragment to which the chain
leads. -/
inductive Leads (arena : Arena) : List Fragment → Fragment → Prop where
  /-- The chain starts with the fragment itself. -/
  | start (fragment : Fragment) : Leads arena [] fragment
  /-- The chain goes on from an input to a fragment that consumes it. -/
  | feed {before : List Fragment} {input fragment : Fragment} (chain : Leads arena before input)
      (found : arena.fragment? input.id = some input) (consumed : input.id ∈ fragment.inputs) :
      Leads arena (before ++ [input]) fragment

/-- How long the fragments before a fragment run, along the chains that lead to it. -/
def delays (arena : Arena) (fragment : Fragment) : Set Nat :=
  {delay | ∃ before, arena.Leads before fragment ∧ delay = (before.map Fragment.ticks).sum}

/-- A fragment without inputs has no delay. -/
theorem eq_zero_of_mem_delays (leaf : fragment.inputs.isEmpty = true) {delay : Nat}
    (member : delay ∈ arena.delays fragment) : delay = 0 := by
  obtain ⟨before, chain, rfl⟩ := member
  cases chain with
  | start => rfl
  | feed _ _ consumed => exact absurd consumed (SortedSet.isEmpty_iff.mp leaf _)

/-- **The greatest delay of a fragment is the latest finish among its inputs**, when they start at
their greatest delays. -/
theorem isGreatest_delays (linked : arena.Linked) (found : arena.fragment? id = some fragment)
    {finish : FragmentId → Nat}
    (ready : ∀ input, arena.fragment? input.id = some input → input.id ∈ fragment.inputs →
      ∃ start, IsGreatest (arena.delays input) start ∧ finish input.id = start + input.ticks) :
    IsGreatest (arena.delays fragment) (latest (fragment.inputs.toList.map finish)) := by
  constructor
  · by_cases leaf : fragment.inputs.toList.map finish = []
    · rw [leaf]
      exact ⟨[], .start fragment, rfl⟩
    · obtain ⟨other, member, last⟩ := List.mem_map.mp (latest_mem leaf)
      have consumed := SortedSet.mem_toList.mp member
      obtain ⟨input, inputFound⟩ := linked.exists_input ⟨fragment, found, consumed⟩
      obtain rfl := linked.numbered _ _ inputFound
      obtain ⟨start, greatest, finish_eq⟩ := ready input inputFound consumed
      obtain ⟨before, chain, rfl⟩ := greatest.1
      refine ⟨before ++ [input], chain.feed inputFound consumed, ?_⟩
      rw [← last, finish_eq]
      simp
  · rintro delay ⟨before, chain, rfl⟩
    cases chain with
    | start => exact Nat.zero_le _
    | @feed before input _ chain inputFound consumed =>
      obtain ⟨start, greatest, finish_eq⟩ := ready input inputFound consumed
      calc ((before ++ [input]).map Fragment.ticks).sum
        _ = (before.map Fragment.ticks).sum + input.ticks := by simp
        _ ≤ start + input.ticks := Nat.add_le_add_right (greatest.2 ⟨before, chain, rfl⟩) _
        _ = finish input.id := finish_eq.symm
        _ ≤ latest (fragment.inputs.toList.map finish) :=
          latest_le_iff.mp (Nat.le_refl _) _
            (List.mem_map_of_mem (SortedSet.mem_toList.mpr consumed))

/-! ## How long a chain takes -/

/-- The fragments of a chain are there and feed the one to which the chain leads. -/
theorem Leads.feeds {before : List Fragment} (chain : arena.Leads before fragment)
    (found : arena.fragment? fragment.id = some fragment) :
    ∀ other ∈ before, arena.fragment? other.id = some other ∧
      TransGen arena.Feeds other.id fragment.id := by
  induction chain with
  | start => exact fun _ member => absurd member List.not_mem_nil
  | @feed before input fragment _ inputFound consumed ih =>
    have link : arena.Feeds input.id fragment.id := ⟨fragment, found, consumed⟩
    intro other member
    rcases List.mem_append.mp member with earlier | last
    · exact ⟨(ih inputFound other earlier).1, (ih inputFound other earlier).2.tail link⟩
    · rw [List.mem_singleton.mp last]
      exact ⟨inputFound, .single link⟩

/-- A chain comes to no fragment twice. -/
theorem Acyclic.nodup_chain (acyclic : arena.Acyclic) {before : List Fragment}
    (chain : arena.Leads before fragment) (found : arena.fragment? fragment.id = some fragment) :
    (before ++ [fragment]).Nodup := by
  induction chain with
  | start => exact List.nodup_singleton _
  | @feed before input fragment chain inputFound consumed ih =>
    refine List.nodup_append.mpr ⟨ih inputFound, List.nodup_singleton _, ?_⟩
    rintro other member _ last rfl
    rw [List.mem_singleton.mp last] at member
    exact acyclic _ ((chain.feed inputFound consumed).feeds found _ member).2

/-- **No fragment finishes later along a chain than if all fragments ran one after the other**,
each of them and the root at the highest cost. -/
theorem Acyclic.delay_le (acyclic : arena.Acyclic) {before : List Fragment}
    (chain : arena.Leads before fragment) (found : arena.fragment? fragment.id = some fragment) :
    (before.map Fragment.ticks).sum + fragment.ticks ≤
      (arena.fragments.length + 1) * greatestWord := by
  have present : ∀ other ∈ before ++ [fragment], other ∈ arena.slots.reduceOption := by
    intro other member
    have there : arena.fragment? other.id = some other := by
      rcases List.mem_append.mp member with earlier | last
      · exact (chain.feeds found other earlier).1
      · rwa [List.mem_singleton.mp last]
    rw [fragment?, Option.join_eq_some_iff] at there
    exact List.reduceOption_mem_iff.mpr (List.mem_of_getElem? there)
  have slots_le : arena.slots.reduceOption.length ≤ arena.fragments.length + 1 := by
    rw [fragments]
    cases arena.slots with
    | nil => exact Nat.zero_le _
    | cons root rest => cases root <;> simp
  calc (before.map Fragment.ticks).sum + fragment.ticks
    _ = ((before ++ [fragment]).map Fragment.ticks).sum := by simp
    _ ≤ ((before ++ [fragment]).map Fragment.ticks).length • greatestWord := by
      refine List.sum_le_card_nsmul _ _ fun ticks member => ?_
      obtain ⟨other, _, rfl⟩ := List.mem_map.mp member
      exact other.ticks_le
    _ = (before ++ [fragment]).length * greatestWord := by
      rw [List.length_map, nsmul_eq_mul, Nat.cast_id]
    _ ≤ (arena.fragments.length + 1) * greatestWord :=
      Nat.mul_le_mul_right _ (Nat.le_trans
        ((acyclic.nodup_chain chain found).subperm present).length_le slots_le)

end ValueEngine.Arena
