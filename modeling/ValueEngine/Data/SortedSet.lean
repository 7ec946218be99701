/-!
# Finite sets in ascending order

A finite set of elements of an ordered type is kept as the list of its elements
in strictly ascending order. The list is determined by the membership relation
(`SortedSet.ext_mem`), so equality of sets is equality of the lists and can be
decided element by element.

The order of the elements is part of what the engine shows: links between
fragments, waiting subscriptions and the declared inputs of a node are all
visited in ascending order.
-/

set_option autoImplicit false

namespace ValueEngine

universe u

variable {α : Type u}

/-- Put an element into a list in ascending order; an element that is already
there is not repeated. -/
def insertAscending [Ord α] (element : α) : List α → List α
  | [] => [element]
  | first :: rest =>
    match compare element first with
    | .lt => element :: first :: rest
    | .eq => element :: rest
    | .gt => first :: insertAscending element rest

theorem mem_insertAscending [Ord α] [Std.LawfulEqOrd α] {element other : α} {list : List α} :
    other ∈ insertAscending element list ↔ other = element ∨ other ∈ list := by
  induction list with
  | nil => simp [insertAscending]
  | cons first rest ih =>
    unfold insertAscending
    split
    · simp
    · rename_i same
      have equal := Std.LawfulEqOrd.eq_of_compare same
      subst equal
      simp
    · simp only [List.mem_cons, ih]
      grind

theorem pairwise_insertAscending [Ord α] [Std.TransOrd α] [Std.LawfulEqOrd α] {element : α}
    {list : List α} (ascending : list.Pairwise (fun before after => compare before after = .lt)) :
    (insertAscending element list).Pairwise
      (fun before after => compare before after = .lt) := by
  induction list with
  | nil => simp [insertAscending]
  | cons first rest ih =>
    have headBelow := (List.pairwise_cons.1 ascending).1
    have restAscending := (List.pairwise_cons.1 ascending).2
    unfold insertAscending
    split
    · rename_i below
      refine List.pairwise_cons.2 ⟨fun other member => ?_, ascending⟩
      rcases List.mem_cons.1 member with equal | later
      · exact equal ▸ below
      · exact Std.TransCmp.lt_trans below (headBelow other later)
    · rename_i same
      have equal := Std.LawfulEqOrd.eq_of_compare same
      subst equal
      exact ascending
    · rename_i above
      refine List.pairwise_cons.2 ⟨fun other member => ?_, ih restAscending⟩
      rcases mem_insertAscending.1 member with equal | later
      · exact equal ▸ Std.OrientedCmp.lt_of_gt above
      · exact headBelow other later

/-- A finite set, listed in strictly ascending order. -/
structure SortedSet (α : Type u) [Ord α] where
  /-- The elements from the smallest to the greatest. -/
  toList : List α
  /-- Every element is below all later ones. -/
  ascending : toList.Pairwise (fun before after => compare before after = .lt) := by
    exact List.Pairwise.nil
deriving DecidableEq

namespace SortedSet

variable [Ord α]

/-- The set without elements. -/
def empty : SortedSet α := ⟨[], List.Pairwise.nil⟩

instance : EmptyCollection (SortedSet α) := ⟨empty⟩

instance : Inhabited (SortedSet α) := ⟨empty⟩

instance : Membership α (SortedSet α) := ⟨fun set element => element ∈ set.toList⟩

instance [DecidableEq α] (element : α) (set : SortedSet α) : Decidable (element ∈ set) :=
  inferInstanceAs (Decidable (element ∈ set.toList))

/-- Whether there is no element. -/
def isEmpty (set : SortedSet α) : Bool := set.toList.isEmpty

/-- The number of elements. -/
def size (set : SortedSet α) : Nat := set.toList.length

/-- Keep the elements that pass a test. -/
def filter (set : SortedSet α) (keep : α → Bool) : SortedSet α :=
  ⟨set.toList.filter keep, set.ascending.filter _⟩

/-- Remove an element; nothing changes when it is not there. -/
def erase [DecidableEq α] (set : SortedSet α) (element : α) : SortedSet α :=
  set.filter fun other => decide (other ≠ element)

variable [Std.TransOrd α] [Std.LawfulEqOrd α]

/-- Add an element. -/
def insert (set : SortedSet α) (element : α) : SortedSet α :=
  ⟨insertAscending element set.toList, pairwise_insertAscending set.ascending⟩

/-- The set of the elements of a list. -/
def ofList (elements : List α) : SortedSet α := elements.foldl insert ∅

/-- Add every element of a second set. -/
def union (set other : SortedSet α) : SortedSet α := other.toList.foldl insert set

omit [Std.TransOrd α] [Std.LawfulEqOrd α] in
theorem mem_toList {element : α} {set : SortedSet α} :
    element ∈ set.toList ↔ element ∈ set := Iff.rfl

omit [Std.TransOrd α] [Std.LawfulEqOrd α] in
@[simp] theorem not_mem_empty (element : α) : ¬ element ∈ (∅ : SortedSet α) :=
  List.not_mem_nil

@[simp] theorem mem_insert {element other : α} {set : SortedSet α} :
    other ∈ set.insert element ↔ other = element ∨ other ∈ set :=
  mem_insertAscending

omit [Std.TransOrd α] [Std.LawfulEqOrd α] in
@[simp] theorem mem_filter {element : α} {set : SortedSet α} {keep : α → Bool} :
    element ∈ set.filter keep ↔ element ∈ set ∧ keep element = true :=
  List.mem_filter

omit [Std.TransOrd α] [Std.LawfulEqOrd α] in
@[simp] theorem mem_erase [DecidableEq α] {element other : α} {set : SortedSet α} :
    other ∈ set.erase element ↔ other ∈ set ∧ other ≠ element := by
  simp [erase]

theorem mem_foldl_insert {element : α} {elements : List α} {set : SortedSet α} :
    element ∈ elements.foldl insert set ↔ element ∈ elements ∨ element ∈ set := by
  induction elements generalizing set with
  | nil => simp
  | cons first rest ih => simp only [List.foldl_cons, ih, mem_insert, List.mem_cons]; grind

@[simp] theorem mem_ofList {element : α} {elements : List α} :
    element ∈ ofList elements ↔ element ∈ elements := by
  simp [ofList, mem_foldl_insert]

@[simp] theorem mem_union {element : α} {set other : SortedSet α} :
    element ∈ set.union other ↔ element ∈ other ∨ element ∈ set :=
  mem_foldl_insert

omit [Std.LawfulEqOrd α] in
/-- Two sets with the same elements are equal. -/
theorem ext_mem {first second : SortedSet α}
    (same : ∀ element, element ∈ first ↔ element ∈ second) : first = second := by
  have lists : first.toList = second.toList := by
    refine List.Perm.eq_of_pairwise ?_ first.ascending second.ascending ?_
    · intro before after _ _ below above
      have := Std.OrientedCmp.gt_of_lt below
      simp_all
    · refine (List.perm_ext_iff_of_nodup ?_ ?_).2 same
      · exact first.ascending.imp (fun below equal => by subst equal; simp at below)
      · exact second.ascending.imp (fun below equal => by subst equal; simp at below)
  cases first
  cases second
  cases lists
  rfl

omit [Std.LawfulEqOrd α] in
theorem eq_empty_iff {set : SortedSet α} : set = ∅ ↔ ∀ element, ¬ element ∈ set := by
  constructor
  · rintro rfl
    exact not_mem_empty
  · exact fun absent => ext_mem fun element => iff_of_false (absent element) (not_mem_empty element)

omit [Std.TransOrd α] [Std.LawfulEqOrd α] in
theorem isEmpty_iff {set : SortedSet α} : set.isEmpty = true ↔ ∀ element, ¬ element ∈ set :=
  List.isEmpty_iff.trans List.eq_nil_iff_forall_not_mem

omit [Std.TransOrd α] [Std.LawfulEqOrd α] in
theorem size_eq_zero_iff {set : SortedSet α} : set.size = 0 ↔ ∀ element, ¬ element ∈ set :=
  List.length_eq_zero_iff.trans List.eq_nil_iff_forall_not_mem

omit [Std.LawfulEqOrd α] in
theorem nodup (set : SortedSet α) : set.toList.Nodup :=
  set.ascending.imp fun below equal => by subst equal; simp at below

omit [Std.LawfulEqOrd α] in
/-- A set with a given element has more than one exactly if it has another one. -/
theorem one_lt_size_iff {element : α} {set : SortedSet α} (member : element ∈ set) :
    1 < set.size ↔ ∃ other ∈ set, other ≠ element := by
  rcases set with ⟨list, ascending⟩
  have nodup : list.Nodup := nodup ⟨list, ascending⟩
  match list with
  | [only] =>
    refine iff_of_false (Nat.lt_irrefl 1) ?_
    rintro ⟨other, otherMember, differs⟩
    exact differs ((List.mem_singleton.1 otherMember).trans (List.mem_singleton.1 member).symm)
  | first :: second :: rest =>
    refine iff_of_true (Nat.succ_lt_succ (Nat.succ_pos _)) ?_
    by_cases same : first = element
    · refine ⟨second, List.mem_cons_of_mem _ List.mem_cons_self, fun equal => ?_⟩
      exact (List.nodup_cons.1 nodup).1 (same.trans equal.symm ▸ List.mem_cons_self)
    · exact ⟨first, List.mem_cons_self, same⟩

end SortedSet

end ValueEngine
