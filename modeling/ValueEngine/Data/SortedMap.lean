/-!
# Finite maps with ascending keys

A finite map is kept as the list of its entries, with strictly ascending keys.
Each operation is described by what it does to lookup (`get?_insert`,
`get?_erase`), and a map is determined by its lookups (`SortedMap.ext_get?`).

Inserting a key that is already there replaces its value, so when a map is read
from a list of pairs the last pair with a key decides.
-/

set_option autoImplicit false

namespace ValueEngine

universe u v

variable {κ : Type u} {ν : Type v}

/-- Put an entry into a list with ascending keys, replacing the value of a key
that is already there. -/
def insertEntry [Ord κ] (key : κ) (value : ν) : List (κ × ν) → List (κ × ν)
  | [] => [(key, value)]
  | (first, old) :: rest =>
    match compare key first with
    | .lt => (key, value) :: (first, old) :: rest
    | .eq => (key, value) :: rest
    | .gt => (first, old) :: insertEntry key value rest

/-- The value of the first entry with a key. -/
def findEntry [DecidableEq κ] (key : κ) : List (κ × ν) → Option ν
  | [] => none
  | (first, value) :: rest => if first = key then some value else findEntry key rest

theorem mem_insertEntry [Ord κ] {key : κ} {value : ν} {list : List (κ × ν)} {entry : κ × ν}
    (member : entry ∈ insertEntry key value list) : entry = (key, value) ∨ entry ∈ list := by
  induction list with
  | nil => simpa [insertEntry] using member
  | cons first rest ih =>
    unfold insertEntry at member
    split at member
    · simpa using member
    · rcases List.mem_cons.1 member with equal | later
      · exact Or.inl equal
      · exact Or.inr (List.mem_cons_of_mem _ later)
    · rcases List.mem_cons.1 member with equal | later
      · exact Or.inr (equal ▸ List.mem_cons_self)
      · rcases ih later with equal | old
        · exact Or.inl equal
        · exact Or.inr (List.mem_cons_of_mem _ old)

theorem pairwise_insertEntry [Ord κ] [Std.TransOrd κ] [Std.LawfulEqOrd κ] {key : κ} {value : ν}
    {list : List (κ × ν)}
    (ascending : list.Pairwise (fun before after => compare before.1 after.1 = .lt)) :
    (insertEntry key value list).Pairwise
      (fun before after => compare before.1 after.1 = .lt) := by
  induction list with
  | nil => simp [insertEntry]
  | cons first rest ih =>
    have headBelow := (List.pairwise_cons.1 ascending).1
    have restAscending := (List.pairwise_cons.1 ascending).2
    unfold insertEntry
    split
    · rename_i below
      refine List.pairwise_cons.2 ⟨fun other member => ?_, ascending⟩
      rcases List.mem_cons.1 member with equal | later
      · subst equal
        exact below
      · exact Std.TransCmp.lt_trans below (headBelow other later)
    · rename_i same
      have equal := Std.LawfulEqOrd.eq_of_compare same
      subst equal
      exact List.pairwise_cons.2 ⟨headBelow, restAscending⟩
    · rename_i above
      refine List.pairwise_cons.2 ⟨fun other member => ?_, ih restAscending⟩
      rcases mem_insertEntry member with equal | later
      · subst equal
        exact Std.OrientedCmp.lt_of_gt above
      · exact headBelow other later

theorem findEntry_insertEntry [Ord κ] [Std.LawfulEqOrd κ] [DecidableEq κ]
    (key other : κ) (value : ν) (list : List (κ × ν)) :
    findEntry other (insertEntry key value list) =
      if key = other then some value else findEntry other list := by
  induction list with
  | nil => simp [insertEntry, findEntry]
  | cons first rest ih =>
    unfold insertEntry
    split
    · simp [findEntry]
    · rename_i same
      have equal := Std.LawfulEqOrd.eq_of_compare same
      grind [findEntry]
    · rename_i above
      have different : key ≠ first.1 := fun equal => by
        simp [equal, Std.ReflOrd.compare_self] at above
      grind [findEntry]

theorem findEntry_eq_some_iff [Ord κ] [Std.TransOrd κ] [DecidableEq κ]
    {key : κ} {value : ν} {list : List (κ × ν)}
    (ascending : list.Pairwise (fun before after => compare before.1 after.1 = .lt)) :
    findEntry key list = some value ↔ (key, value) ∈ list := by
  induction list with
  | nil => simp [findEntry]
  | cons first rest ih =>
    have headBelow := (List.pairwise_cons.1 ascending).1
    have restAscending := (List.pairwise_cons.1 ascending).2
    by_cases same : first.1 = key
    · have absent : (key, value) ∉ rest := fun member => by
        have below := headBelow _ member
        simp [same, Std.ReflOrd.compare_self] at below
      grind [findEntry]
    · grind [findEntry]

/-- A finite map, listed by strictly ascending key. -/
structure SortedMap (κ : Type u) (ν : Type v) [Ord κ] where
  /-- The entries from the smallest key to the greatest. -/
  toList : List (κ × ν)
  /-- Every key is below all later ones. -/
  ascending : toList.Pairwise (fun before after => compare before.1 after.1 = .lt) := by
    exact List.Pairwise.nil
deriving DecidableEq

namespace SortedMap

variable [Ord κ]

/-- The map without entries. -/
def empty : SortedMap κ ν := ⟨[], List.Pairwise.nil⟩

instance : EmptyCollection (SortedMap κ ν) := ⟨empty⟩

instance : Inhabited (SortedMap κ ν) := ⟨empty⟩

/-- Whether there is no entry. -/
def isEmpty (map : SortedMap κ ν) : Bool := map.toList.isEmpty

/-- The number of entries. -/
def size (map : SortedMap κ ν) : Nat := map.toList.length

/-- The keys in ascending order. -/
def keys (map : SortedMap κ ν) : List κ := map.toList.map Prod.fst

/-- The values in the order of their keys. -/
def values (map : SortedMap κ ν) : List ν := map.toList.map Prod.snd

/-- The value of a key. -/
def get? [DecidableEq κ] (map : SortedMap κ ν) (key : κ) : Option ν :=
  findEntry key map.toList

/-- Whether a key has a value. -/
def contains [DecidableEq κ] (map : SortedMap κ ν) (key : κ) : Bool :=
  (map.get? key).isSome

/-- Keep the entries that pass a test. -/
def filter (map : SortedMap κ ν) (keep : κ → ν → Bool) : SortedMap κ ν :=
  ⟨map.toList.filter (fun entry => keep entry.1 entry.2), map.ascending.filter _⟩

/-- Remove a key; nothing changes when it is not there. -/
def erase [DecidableEq κ] (map : SortedMap κ ν) (key : κ) : SortedMap κ ν :=
  map.filter (fun other _ => decide (other ≠ key))

variable [Std.TransOrd κ] [Std.LawfulEqOrd κ]

/-- Give a key a value. -/
def insert (map : SortedMap κ ν) (key : κ) (value : ν) : SortedMap κ ν :=
  ⟨insertEntry key value map.toList, pairwise_insertEntry map.ascending⟩

/-- Give several keys their values, one after the other. -/
def insertAll (map : SortedMap κ ν) (entries : List (κ × ν)) : SortedMap κ ν :=
  entries.foldl (fun known entry => known.insert entry.1 entry.2) map

/-- The map of a list of pairs; of two pairs with one key the later decides. -/
def ofList (entries : List (κ × ν)) : SortedMap κ ν := empty.insertAll entries

/-- Change the value of a key that has one. -/
def modify [DecidableEq κ] (map : SortedMap κ ν) (key : κ) (change : ν → ν) : SortedMap κ ν :=
  match map.get? key with
  | none => map
  | some value => map.insert key (change value)

variable [DecidableEq κ]

omit [Std.TransOrd κ] [Std.LawfulEqOrd κ] in
@[simp] theorem get?_empty (key : κ) : (∅ : SortedMap κ ν).get? key = none := rfl

theorem get?_insert (map : SortedMap κ ν) (key other : κ) (value : ν) :
    (map.insert key value).get? other = if key = other then some value else map.get? other :=
  findEntry_insertEntry key other value map.toList

@[simp] theorem get?_insert_self (map : SortedMap κ ν) (key : κ) (value : ν) :
    (map.insert key value).get? key = some value := by
  simp [get?_insert]

theorem get?_modify (map : SortedMap κ ν) (key other : κ) (change : ν → ν) :
    (map.modify key change).get? other =
      if key = other then (map.get? other).map change else map.get? other := by
  unfold modify
  split
  · rename_i absent
    by_cases same : key = other
    · subst same
      simp [absent]
    · simp [same]
  · rename_i value known
    by_cases same : key = other
    · subst same
      simp [known]
    · simp [get?_insert, same]

theorem get?_insertAll_of_not_mem {map : SortedMap κ ν} {entries : List (κ × ν)} {key : κ}
    (absent : key ∉ entries.map Prod.fst) : (map.insertAll entries).get? key = map.get? key := by
  induction entries generalizing map with
  | nil => rfl
  | cons entry rest ih =>
    rw [List.map_cons, List.mem_cons, not_or] at absent
    exact (ih absent.2).trans ((get?_insert _ _ _ _).trans (if_neg (Ne.symm absent.1)))

/-- A key that is given a value has one. -/
theorem exists_get?_insertAll {map : SortedMap κ ν} {entries : List (κ × ν)} {key : κ}
    (given : key ∈ entries.map Prod.fst) :
    ∃ value, (map.insertAll entries).get? key = some value := by
  induction entries generalizing map with
  | nil => cases given
  | cons entry rest ih =>
    by_cases later : key ∈ rest.map Prod.fst
    · exact ih later
    · have same : entry.1 = key := ((List.mem_cons.1 given).resolve_right later).symm
      refine ⟨entry.2, (get?_insertAll_of_not_mem later).trans ?_⟩
      rw [get?_insert, if_pos same]

theorem exists_get?_insertAll_iff {map : SortedMap κ ν} {entries : List (κ × ν)} {key : κ} :
    (∃ value, (map.insertAll entries).get? key = some value) ↔
      key ∈ entries.map Prod.fst ∨ ∃ value, map.get? key = some value := by
  by_cases given : key ∈ entries.map Prod.fst
  · exact iff_of_true (exists_get?_insertAll given) (.inl given)
  · rw [get?_insertAll_of_not_mem given, or_iff_right given]

/-- Of entries with different keys, each decides. -/
theorem get?_insertAll_of_mem {map : SortedMap κ ν} {entries : List (κ × ν)} {entry : κ × ν}
    (nodup : (entries.map Prod.fst).Nodup) (member : entry ∈ entries) :
    (map.insertAll entries).get? entry.1 = some entry.2 := by
  induction entries generalizing map with
  | nil => cases member
  | cons first rest ih =>
    rw [List.map_cons, List.nodup_cons] at nodup
    rcases List.mem_cons.1 member with rfl | later
    · exact (get?_insertAll_of_not_mem nodup.1).trans (get?_insert_self _ _ _)
    · exact ih nodup.2 later

/-- A value that is found was given or was there before. -/
theorem mem_of_get?_insertAll {map : SortedMap κ ν} {entries : List (κ × ν)} {key : κ} {value : ν}
    (found : (map.insertAll entries).get? key = some value) :
    (key, value) ∈ entries ∨ map.get? key = some value := by
  induction entries generalizing map with
  | nil => exact Or.inr found
  | cons entry rest ih =>
    rcases ih found with given | earlier
    · exact Or.inl (List.mem_cons_of_mem _ given)
    · rw [get?_insert] at earlier
      split at earlier
      · rename_i same
        cases earlier
        exact Or.inl (same ▸ List.mem_cons_self)
      · exact Or.inr earlier

omit [Std.LawfulEqOrd κ] in
theorem get?_eq_some_iff {map : SortedMap κ ν} {key : κ} {value : ν} :
    map.get? key = some value ↔ (key, value) ∈ map.toList :=
  findEntry_eq_some_iff map.ascending

omit [Std.LawfulEqOrd κ] [DecidableEq κ] in
theorem nodup_keys (map : SortedMap κ ν) : map.keys.Nodup := by
  refine List.pairwise_map.2 (map.ascending.imp fun below equal => ?_)
  simp [equal, Std.ReflOrd.compare_self] at below

omit [Std.LawfulEqOrd κ] in
theorem mem_keys_iff {map : SortedMap κ ν} {key : κ} :
    key ∈ map.keys ↔ ∃ value, map.get? key = some value := by
  simp only [keys, List.mem_map, get?_eq_some_iff, Prod.exists, exists_and_right, exists_eq_right]

omit [Std.LawfulEqOrd κ] in
theorem get?_filter (map : SortedMap κ ν) (keep : κ → ν → Bool) (key : κ) :
    (map.filter keep).get? key = (map.get? key).filter (keep key) := by
  apply Option.ext
  intro value
  rw [Option.filter_eq_some_iff, get?_eq_some_iff, get?_eq_some_iff]
  exact List.mem_filter

omit [Std.LawfulEqOrd κ] in
theorem get?_erase (map : SortedMap κ ν) (key other : κ) :
    (map.erase key).get? other = if key = other then none else map.get? other := by
  rw [erase, get?_filter]
  by_cases same : key = other
  · subst same
    cases map.get? key <;> simp
  · have different : other ≠ key := fun equal => same equal.symm
    cases map.get? other <;> simp [same, different]

omit [Std.LawfulEqOrd κ] in
/-- Two maps with the same lookups are equal. -/
theorem ext_get? {first second : SortedMap κ ν}
    (same : ∀ key, first.get? key = second.get? key) : first = second := by
  have lists : first.toList = second.toList := by
    refine List.Perm.eq_of_pairwise ?_ first.ascending second.ascending ?_
    · intro before after _ _ below above
      have := Std.OrientedCmp.gt_of_lt below
      simp_all
    · refine (List.perm_ext_iff_of_nodup ?_ ?_).2 fun entry => ?_
      · exact first.ascending.imp (fun below equal => by
          subst equal; simp [Std.ReflOrd.compare_self] at below)
      · exact second.ascending.imp (fun below equal => by
          subst equal; simp [Std.ReflOrd.compare_self] at below)
      · have agree := same entry.1
        change (entry.1, entry.2) ∈ first.toList ↔ (entry.1, entry.2) ∈ second.toList
        rw [← get?_eq_some_iff, ← get?_eq_some_iff, agree]
  cases first
  cases second
  cases lists
  rfl

/-- Giving a key the value that it has changes nothing. -/
theorem insert_eq_self {map : SortedMap κ ν} {key : κ} {value : ν}
    (known : map.get? key = some value) : map.insert key value = map := by
  refine ext_get? fun other => ?_
  rw [get?_insert]
  split
  case isTrue same => rw [← same, known]
  case isFalse => rfl

end SortedMap

end ValueEngine
