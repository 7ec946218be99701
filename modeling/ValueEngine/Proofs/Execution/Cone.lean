import ValueEngine.Proofs.Execution.Books

/-!
# What a failure reaches

A failure marks what is met on a walk along the dependents that does not go through
marked fragments. The walk would end at a fragment that is not part of the execution, but
dependents are fragments of the plan, so with right books there is no such end
(`Run.Books.fault_walk`). As long as everything that depends on a marked fragment is marked
too, nothing healthy lies behind a marked fragment, so that the walk meets every
healthy fragment that depends on the one that failed, and no other
(`Run.mem_cone_iff`).
-/

set_option autoImplicit false

namespace ValueEngine.Run

universe u

open Relation

variable {α : Type u} {layout : Layout} {known : FragmentId → Bool}
  {healthy stack : List FragmentId} {id : FragmentId}

/-! ## The walk -/

/-- A walk does not end early when it starts at fragments that are known and all their
dependents are. -/
theorem fault_cone (stacked : ∀ top ∈ stack, known top = true)
    (closed : ∀ first second, known first = true → layout.Feeds first second →
      known second = true) : (cone layout known healthy stack).fault = none := by
  fun_induction cone layout known healthy stack with
  | case1 => rfl
  | case2 healthy top below unknown =>
    cases unknown.symm.trans (stacked top List.mem_cons_self)
  | case3 healthy top below _ member ih =>
    refine ih fun next waiting => ?_
    rcases List.mem_append.1 waiting with dependent | below
    · exact closed top next (stacked top List.mem_cons_self) (List.mem_reverse.1 dependent)
    · exact stacked next (List.mem_cons_of_mem _ below)
  | case4 healthy top below _ absent ih =>
    exact ih fun next waiting => stacked next (List.mem_cons_of_mem _ waiting)

/-- A walk meets healthy fragments. -/
theorem mem_healthy_of_mem_cone (met : id ∈ (cone layout known healthy stack).met) :
    id ∈ healthy := by
  fun_induction cone layout known healthy stack with
  | case1 => cases met
  | case2 => cases met
  | case3 healthy top below _ member ih =>
    rcases List.mem_cons.1 met with rfl | later
    · exact member
    · exact List.mem_of_mem_erase (ih later)
  | case4 healthy top below _ absent ih => exact ih met

/-- It meets each of them once. -/
theorem nodup_cone (nodup : healthy.Nodup) : (cone layout known healthy stack).met.Nodup := by
  fun_induction cone layout known healthy stack with
  | case1 => exact List.nodup_nil
  | case2 => exact List.nodup_nil
  | case3 healthy top below _ member ih =>
    refine List.nodup_cons.2 ⟨fun again => ?_, ih (nodup.erase top)⟩
    exact nodup.not_mem_erase (mem_healthy_of_mem_cone again)
  | case4 healthy top below _ absent ih => exact ih nodup

/-- What it meets depends on something on the stack. -/
theorem exists_reaches_of_mem_cone (met : id ∈ (cone layout known healthy stack).met) :
    ∃ start ∈ stack, ReflTransGen layout.Feeds start id := by
  fun_induction cone layout known healthy stack with
  | case1 => cases met
  | case2 => cases met
  | case3 healthy top below _ member ih =>
    rcases List.mem_cons.1 met with rfl | later
    · exact ⟨id, List.mem_cons_self, .refl⟩
    obtain ⟨start, onStack, path⟩ := ih later
    rcases List.mem_append.1 onStack with dependent | waiting
    · exact ⟨top, List.mem_cons_self, .head (List.mem_reverse.1 dependent) path⟩
    · exact ⟨start, List.mem_cons_of_mem _ waiting, path⟩
  | case4 healthy top below _ absent ih =>
    obtain ⟨start, onStack, path⟩ := ih met
    exact ⟨start, List.mem_cons_of_mem _ onStack, path⟩

/-- Unless it ends early, it meets what is healthy on the stack. -/
theorem mem_cone_of_mem_stack (faultless : (cone layout known healthy stack).fault = none)
    (onStack : id ∈ stack) (member : id ∈ healthy) :
    id ∈ (cone layout known healthy stack).met := by
  fun_induction cone layout known healthy stack with
  | case1 => cases onStack
  | case2 => cases faultless
  | case3 healthy top below _ topMember ih =>
    by_cases same : id = top
    · exact same ▸ List.mem_cons_self
    · have waiting := (List.mem_cons.1 onStack).resolve_left same
      refine List.mem_cons_of_mem _ (ih faultless (List.mem_append_right _ waiting) ?_)
      exact (List.mem_erase_of_ne same).2 member
  | case4 healthy top below _ absent ih =>
    refine ih faultless ((List.mem_cons.1 onStack).resolve_left fun same => ?_) member
    exact absent (same ▸ member)

/-- It goes on from whatever it meets. While it goes, the dependents of what has been
met are waiting on the stack, so the condition speaks of everything that is not
healthy any more. -/
theorem mem_cone_of_feeds (faultless : (cone layout known healthy stack).fault = none)
    (nodup : healthy.Nodup)
    (waiting : ∀ first, first ∉ healthy → ∀ second, layout.Feeds first second →
      second ∈ healthy → second ∈ stack)
    {first second : FragmentId}
    (gone : first ∉ healthy ∨ first ∈ (cone layout known healthy stack).met)
    (feeds : layout.Feeds first second) (member : second ∈ healthy) :
    second ∈ (cone layout known healthy stack).met := by
  fun_induction cone layout known healthy stack with
  | case1 healthy =>
    refine absurd (waiting first (gone.resolve_right ?_) second feeds member) ?_
    · exact List.not_mem_nil
    · exact List.not_mem_nil
  | case2 => cases faultless
  | case3 healthy top below _ topMember ih =>
    by_cases same : second = top
    · exact same ▸ List.mem_cons_self
    refine List.mem_cons_of_mem _ (ih faultless (nodup.erase top) ?_ ?_
      ((List.mem_erase_of_ne same).2 member))
    · intro other spent next feeds nextMember
      by_cases isTop : other = top
      · exact List.mem_append_left _ (List.mem_reverse.2 (isTop ▸ feeds))
      · have absent : other ∉ healthy := fun present =>
          spent ((List.mem_erase_of_ne isTop).2 present)
        have onStack := waiting other absent next feeds (List.mem_of_mem_erase nextMember)
        have differs : next ≠ top := fun equal => nodup.not_mem_erase (equal ▸ nextMember)
        exact List.mem_append_right _ ((List.mem_cons.1 onStack).resolve_left differs)
    · rcases gone with absent | met
      · exact Or.inl fun present => absent (List.mem_of_mem_erase present)
      · rcases List.mem_cons.1 met with rfl | later
        · exact Or.inl nodup.not_mem_erase
        · exact Or.inr later
  | case4 healthy top below _ absent ih =>
    refine ih faultless nodup (fun other spent next feeds nextMember => ?_) gone member
    have onStack := waiting other spent next feeds nextMember
    exact (List.mem_cons.1 onStack).resolve_left fun equal => absent (equal ▸ nextMember)

/-- **A walk that does not end early meets every healthy fragment that depends on its start,
and no other**, if nothing healthy depends on a fragment that is not. -/
theorem mem_cone_iff {start : FragmentId}
    (faultless : (cone layout known healthy [start]).fault = none) (nodup : healthy.Nodup)
    (closed : ∀ first, first ∉ healthy → ∀ second, layout.Feeds first second →
      second ∉ healthy) :
    id ∈ (cone layout known healthy [start]).met ↔
      id ∈ healthy ∧ ReflTransGen layout.Feeds start id := by
  constructor
  · intro met
    obtain ⟨_, onStack, path⟩ := exists_reaches_of_mem_cone met
    exact ⟨mem_healthy_of_mem_cone met, List.mem_singleton.1 onStack ▸ path⟩
  · rintro ⟨member, path⟩
    induction path with
    | refl => exact mem_cone_of_mem_stack faultless (List.mem_singleton.2 rfl) member
    | @tail middle last _ feeds ih =>
      have healthyBefore : middle ∈ healthy := by
        by_contra absent
        exact closed middle absent last feeds member
      refine mem_cone_of_feeds faultless nodup ?_ (Or.inr (ih healthyBefore)) feeds member
      intro first absent second feeds present
      exact absurd present (closed first absent second feeds)

/-! ## The fragments of a run -/

variable {run : Run α}

/-- What is healthy has an entry that is not marked. -/
theorem mem_healthy_iff :
    id ∈ run.healthy ↔
      ∃ progress, run.progress.get? id = some progress ∧ progress.failed = false := by
  simp only [healthy, SortedMap.mem_keys_iff, SortedMap.get?_filter, Option.filter_eq_some_iff,
    Bool.not_eq_true']

theorem nodup_healthy (run : Run α) : run.healthy.Nodup := SortedMap.nodup_keys _

/-- What has an entry and is not healthy is marked. -/
theorem failed_of_not_mem_healthy {progress : Progress}
    (found : run.progress.get? id = some progress) (marked : id ∉ run.healthy) : run.Failed id := by
  refine ⟨progress, found, ?_⟩
  by_contra unmarked
  exact marked (mem_healthy_iff.2 ⟨progress, found, by simpa using unmarked⟩)

theorem Failed.not_mem_healthy (failed : run.Failed id) : id ∉ run.healthy := by
  obtain ⟨progress, found, marked⟩ := failed
  intro member
  obtain ⟨other, same, unmarked⟩ := mem_healthy_iff.1 member
  rw [found, Option.some.injEq] at same
  rw [same, unmarked] at marked
  cases marked

/-! ## Known fragments -/

variable {graph : Graph} {due : List Task}

/-- With right books the fragments of the plan are known, and no other. -/
theorem Books.knows_iff (books : run.Books due) (sound : run.plan.layout.Sound graph) :
    run.knows id = true ↔ id ∈ run.plan.layout.all.map Fragment.id := by
  rw [knows, Bool.and_eq_true, Option.isSome_iff_exists, Option.isSome_iff_exists, List.mem_map]
  constructor
  · rintro ⟨_, fragment, found⟩
    exact ⟨fragment, Layout.mem_of_fragment? found⟩
  · rintro ⟨fragment, member, rfl⟩
    obtain ⟨progress, found, _⟩ := books.entries fragment member
    exact ⟨⟨progress, found⟩, fragment, sound.fragment?_eq member⟩

/-- **With right books a walk never ends early.** -/
theorem Books.fault_walk (books : run.Books due) (sound : run.plan.layout.Sound graph)
    (member : id ∈ run.plan.layout.all.map Fragment.id) : (run.walk id).fault = none := by
  refine fault_cone (fun top onStack => ?_) fun first second isKnown feeds => ?_
  · exact (books.knows_iff sound).2 (List.mem_singleton.1 onStack ▸ member)
  · obtain ⟨fragment, fragmentMember, rfl⟩ := List.mem_map.1 ((books.knows_iff sound).1 isKnown)
    exact (books.knows_iff sound).2
      (sound.dependents_mem fragment fragmentMember second ((sound.feeds_iff fragmentMember).1 feeds))

end ValueEngine.Run
