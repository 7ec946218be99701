import ValueEngine.Arena.Colouring
import ValueEngine.Proofs.Arena.Chains

/-!
# Settling start times with a stack

The traversal that settles the starts of fragments in slots is seen one turn at a time
(`Arena.Turn`): it begins with the next fragment, or looks at the top of its stack. A turn may put
the inputs for which a fragment waits on the stack in any order, so that the turns cover every
order in which fragments can be visited.

Whatever the turns have done so far, the starts that are known are greatest delays, and all that
is on the stack has to be settled (`Arena.Underway`). When the links are acyclic every turn lowers
a weight: it settles a fragment, or takes one that is settled from the stack, or leaves on top of
the stack a fragment that is lower in rank and not settled (`Arena.Underway.weight_lt`). So every
run of turns ends, it ends only when nothing is left to do, and then its starts do not depend on
what the turns were (`Arena.Underway.starts_eq`).

The traversal of `Arena.settle` is such a run. It never refuses a fragment that waits: such a
fragment stands below what it waits for, and nothing waits for itself (`Arena.Guarded`).
-/

set_option autoImplicit false

namespace ValueEngine.Arena

open Relation

/-! ## Turns -/

/-- How far a traversal has come. -/
structure Traversal where
  /-- The fragments with which it has still to begin. -/
  ahead : List FragmentId
  /-- The fragments that are being settled, the top first. -/
  stack : List FragmentId
  /-- The starts that are known. -/
  starts : List (Option Nat)

/-- A traversal that is to begin with some fragments, one after the other. -/
def outset (arena : Arena) (order : List FragmentId) : Traversal :=
  ⟨order, [], List.replicate arena.slots.length none⟩

/-- One turn of a traversal. -/
inductive Turn (arena : Arena) : Traversal → Traversal → Prop where
  /-- The stack is empty, and the traversal begins with the next fragment. -/
  | begin (id : FragmentId) (ahead : List FragmentId) (starts : List (Option Nat)) :
      Turn arena ⟨id :: ahead, [], starts⟩ ⟨ahead, [id], starts⟩
  /-- A fragment that has its start leaves the stack. -/
  | leave {top : FragmentId} {start : Nat} {ahead below : List FragmentId}
      {starts : List (Option Nat)} (known : starts[top]? = some (some start)) :
      Turn arena ⟨ahead, top :: below, starts⟩ ⟨ahead, below, starts⟩
  /-- A fragment waits for inputs, which are put on the stack in any order. -/
  | wait {top : FragmentId} {fragment : Fragment} {ahead below waiting above : List FragmentId}
      {starts : List (Option Nat)} (unknown : starts[top]? = some none)
      (found : arena.fragment? top = some fragment)
      (unsettled : pending starts fragment.inputs.toList = some waiting) (waits : waiting ≠ [])
      (arranged : above.Perm waiting) :
      Turn arena ⟨ahead, top :: below, starts⟩ ⟨ahead, above ++ top :: below, starts⟩
  /-- A fragment whose inputs have their starts gets its own. -/
  | settle {top : FragmentId} {fragment : Fragment} {start : Nat} {ahead below : List FragmentId}
      {starts : List (Option Nat)} (unknown : starts[top]? = some none)
      (found : arena.fragment? top = some fragment)
      (ready : pending starts fragment.inputs.toList = some [])
      (latest : arena.lastFinish starts fragment.inputs.toList = some start) :
      Turn arena ⟨ahead, top :: below, starts⟩ ⟨ahead, below, starts.set top (some start)⟩

variable {arena : Arena} {state later : Traversal} {fragment : Fragment}
  {id top input : FragmentId} {order inputs fresh stack below waiting : List FragmentId}
  {starts : List (Option Nat)}

/-! ## Lookups -/

/-- Some fragments without those that have their starts. -/
def unsettled (starts : List (Option Nat)) (inputs : List FragmentId) : List FragmentId :=
  inputs.filter fun id => (starts[id]?).join.isNone

theorem mem_unsettled (inside : ∀ id ∈ inputs, id < starts.length) :
    id ∈ unsettled starts inputs ↔ id ∈ inputs ∧ starts[id]? = some none := by
  rw [unsettled, List.mem_filter]
  refine and_congr_right fun member => ?_
  rw [List.getElem?_eq_getElem (inside id member)]
  simp

/-- The inputs without starts are found. -/
theorem pending_eq (inside : ∀ id ∈ inputs, id < starts.length) :
    pending starts inputs = some (unsettled starts inputs) := by
  have looked : inputs.mapM (fun id => do
      let start ← starts[id]?
      return (id, start)) = some (inputs.map fun id => (id, (starts[id]?).join)) := by
    refine mapM_eq_some_map fun id member => ?_
    rw [List.getElem?_eq_getElem (inside id member)]
    rfl
  rw [pending, looked]
  simp only [Option.bind_eq_bind, Option.bind_some, List.filter_map, Function.comp_def,
    List.map_map, List.map_id']
  rfl

/-- When a fragment has finished, by the starts that are known. -/
def finishOf (arena : Arena) (starts : List (Option Nat)) (id : FragmentId) : Nat :=
  (starts[id]?).join.getD 0 + ((arena.fragment? id).map Fragment.ticks).getD 0

/-- The latest finish among fragments that are there is found. -/
theorem lastFinish_eq (inside : ∀ id ∈ inputs, id < starts.length)
    (present : ∀ id ∈ inputs, ∃ fragment, arena.fragment? id = some fragment) :
    arena.lastFinish starts inputs = some (latest (inputs.map (arena.finishOf starts))) := by
  have looked : inputs.mapM (fun id => do
      let start ← starts[id]?
      let fragment ← arena.fragment? id
      return start.getD 0 + fragment.ticks) = some (inputs.map (arena.finishOf starts)) := by
    refine mapM_eq_some_map fun id member => ?_
    obtain ⟨fragment, found⟩ := present id member
    rw [finishOf, found, List.getElem?_eq_getElem (inside id member)]
    rfl
  rw [lastFinish, looked]
  rfl

/-! ## What holds of a traversal -/

/-- The traversal comes to a fragment: it begins with it, or with a fragment to which it leads. -/
def Reaches (arena : Arena) (order : List FragmentId) (id : FragmentId) : Prop :=
  ∃ last ∈ order, ReflTransGen arena.Feeds id last

/-- A fragment has its start. -/
def Traversal.Knows (state : Traversal) (id : FragmentId) : Prop :=
  ∃ start, state.starts[id]? = some (some start)

/-- How things stand after some turns of a traversal that began with some fragments. -/
structure Underway (arena : Arena) (order : List FragmentId) (state : Traversal) : Prop where
  length_eq : state.starts.length = arena.slots.length
  ahead_sub : state.ahead ⊆ order
  stacked : ∀ id ∈ state.stack, arena.Reaches order id
  /-- The starts that are known are greatest delays. -/
  known : ∀ id start, state.starts[id]? = some (some start) → arena.Reaches order id ∧
    ∀ fragment, arena.fragment? id = some fragment → IsGreatest (arena.delays fragment) start
  /-- What has its start consumes only what has its start. -/
  closed : ∀ input id, arena.Feeds input id → state.Knows id → state.Knows input
  /-- Nothing is forgotten. -/
  kept : ∀ id ∈ order, id ∈ state.ahead ∨ id ∈ state.stack ∨ state.Knows id

theorem Underway.start (arena : Arena) (order : List FragmentId) :
    arena.Underway order (arena.outset order) where
  length_eq := List.length_replicate
  ahead_sub := List.Subset.refl _
  stacked _ member := absurd member List.not_mem_nil
  known id start found := by simp [outset, List.getElem?_replicate] at found
  closed _ id _ knows := by simp [outset, Traversal.Knows, List.getElem?_replicate] at knows
  kept _ member := .inl member

/-- A fragment that has its start is not needed on the stack any more. -/
theorem Underway.leave {ahead : List FragmentId} {start : Nat}
    (underway : arena.Underway order ⟨ahead, top :: below, starts⟩)
    (known : starts[top]? = some (some start)) : arena.Underway order ⟨ahead, below, starts⟩ where
  length_eq := underway.length_eq
  ahead_sub := underway.ahead_sub
  stacked _ member := underway.stacked _ (List.mem_cons_of_mem _ member)
  known := underway.known
  closed := underway.closed
  kept id member := by
    rcases underway.kept id member with ahead | stacked | knows
    · exact .inl ahead
    · rcases List.mem_cons.mp stacked with rfl | stacked
      · exact .inr (.inr ⟨start, known⟩)
      · exact .inr (.inl stacked)
    · exact .inr (.inr knows)

/-- The traversal comes to what feeds the top of the stack. -/
theorem Underway.reaches_input {ahead : List FragmentId}
    (underway : arena.Underway order ⟨ahead, top :: below, starts⟩)
    (feeds : arena.Feeds input top) : arena.Reaches order input := by
  obtain ⟨last, begins, path⟩ := underway.stacked top List.mem_cons_self
  exact ⟨last, begins, path.head feeds⟩

section Linked

variable (linked : arena.Linked)
include linked

/-- There is a place for the start of every input. -/
theorem Linked.inputs_inside (found : arena.fragment? id = some fragment)
    (length_eq : starts.length = arena.slots.length) :
    ∀ input ∈ fragment.inputs.toList, input < starts.length := by
  intro input member
  obtain ⟨producer, producerFound⟩ :=
    linked.exists_input ⟨fragment, found, SortedSet.mem_toList.mp member⟩
  exact length_eq ▸ lt_length_of_fragment? producerFound

/-- Exactly the inputs without starts are waited for. -/
theorem Linked.mem_pending (found : arena.fragment? id = some fragment)
    (length_eq : starts.length = arena.slots.length)
    (unsettled : pending starts fragment.inputs.toList = some waiting) :
    input ∈ waiting ↔ arena.Feeds input id ∧ starts[input]? = some none := by
  have inside := linked.inputs_inside found length_eq
  rw [pending_eq inside] at unsettled
  obtain rfl := Option.some.inj unsettled
  rw [mem_unsettled inside, SortedSet.mem_toList]
  refine and_congr_left fun _ => ⟨fun consumed => ⟨fragment, found, consumed⟩, ?_⟩
  rintro ⟨consumer, consumerFound, consumed⟩
  rw [found] at consumerFound
  exact Option.some.inj consumerFound ▸ consumed

end Linked

section Present

variable (linked : arena.Linked)
  (present : ∀ id ∈ order, ∃ fragment, arena.fragment? id = some fragment)
include linked present

/-- Everything that the traversal comes to is there. -/
theorem Reaches.exists_fragment (reaches : arena.Reaches order id) :
    ∃ fragment, arena.fragment? id = some fragment := by
  obtain ⟨last, member, path⟩ := reaches
  rcases path.cases_head with rfl | ⟨next, feeds, _⟩
  · exact present id member
  · exact linked.exists_input feeds

/-- What the traversal comes to has a place for its start. -/
theorem Underway.knows_or_none (underway : arena.Underway order state)
    (reaches : arena.Reaches order id) : state.Knows id ∨ state.starts[id]? = some none := by
  obtain ⟨fragment, found⟩ := reaches.exists_fragment linked present
  have inside := lt_length_of_fragment? found
  rw [← underway.length_eq] at inside
  cases place : state.starts[id] with
  | none => exact .inr (by rw [List.getElem?_eq_getElem inside, place])
  | some start => exact .inl ⟨start, by rw [List.getElem?_eq_getElem inside, place]⟩

/-- The top of the stack has its start, or it is ready to get one, or it waits for inputs. -/
theorem Underway.top_cases {ahead : List FragmentId}
    (underway : arena.Underway order ⟨ahead, top :: below, starts⟩) :
    (∃ start, starts[top]? = some (some start)) ∨
      starts[top]? = some none ∧ ∃ fragment, arena.fragment? top = some fragment ∧
        ((pending starts fragment.inputs.toList = some [] ∧
            ∃ start, arena.lastFinish starts fragment.inputs.toList = some start) ∨
          ∃ waiting, pending starts fragment.inputs.toList = some waiting ∧ waiting ≠ []) := by
  have reaches := underway.stacked top List.mem_cons_self
  obtain ⟨fragment, found⟩ := reaches.exists_fragment linked present
  refine (underway.knows_or_none linked present reaches).imp_right fun unknown =>
    ⟨unknown, fragment, found, ?_⟩
  have inside := linked.inputs_inside found underway.length_eq
  by_cases ready : unsettled starts fragment.inputs.toList = []
  · have exists_input : ∀ input ∈ fragment.inputs.toList,
        ∃ producer, arena.fragment? input = some producer := fun input member =>
      linked.exists_input ⟨fragment, found, SortedSet.mem_toList.mp member⟩
    exact .inl ⟨ready ▸ pending_eq inside, _, lastFinish_eq inside exists_input⟩
  · exact .inr ⟨_, pending_eq inside, ready⟩

/-! ### What one turn does -/

section Top

variable {ahead : List FragmentId} {start : Nat}
  (underway : arena.Underway order ⟨ahead, top :: below, starts⟩)
  (found : arena.fragment? top = some fragment)
  (ready : pending starts fragment.inputs.toList = some [])
include underway found ready

/-- When nothing is waited for, all inputs have their starts. -/
theorem Underway.knows_input (feeds : arena.Feeds input top) :
    ∃ time, starts[input]? = some (some time) := by
  refine (underway.knows_or_none linked present (underway.reaches_input feeds)).resolve_right
    fun unknown => ?_
  exact List.not_mem_nil
    ((linked.mem_pending found underway.length_eq ready).mpr ⟨feeds, unknown⟩)

variable (latest : arena.lastFinish starts fragment.inputs.toList = some start)
include latest

/-- The latest finish among the inputs is the greatest delay of the fragment. -/
theorem Underway.isGreatest_lastFinish : IsGreatest (arena.delays fragment) start := by
  have exists_input : ∀ input ∈ fragment.inputs.toList,
      ∃ producer, arena.fragment? input = some producer := fun input member =>
    linked.exists_input ⟨fragment, found, SortedSet.mem_toList.mp member⟩
  rw [lastFinish_eq (linked.inputs_inside found underway.length_eq) exists_input] at latest
  obtain rfl := Option.some.inj latest
  refine isGreatest_delays linked found fun input inputFound consumed => ?_
  obtain ⟨time, known⟩ :=
    underway.knows_input linked present found ready ⟨fragment, found, consumed⟩
  refine ⟨time, (underway.known input.id time known).2 input inputFound, ?_⟩
  rw [finishOf, known, inputFound]
  rfl

/-- **The start of a fragment is recorded** while the fragment is still on the stack. -/
theorem Underway.record (unknown : starts[top]? = some none) :
    arena.Underway order ⟨ahead, top :: below, starts.set top (some start)⟩ := by
  have here : (starts.set top (some start))[top]? = some (some start) :=
    List.getElem?_set_self (List.getElem?_eq_some_iff.mp unknown).1
  have elsewhere : ∀ {id}, id ≠ top → (starts.set top (some start))[id]? = starts[id]? :=
    fun differs => List.getElem?_set_ne differs.symm
  have stays : ∀ {id : FragmentId}, (∃ time, starts[id]? = some (some time)) →
      ∃ time, (starts.set top (some start))[id]? = some (some time) := by
    rintro id ⟨time, known⟩
    by_cases same : id = top
    · exact ⟨start, same ▸ here⟩
    · exact ⟨time, (elsewhere same).trans known⟩
  refine ⟨List.length_set.trans underway.length_eq, underway.ahead_sub, underway.stacked,
    fun id time known => ?known, fun input id feeds knows => ?closed,
    fun id member => (underway.kept id member).imp_right fun kept => kept.imp_right stays⟩
  case known =>
    by_cases same : id = top
    · subst same
      obtain rfl : start = time := Option.some.inj (Option.some.inj (here.symm.trans known))
      refine ⟨underway.stacked _ List.mem_cons_self, fun also alsoFound => ?_⟩
      obtain rfl : fragment = also := Option.some.inj (found.symm.trans alsoFound)
      exact underway.isGreatest_lastFinish linked present found ready latest
    · exact underway.known id time ((elsewhere same).symm.trans known)
  case closed =>
    by_cases same : id = top
    · exact stays (underway.knows_input linked present found ready (same ▸ feeds))
    · obtain ⟨time, known⟩ := knows
      exact stays (underway.closed input id feeds ⟨time, (elsewhere same).symm.trans known⟩)

end Top

namespace Underway

variable (underway : arena.Underway order state)
include underway

/-- **A turn keeps everything as it should stand.** -/
theorem turn (turn : arena.Turn state later) : arena.Underway order later := by
  cases turn with
  | begin id ahead starts =>
    have begins : arena.Reaches order id :=
      ⟨id, underway.ahead_sub List.mem_cons_self, .refl⟩
    refine ⟨underway.length_eq, fun _ member => underway.ahead_sub (List.mem_cons_of_mem _ member),
      List.forall_mem_singleton.mpr begins, underway.known, underway.closed, fun other member => ?_⟩
    rcases underway.kept other member with ahead | stacked | knows
    · rcases List.mem_cons.mp ahead with rfl | ahead
      · exact .inr (.inl List.mem_cons_self)
      · exact .inl ahead
    · exact absurd stacked List.not_mem_nil
    · exact .inr (.inr knows)
  | leave known => exact underway.leave known
  | wait unknown found unsettled _ arranged =>
    refine ⟨underway.length_eq, underway.ahead_sub, fun other member => ?_, underway.known,
      underway.closed, fun other member => (underway.kept other member).imp_right
        fun kept => kept.imp_left fun stacked => List.mem_append_right _ stacked⟩
    rcases List.mem_append.mp member with waits | stacked
    · exact underway.reaches_input
        ((linked.mem_pending found underway.length_eq unsettled).mp (arranged.mem_iff.mp waits)).1
    · exact underway.stacked other stacked
  | settle unknown found ready latest =>
    exact (underway.record linked present found ready latest unknown).leave
      (List.getElem?_set_self (List.getElem?_eq_some_iff.mp unknown).1)

theorem run (run : ReflTransGen arena.Turn state later) : arena.Underway order later := by
  induction run with
  | refl => exact underway
  | tail _ turn ih => exact ih.turn linked present turn

/-- **As long as something is left to do there is a turn**: no lookup fails. -/
theorem exists_turn (left : state.ahead ≠ [] ∨ state.stack ≠ []) :
    ∃ later, arena.Turn state later := by
  obtain ⟨ahead, stack, starts⟩ := state
  cases stack with
  | nil =>
    obtain ⟨id, rest, rfl⟩ := List.exists_cons_of_ne_nil (left.resolve_right fun some => some rfl)
    exact ⟨_, .begin id rest starts⟩
  | cons top below =>
    rcases underway.top_cases linked present with
      ⟨start, known⟩ | ⟨unknown, fragment, found, ⟨ready, start, latest⟩ | ⟨waiting, lacks, waits⟩⟩
    · exact ⟨_, .leave known⟩
    · exact ⟨_, .settle unknown found ready latest⟩
    · exact ⟨_, .wait unknown found lacks waits (.refl _)⟩

/-- When no turn is left everything that the traversal comes to has its start, and nothing else
has. -/
theorem of_ended (ended : ∀ later, ¬ arena.Turn state later) :
    state.ahead = [] ∧ state.stack = [] ∧ ∀ id, state.Knows id ↔ arena.Reaches order id := by
  have done : state.ahead = [] ∧ state.stack = [] := by
    by_contra left
    obtain ⟨later, turn⟩ := underway.exists_turn linked present (by
      rwa [Classical.not_and_iff_not_or_not] at left)
    exact ended later turn
  refine ⟨done.1, done.2, fun id => ⟨fun ⟨start, known⟩ => (underway.known id start known).1, ?_⟩⟩
  rintro ⟨last, begins, path⟩
  have knows_last : state.Knows last := by
    rcases underway.kept last begins with ahead | stacked | knows
    · rw [done.1] at ahead
      exact absurd ahead List.not_mem_nil
    · rw [done.2] at stacked
      exact absurd stacked List.not_mem_nil
    · exact knows
  induction path using ReflTransGen.head_induction_on with
  | refl => exact knows_last
  | head feeds _ ih => exact underway.closed _ _ feeds ih

/-- **The starts in the end do not depend on the turns**, nor on the order in which the traversal
began with fragments. -/
theorem starts_eq {others : List FragmentId} {also : Traversal}
    (alsoUnderway : arena.Underway others also)
    (presentOthers : ∀ id ∈ others, ∃ fragment, arena.fragment? id = some fragment)
    (ended : ∀ later, ¬ arena.Turn state later) (alsoEnded : ∀ later, ¬ arena.Turn also later)
    (same : ∀ id, arena.Reaches order id ↔ arena.Reaches others id) :
    state.starts = also.starts := by
  have knows_iff := (underway.of_ended linked present ended).2.2
  have also_knows_iff := (alsoUnderway.of_ended linked presentOthers alsoEnded).2.2
  refine List.ext_getElem (underway.length_eq.trans alsoUnderway.length_eq.symm)
    fun id inside alsoInside => ?_
  cases first : state.starts[id] with
  | some start =>
    have known : state.starts[id]? = some (some start) := by
      rw [List.getElem?_eq_getElem inside, first]
    obtain ⟨reaches, greatest⟩ := underway.known id start known
    obtain ⟨fragment, found⟩ := reaches.exists_fragment linked present
    obtain ⟨time, alsoKnown⟩ := (also_knows_iff id).mpr ((same id).mp reaches)
    have unique := (greatest fragment found).unique
      ((alsoUnderway.known id time alsoKnown).2 fragment found)
    rw [List.getElem?_eq_getElem alsoInside, ← unique] at alsoKnown
    exact (Option.some.inj alsoKnown).symm
  | none =>
    cases second : also.starts[id] with
    | none => rfl
    | some time =>
      have alsoKnown : also.starts[id]? = some (some time) := by
        rw [List.getElem?_eq_getElem alsoInside, second]
      obtain ⟨start, known⟩ := (knows_iff id).mpr
        ((same id).mpr (alsoUnderway.known id time alsoKnown).1)
      rw [List.getElem?_eq_getElem inside, first] at known
      cases Option.some.inj known

end Underway

end Present

/-! ## Every run of turns ends -/

/-- What a traversal has still to do: the fragments with which it has to begin, those that have no
start, those on the stack that have one, and the rank of the top. -/
def Traversal.weight (rank : FragmentId → Nat) (state : Traversal) : Nat × Nat × Nat × Nat :=
  (state.ahead.length, state.starts.count none,
    state.stack.countP fun id => (state.starts[id]?).join.isSome,
    (state.stack.head?.map rank).getD 0)

section Acyclic

variable (linked : arena.Linked)
  (present : ∀ id ∈ order, ∃ fragment, arena.fragment? id = some fragment)
  (underway : arena.Underway order state)
include linked underway

/-- **A turn lowers the weight.** -/
theorem Underway.weight_lt {rank : FragmentId → Nat}
    (rises : ∀ {input id}, arena.Feeds input id → rank input < rank id)
    (turn : arena.Turn state later) :
    WellFoundedRelation.rel (later.weight rank) (state.weight rank) := by
  cases turn with
  | begin id ahead starts => exact Prod.Lex.left _ _ (Nat.lt_succ_self _)
  | @leave top start ahead below starts known =>
    refine Prod.Lex.right _ (Prod.Lex.right _ (Prod.Lex.left _ _ ?_))
    rw [List.countP_cons_of_pos (by rw [known]; rfl)]
    exact Nat.lt_succ_self _
  | @wait top fragment ahead below waiting above starts unknown found unsettled waits arranged =>
    have lacks : ∀ {other}, other ∈ above →
        arena.Feeds other top ∧ starts[other]? = some none := fun member =>
      (linked.mem_pending found underway.length_eq unsettled).mp (arranged.mem_iff.mp member)
    have none_settled : above.countP (fun id => (starts[id]?).join.isSome) = 0 := by
      refine List.countP_eq_zero.mpr fun other member => ?_
      rw [(lacks member).2]
      exact Bool.false_ne_true
    have same : (above ++ top :: below).countP (fun id => (starts[id]?).join.isSome) =
        (top :: below).countP fun id => (starts[id]?).join.isSome := by
      rw [List.countP_append, none_settled, Nat.zero_add]
    cases above with
    | nil => exact absurd arranged.nil_eq.symm waits
    | cons first rest =>
      refine Prod.Lex.right _ (Prod.Lex.right _ ?_)
      rw [same]
      exact Prod.Lex.right _ (rises (lacks List.mem_cons_self).1)
  | @settle top fragment start ahead below starts unknown found ready latest =>
    refine Prod.Lex.right _ (Prod.Lex.left _ _ ?_)
    obtain ⟨inside, place⟩ := List.getElem?_eq_some_iff.mp unknown
    have counted : 0 < starts.count none := List.count_pos_iff.mpr (List.mem_of_getElem? unknown)
    rw [List.count_set inside, place]
    exact Nat.sub_lt counted Nat.one_pos

include present

/-- **Every run of turns ends** when the links are acyclic. -/
theorem Underway.ends (acyclic : arena.Acyclic) :
    Acc (fun later earlier => arena.Turn earlier later) state := by
  obtain ⟨rank, rises⟩ := acyclic.exists_rank linked
  have lower : WellFounded (InvImage WellFoundedRelation.rel (Traversal.weight rank)) :=
    InvImage.wf _ WellFoundedRelation.wf
  induction state using lower.induction with
  | _ state ih =>
    exact Acc.intro state fun later turn =>
      ih later (underway.weight_lt linked rises turn) (underway.turn linked present turn)

end Acyclic

/-! ## The traversal on the slots -/

theorem settle_nil (arena : Arena) (fresh : List FragmentId) (starts : List (Option Nat)) :
    arena.settle fresh [] starts = some starts := by
  rw [settle]

theorem settle_of_known {start : Nat} (known : starts[top]? = some (some start)) :
    arena.settle fresh (top :: below) starts = arena.settle fresh below starts := by
  rw [settle, known]
  rfl

theorem settle_of_ready {start : Nat} (unknown : starts[top]? = some none)
    (found : arena.fragment? top = some fragment)
    (ready : pending starts fragment.inputs.toList = some [])
    (latest : arena.lastFinish starts fragment.inputs.toList = some start) :
    arena.settle fresh (top :: below) starts =
      arena.settle fresh below (starts.set top (some start)) := by
  rw [settle, unknown, found]
  simp only [Option.bind_eq_bind, Option.bind_some, Option.isSome_none, Bool.false_eq_true,
    if_false, ready, List.isEmpty_nil, if_true, latest]

theorem settle_of_unsettled (unknown : starts[top]? = some none)
    (found : arena.fragment? top = some fragment)
    (unsettled : pending starts fragment.inputs.toList = some waiting) (waits : waiting ≠ [])
    (isFresh : top ∈ fresh) :
    arena.settle fresh (top :: below) starts =
      arena.settle (fresh.erase top) (waiting.reverse ++ top :: below) starts := by
  rw [settle, unknown, found]
  simp only [Option.bind_eq_bind, Option.bind_some, Option.isSome_none, Bool.false_eq_true,
    if_false, unsettled, List.isEmpty_iff, isFresh, if_true]
  exact if_neg waits

/-- A fragment that waits stands below what it waits for, and all that stands above it feeds it. -/
def Guarded (arena : Arena) (fresh stack : List FragmentId) (starts : List (Option Nat)) : Prop :=
  ∀ id, starts[id]? = some none → id ∉ fresh → ∃ above below, stack = above ++ id :: below ∧
    (∀ other ∈ above, TransGen arena.Feeds other id) ∧
    ∀ input, arena.Feeds input id → starts[input]? = some none → input ∈ above

/-- At first nothing waits. -/
theorem guarded_range (stack : List FragmentId) :
    arena.Guarded (List.range starts.length) stack starts := by
  intro id unknown waits
  exact absurd (List.mem_range.mpr (List.getElem?_eq_some_iff.mp unknown).1) waits

namespace Guarded

variable (guarded : arena.Guarded fresh (top :: below) starts)
include guarded

/-- When the top is settled, everything else goes on waiting. -/
theorem pop {also : List (Option Nat)} (settled : also[top]? ≠ some none)
    (remaining : ∀ {id : FragmentId}, also[id]? = some none → starts[id]? = some none) :
    arena.Guarded fresh below also := by
  intro id unknown waits
  obtain ⟨above, under, split, feeds, waited⟩ := guarded id (remaining unknown) waits
  cases above with
  | nil =>
    obtain ⟨rfl, _⟩ := List.cons.inj split
    exact absurd unknown settled
  | cons first rest =>
    obtain ⟨rfl, rfl⟩ := List.cons.inj split
    refine ⟨rest, under, rfl, fun other member => feeds other (List.mem_cons_of_mem _ member),
      fun input consumed inputUnknown => ?_⟩
    refine (List.mem_cons.mp (waited input consumed (remaining inputUnknown))).resolve_left ?_
    rintro rfl
    exact settled inputUnknown

/-- The top gets a start. -/
theorem record {start : Nat} (unknown : starts[top]? = some none) :
    arena.Guarded fresh below (starts.set top (some start)) := by
  refine guarded.pop ?_ ?_
  · rw [List.getElem?_set_self (List.getElem?_eq_some_iff.mp unknown).1]
    exact fun same => Option.some_ne_none _ (Option.some.inj same)
  · intro id still
    rw [List.getElem?_set] at still
    split at still
    · split at still
      · cases Option.some.inj still
      · cases still
    · exact still

/-- **What waits for inputs has not waited before.** -/
theorem mem_fresh (acyclic : arena.Acyclic) (unknown : starts[top]? = some none)
    (feeds : arena.Feeds input top) (inputUnknown : starts[input]? = some none) : top ∈ fresh := by
  by_contra waits
  obtain ⟨above, under, split, above_feeds, waited⟩ := guarded top unknown waits
  cases above with
  | nil => exact List.not_mem_nil (waited input feeds inputUnknown)
  | cons first rest =>
    obtain ⟨rfl, _⟩ := List.cons.inj split
    exact acyclic _ (above_feeds _ List.mem_cons_self)

/-- The top begins to wait. -/
theorem wait (waiting_iff : ∀ input, input ∈ waiting ↔
      arena.Feeds input top ∧ starts[input]? = some none) :
    arena.Guarded (fresh.erase top) (waiting.reverse ++ top :: below) starts := by
  have waiting_feeds : ∀ other ∈ waiting.reverse, arena.Feeds other top := fun other member =>
    ((waiting_iff other).mp (List.mem_reverse.mp member)).1
  intro id unknown waits
  by_cases same : id = top
  · subst same
    exact ⟨waiting.reverse, below, rfl, fun other member => .single (waiting_feeds other member),
      fun input feeds inputUnknown =>
        List.mem_reverse.mpr ((waiting_iff input).mpr ⟨feeds, inputUnknown⟩)⟩
  · obtain ⟨above, under, split, feeds, waited⟩ := guarded id unknown
      fun isFresh => waits ((List.mem_erase_of_ne same).mpr isFresh)
    have top_above : top ∈ above := by
      cases above with
      | nil => exact absurd (List.cons.inj split).1.symm same
      | cons first rest => exact (List.cons.inj split).1 ▸ List.mem_cons_self
    refine ⟨waiting.reverse ++ above, under, ?_, fun other member => ?_,
      fun input consumed inputUnknown =>
        List.mem_append_right _ (waited input consumed inputUnknown)⟩
    · rw [split, List.append_assoc]
    · rcases List.mem_append.mp member with new | old
      · exact .head (waiting_feeds other new) (feeds top top_above)
      · exact feeds other old

end Guarded

section StartTimes

variable (linked : arena.Linked) (acyclic : arena.Acyclic)
include linked acyclic

/-- **The traversal of a stack is a run of turns** that empties it. -/
theorem Underway.exists_settled {ahead : List FragmentId}
    (present : ∀ id ∈ order, ∃ fragment, arena.fragment? id = some fragment)
    (underway : arena.Underway order ⟨ahead, stack, starts⟩)
    (guarded : arena.Guarded fresh stack starts) :
    ∃ later, arena.settle fresh stack starts = some later ∧
      ReflTransGen arena.Turn ⟨ahead, stack, starts⟩ ⟨ahead, [], later⟩ := by
  have ends := underway.ends linked present acyclic
  generalize reached : (⟨ahead, stack, starts⟩ : Traversal) = state at ends underway
  induction ends generalizing fresh stack starts with
  | intro state _ ih =>
    subst reached
    cases stack with
    | nil => exact ⟨starts, settle_nil arena fresh starts, .refl⟩
    | cons top below =>
      -- Whatever the turn is, the run goes on after it.
      have onward : ∀ {fresh' stack' starts'}, arena.Turn ⟨ahead, top :: below, starts⟩
          ⟨ahead, stack', starts'⟩ → arena.Guarded fresh' stack' starts' →
          arena.settle fresh (top :: below) starts = arena.settle fresh' stack' starts' →
          ∃ later, arena.settle fresh (top :: below) starts = some later ∧
            ReflTransGen arena.Turn ⟨ahead, top :: below, starts⟩ ⟨ahead, [], later⟩ := by
        intro fresh' stack' starts' turn guarded same
        obtain ⟨later, settled, run⟩ :=
          ih _ turn guarded rfl (underway.turn linked present turn)
        exact ⟨later, same.trans settled, run.head turn⟩
      rcases underway.top_cases linked present with ⟨start, known⟩ |
          ⟨unknown, fragment, found, ⟨ready, start, latest⟩ | ⟨waiting, lacks, waits⟩⟩
      · have settled : starts[top]? ≠ some none := fun unknown => by
          rw [known] at unknown
          cases Option.some.inj unknown
        exact onward (.leave known) (guarded.pop settled fun unknown => unknown)
          (settle_of_known known)
      · exact onward (.settle unknown found ready latest) (guarded.record unknown)
          (settle_of_ready unknown found ready latest)
      · have waiting_iff : ∀ input, input ∈ waiting ↔
            arena.Feeds input top ∧ starts[input]? = some none := fun _ =>
          linked.mem_pending found underway.length_eq lacks
        obtain ⟨input, member⟩ := List.exists_mem_of_ne_nil waiting waits
        obtain ⟨feeds, inputUnknown⟩ := (waiting_iff input).mp member
        exact onward (.wait unknown found lacks waits (List.reverse_perm _))
          (guarded.wait waiting_iff)
          (settle_of_unsettled unknown found lacks waits
            (guarded.mem_fresh acyclic unknown feeds inputUnknown))

end StartTimes

/-! ## The starts of all fragments -/

/-- The numbers of the fragments other than the root. -/
def ids (arena : Arena) : List FragmentId := arena.fragments.map Fragment.id

theorem Linked.find (linked : arena.Linked) (member : fragment ∈ arena.fragments) :
    arena.fragment? fragment.id = some fragment := by
  obtain ⟨id, _, found⟩ := mem_fragments.mp member
  exact linked.numbered id fragment found ▸ found

theorem Linked.exists_of_mem_ids (linked : arena.Linked) :
    ∀ id ∈ arena.ids, ∃ fragment, arena.fragment? id = some fragment := by
  intro id member
  obtain ⟨fragment, inside, rfl⟩ := List.mem_map.mp member
  exact ⟨fragment, linked.find inside⟩

/-- Nothing is left to do when there is nothing ahead and nothing on the stack. -/
theorem not_turn_of_done (later : Traversal) : ¬ arena.Turn ⟨[], [], starts⟩ later := by
  intro turn
  cases turn

/-- **A run of turns from all fragments to the end gives every fragment a start**, and all that it
gives are greatest delays. -/
theorem Linked.of_run (linked : arena.Linked)
    (run : ReflTransGen arena.Turn (arena.outset arena.ids) ⟨[], [], starts⟩) :
    (∀ fragment ∈ arena.fragments, ∃ start, starts[fragment.id]? = some (some start)) ∧
      ∀ fragment start, arena.fragment? fragment.id = some fragment →
        starts[fragment.id]? = some (some start) → IsGreatest (arena.delays fragment) start := by
  have present := linked.exists_of_mem_ids
  have underway := (Underway.start arena arena.ids).run linked present run
  refine ⟨fun fragment member => ?_, fun fragment start found known =>
    (underway.known _ start known).2 fragment found⟩
  exact ((underway.of_ended linked present not_turn_of_done).2.2 _).mpr
    ⟨fragment.id, List.mem_map_of_mem member, .refl⟩

section StartTimes

variable (linked : arena.Linked) (acyclic : arena.Acyclic)
include linked acyclic

/-- **The starts of all fragments are found**, by a run of turns. -/
theorem exists_startTimes : ∃ starts, arena.startTimes = some starts ∧
    ReflTransGen arena.Turn (arena.outset arena.ids) ⟨[], [], starts⟩ := by
  have present := linked.exists_of_mem_ids
  obtain ⟨starts, run, reached⟩ : ∃ starts, arena.startTimes = some starts ∧
      ∀ rest, arena.ids = arena.ids ++ rest →
        ReflTransGen arena.Turn (arena.outset arena.ids) ⟨rest, [], starts⟩ := by
    apply exists_foldlM fun done starts => ∀ rest, arena.ids = done ++ rest →
      ReflTransGen arena.Turn (arena.outset arena.ids) ⟨rest, [], starts⟩
    · rintro rest rfl
      exact .refl
    · intro done next rest starts split reached
      have begun := (reached (next :: rest) split).tail (.begin next rest starts)
      have underway := (Underway.start arena arena.ids).run linked present begun
      have guarded : arena.Guarded (List.range arena.slots.length) [next] starts :=
        underway.length_eq ▸ guarded_range [next]
      obtain ⟨later, settled, run⟩ :=
        underway.exists_settled linked acyclic present guarded
      refine ⟨later, settled, fun others also => ?_⟩
      have parts : done ++ next :: rest = done ++ ([next] ++ others) :=
        split.symm.trans (also.trans (List.append_assoc done [next] others))
      obtain rfl := (List.cons.inj (List.append_cancel_left parts)).2
      exact begun.trans run
  exact ⟨starts, run, reached [] (List.append_nil _).symm⟩

end StartTimes

end ValueEngine.Arena
