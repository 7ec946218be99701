import Mathlib.Data.List.Perm.Subperm
import Mathlib.Data.List.ReduceOption
import ValueEngine.Proofs.Supply.Attachments

/-!
# The books of a course

What the steps of a course enter is listed: the references that calls have taken and given
back, the consumers that have subscribed, and those that have detached. Some of the
detached consumers have given back their references already; the others are owed by
unfinished calls, each of which may owe that of one consumer (`Repayment`).
-/

set_option autoImplicit false

namespace ValueEngine

/-! ## What a step enters -/

namespace Step

/-- The producer on which a step takes a reference for its maker. -/
def takes? (step : Step) : Option SupplyId := step.move.takes? step.turn

/-- The producer on which a step gives back such a reference. -/
def gives? (step : Step) : Option SupplyId := step.move.gives? step.before

/-- The consumer that subscribes. -/
def joins? (step : Step) : Option Attachment := step.move.joins? step.before

/-- The consumer that detaches. -/
def departs? (step : Step) : Option Attachment := step.move.departs? step.turn

/-- The consumer whose reference is given back, when the unfinished calls owe some. -/
def repays? (step : Step) (owing : List (Option Attachment)) : Option Attachment :=
  match step.move, step.turn with
  | .call _, .answer _ _ => step.departs?
  | .call _, _ => none
  | .back, _ => owing.head?.join

/-- What the unfinished calls owe after a step. -/
def owes (step : Step) (owing : List (Option Attachment)) : List (Option Attachment) :=
  match step.turn with
  | .answer _ _ => step.move.base owing
  | .event _ _ => step.departs? :: step.move.base owing
  | .violation _ _ => []

end Step

/-! ## Lists of entries -/

/-- The references that consumers have given back, and those that are still owed: each
unfinished call may owe that of the consumer that it has told the end. -/
structure Repayment where
  returned : List Attachment := []
  owing : List (Option Attachment) := []

/-- A step is entered. -/
def Repayment.enter (repayment : Repayment) (step : Step) : Repayment where
  returned := repayment.returned ++ (step.repays? repayment.owing).toList
  owing := step.owes repayment.owing

/-- The references that calls have taken. -/
def takenBy (steps : List Step) : List SupplyId := steps.filterMap Step.takes?

/-- The references that calls have given back. -/
def givenBy (steps : List Step) : List SupplyId := steps.filterMap Step.gives?

/-- The references that are held by those who make calls. -/
def heldBy (steps : List Step) (id : SupplyId) : Nat :=
  (takenBy steps).count id - (givenBy steps).count id

/-- The consumers that have subscribed. -/
def joinedBy (steps : List Step) : List Attachment := steps.filterMap Step.joins?

/-- The consumers that have detached. -/
def departedBy (steps : List Step) : List Attachment := steps.filterMap Step.departs?

/-- The consumers that are attached. -/
def attachedBy (steps : List Step) : List Attachment :=
  (joinedBy steps).filter fun attachment => decide (attachment ∉ departedBy steps)

/-- How the references of consumers have been given back. -/
def repaymentOf (steps : List Step) : Repayment := steps.foldl Repayment.enter {}

/-- The consumers whose references have been given back, each as often as that has happened. -/
def returnedBy (steps : List Step) : List Attachment := (repaymentOf steps).returned

/-- How many of some consumers belong to a producer. -/
def countOn (id : SupplyId) (attachments : List Attachment) : Nat :=
  (attachments.map Attachment.producer).count id

section Books

variable (steps : List Step) (step : Step)

theorem filterMap_concat {α : Type} (enter : Step → Option α) :
    (steps ++ [step]).filterMap enter = steps.filterMap enter ++ (enter step).toList := by
  rw [List.filterMap_append]
  cases entered : enter step with
  | none => simp [entered]
  | some entry => simp [entered]

@[simp] theorem takenBy_concat :
    takenBy (steps ++ [step]) = takenBy steps ++ step.takes?.toList :=
  filterMap_concat steps step Step.takes?

@[simp] theorem givenBy_concat :
    givenBy (steps ++ [step]) = givenBy steps ++ step.gives?.toList :=
  filterMap_concat steps step Step.gives?

@[simp] theorem joinedBy_concat :
    joinedBy (steps ++ [step]) = joinedBy steps ++ step.joins?.toList :=
  filterMap_concat steps step Step.joins?

@[simp] theorem departedBy_concat :
    departedBy (steps ++ [step]) = departedBy steps ++ step.departs?.toList :=
  filterMap_concat steps step Step.departs?

@[simp] theorem repaymentOf_concat :
    repaymentOf (steps ++ [step]) = (repaymentOf steps).enter step := by
  simp [repaymentOf]

variable (id : SupplyId)

@[simp] theorem countOn_append (attachments others : List Attachment) :
    countOn id (attachments ++ others) = countOn id attachments + countOn id others := by
  simp [countOn]

@[simp] theorem countOn_toList (attachment : Option Attachment) :
    countOn id attachment.toList = (attachment.map Attachment.producer).toList.count id := by
  cases attachment <;> rfl

theorem countOn_le {attachments others : List Attachment} (fewer : attachments.Subperm others) :
    countOn id attachments ≤ countOn id others := by
  unfold countOn List.count
  rw [List.countP_map, List.countP_map]
  exact fewer.countP_le _

theorem countOn_perm {attachments others : List Attachment} (same : attachments.Perm others) :
    countOn id attachments = countOn id others :=
  (same.map Attachment.producer).count_eq id

end Books

/-! ## What is owed -/

theorem reduceOption_cons (entry : Option Attachment) (owing : List (Option Attachment)) :
    (entry :: owing).reduceOption = entry.toList ++ owing.reduceOption := by
  cases entry <;> rfl

/-- What was owed, and what is owed since the step, has been given back or is still owed. -/
theorem Step.repays_owes_perm (step : Step) (calm : step.turn.violation? = none)
    (owing : List (Option Attachment)) :
    ((step.repays? owing).toList ++ (step.owes owing).reduceOption).Perm
      (owing.reduceOption ++ step.departs?.toList) := by
  obtain ⟨supply, move⟩ := step
  have first : owing.head?.join.toList ++ owing.tail.reduceOption = owing.reduceOption := by
    cases owing with
    | nil => rfl
    | cons entry rest => exact (reduceOption_cons entry rest).symm
  cases ended : (Step.mk supply move).turn with
  | violation violation after =>
    rw [ended] at calm
    cases calm
  | answer answer after =>
    cases move with
    | call made =>
      simp only [repays?, owes, ended, Move.base]
      exact List.perm_append_comm
    | back =>
      have stays : (Step.mk supply .back).departs? = none := by
        refine Move.departs?_eq_none ?_
        rw [ended]
        rfl
      simp only [repays?, owes, ended, Move.base, stays, first, Option.toList_none, List.append_nil]
      exact List.Perm.refl _
  | event event after =>
    cases move with
    | call made =>
      simp only [repays?, owes, ended, Move.base, reduceOption_cons, Option.toList_none,
        List.nil_append]
      exact List.perm_append_comm
    | back =>
      simp only [repays?, owes, ended, Move.base, reduceOption_cons]
      rw [← first, List.append_assoc]
      exact List.perm_append_comm.append_left _

/-! ## Moves -/

theorem Move.map_base {α β : Type} (change : α → β) (move : Move) (notes : List α) :
    (move.base notes).map change = move.base (notes.map change) := by
  cases move with
  | call made => rfl
  | back => exact List.map_tail

theorem Move.base_subset {α : Type} (move : Move) (notes : List α) : move.base notes ⊆ notes := by
  cases move with
  | call made => exact List.Subset.refl _
  | back => exact fun _ => List.mem_of_mem_tail

/-- Whoever detaches has subscribed. -/
theorem Move.owner_of_departs {move : Move} {turn : Turn} {attachment : Attachment}
    (departs : move.departs? turn = some attachment) :
    turn.supply.owner? attachment.consumer = some attachment.producer := by
  obtain ⟨number, _, found⟩ := Option.bind_eq_some_iff.mp departs
  obtain ⟨id, kept, rfl⟩ := Option.map_eq_some_iff.mp found
  exact (Option.filter_eq_some_iff.mp kept).1

/-- Whoever subscribes is new. -/
theorem Move.consumer_of_joins {move : Move} {supply : Supply} {attachment : Attachment}
    (joins : move.joins? supply = some attachment) : attachment.consumer = supply.nextId := by
  cases move with
  | call made =>
    cases made with
    | subscribe id =>
      cases joins
      rfl
    | _ => cases joins
  | back => cases joins

end ValueEngine
