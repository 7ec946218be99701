import ValueEngine.Value.Requirement

/-!
# Why a requirement could not be met

A failure is the list of everything that was tried for one requirement, in the
order in which it was recorded. Most attempts are plain notes. A function that
failed because some of its inputs could not be had carries a failure for each of
these inputs, so failures are trees, with a requirement at every level.

Failures are values: they are handed to consumers and merged, and equality of
failures is decided level by level.
-/

set_option autoImplicit false

namespace ValueEngine

/-- A function that was considered for producing a value. -/
structure Application where
  /-- The function. -/
  function : FunctionCall
  /-- The value it should produce. -/
  output : Specification
  /-- The requirements of the function that were met, by the values that met
  them. -/
  satisfied : SortedMap Specification Requirement := ∅
deriving DecidableEq, Inhabited

/-- An attempt that has no causes below it. -/
inductive Note where
  /-- Nothing met the requirement. -/
  | couldNotResolve
  /-- No function produces such a value. -/
  | noFunctions
  /-- The requirement needs itself. -/
  | recursiveRequirement
  /-- The requirement was given up. -/
  | unsatisfied
  /-- A value was found; it is kept to show what has been tried. -/
  | resolvedValue (value : Candidate)
  /-- A function was applied with success. -/
  | appliedFunction (application : Application)
  /-- A function could not say what it requires. -/
  | requirementsFailed (application : Application)
  /-- A function could not say what it produces. -/
  | resultsFailed (application : Application)
  /-- A function could not say what else it requires. -/
  | additionalRequirementsFailed (application : Application)
  /-- A function took back what it had promised. -/
  | lateResolutionFailed (application : Application)
deriving DecidableEq, Inhabited

mutual

/-- What was tried for a requirement. -/
inductive Failure where
  /-- The requirement, and the attempts in the order in which they were recorded. -/
  | intro (requirement : Requirement) (attempts : List Attempt)

/-- One recorded attempt. -/
inductive Attempt where
  /-- An attempt without causes. -/
  | note (note : Note)
  /-- A function that failed for want of inputs, with a failure for each. -/
  | failedFunction (application : Application) (causes : List Failure)

end

mutual

/-- Decides equality of failures. -/
def Failure.decEq : (first second : Failure) → Decidable (first = second)
  | .intro requirement attempts, .intro otherRequirement otherAttempts =>
    if same : requirement = otherRequirement then
      match Attempt.decEqList attempts otherAttempts with
      | isTrue alike => isTrue (by rw [same, alike])
      | isFalse different => isFalse fun equal => different (by injection equal)
    else isFalse fun equal => same (by injection equal)
termination_by structural first => first

/-- Decides equality of attempts. -/
def Attempt.decEq : (first second : Attempt) → Decidable (first = second)
  | .note note, .note other =>
    if same : note = other then isTrue (by rw [same])
    else isFalse fun equal => same (by injection equal)
  | .failedFunction application causes, .failedFunction other otherCauses =>
    if same : application = other then
      match Failure.decEqList causes otherCauses with
      | isTrue alike => isTrue (by rw [same, alike])
      | isFalse different => isFalse fun equal => different (by injection equal)
    else isFalse fun equal => same (by injection equal)
  | .note _, .failedFunction .. => isFalse (by intro equal; cases equal)
  | .failedFunction .., .note _ => isFalse (by intro equal; cases equal)

/-- Decides equality of lists of failures. -/
def Failure.decEqList : (first second : List Failure) → Decidable (first = second)
  | [], [] => isTrue rfl
  | first :: rest, other :: others =>
    match Failure.decEq first other, Failure.decEqList rest others with
    | isTrue same, isTrue alike => isTrue (by rw [same, alike])
    | isFalse different, _ => isFalse fun equal => different (by injection equal)
    | _, isFalse different => isFalse fun equal => different (by injection equal)
  | [], _ :: _ => isFalse (by intro equal; cases equal)
  | _ :: _, [] => isFalse (by intro equal; cases equal)

/-- Decides equality of lists of attempts. -/
def Attempt.decEqList : (first second : List Attempt) → Decidable (first = second)
  | [], [] => isTrue rfl
  | first :: rest, other :: others =>
    match Attempt.decEq first other, Attempt.decEqList rest others with
    | isTrue same, isTrue alike => isTrue (by rw [same, alike])
    | isFalse different, _ => isFalse fun equal => different (by injection equal)
    | _, isFalse different => isFalse fun equal => different (by injection equal)
  | [], _ :: _ => isFalse (by intro equal; cases equal)
  | _ :: _, [] => isFalse (by intro equal; cases equal)

end

instance : DecidableEq Failure := Failure.decEq

instance : DecidableEq Attempt := Attempt.decEq

namespace Failure

/-- What was asked for. -/
def requirement : Failure → Requirement
  | intro requirement _ => requirement

/-- What was tried, in the order in which it was recorded. -/
def attempts : Failure → List Attempt
  | intro _ attempts => attempts

instance : Inhabited Failure := ⟨intro default []⟩

/-- A failure with a single attempt. -/
def ofAttempt (requirement : Requirement) (attempt : Attempt) : Failure :=
  intro requirement [attempt]

/-- A failure with a single attempt that has no causes. -/
def ofNote (requirement : Requirement) (note : Note) : Failure :=
  ofAttempt requirement (.note note)

/-- Whether an attempt found a value. -/
def isResolved : Attempt → Bool
  | .note (.resolvedValue _) => true
  | _ => false

/-- The number of values found. -/
def resolvedCount (failure : Failure) : Nat := failure.attempts.countP isResolved

/-- Record a value that was found, even when it is known already. -/
def addResolved (failure : Failure) (value : Candidate) : Failure :=
  intro failure.requirement (failure.attempts ++ [.note (.resolvedValue value)])

end Failure

end ValueEngine
