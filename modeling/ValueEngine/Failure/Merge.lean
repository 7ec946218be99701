import ValueEngine.Failure.Basic

/-!
# Merging failures

Two failures for one requirement are merged by recording the attempts of the
second in the first. An attempt that is there already is not repeated. When a
function failed in the same application before, its causes are merged into the
known ones, requirement by requirement.

Merging is defined by recursion on the failure that is merged in.
-/

set_option autoImplicit false

namespace ValueEngine

/-- Apply a change to the first element of a list that passes a test. -/
def changeFirst {α : Type} (test : α → Bool) (change : α → α) : List α → List α
  | [] => []
  | first :: rest =>
    if test first then change first :: rest else first :: changeFirst test change rest

namespace Attempt

/-- Whether an attempt is a failed function in a given application. -/
def isFailureOf (application : Application) : Attempt → Bool
  | failedFunction known _ => decide (known = application)
  | note _ => false

/-- Change the causes of a failed function. -/
def mapCauses (change : List Failure → List Failure) : Attempt → Attempt
  | failedFunction application causes => failedFunction application (change causes)
  | note plain => note plain

end Attempt

/-- Whether a failure is for a given requirement. -/
def Failure.isAbout (requirement : Requirement) (failure : Failure) : Bool :=
  decide (failure.requirement = requirement)

mutual

/-- A failure after the attempts of another one have been recorded. -/
def Failure.absorb (known : Failure) : Failure → Failure
  | .intro _ attempts => .intro known.requirement (absorbAttempts known.attempts attempts)
termination_by structural f => f

/-- Record some attempts, one after the other. -/
def absorbAttempts (known : List Attempt) : List Attempt → List Attempt
  | [] => known
  | attempt :: rest => absorbAttempts (absorbAttempt known attempt) rest

/-- Record one attempt, unless it is there already. The causes of a function
that failed in the same application before join the known causes. -/
def absorbAttempt (known : List Attempt) : Attempt → List Attempt
  | .note note => if .note note ∈ known then known else known ++ [.note note]
  | .failedFunction application causes =>
    if known.any (Attempt.isFailureOf application) then
      changeFirst (Attempt.isFailureOf application)
        (Attempt.mapCauses fun existing => absorbCauses existing causes) known
    else known ++ [.failedFunction application causes]

/-- Add some causes, one after the other. A cause is merged into the first known
one for the same requirement, and listed on its own when there is none. -/
def absorbCauses (known : List Failure) : List Failure → List Failure
  | [] => known
  | cause :: rest =>
    let next :=
      if known.any (Failure.isAbout cause.requirement) then
        changeFirst (Failure.isAbout cause.requirement) (fun existing => existing.absorb cause)
          known
      else known ++ [cause]
    absorbCauses next rest

end

namespace Failure

/-- Merging needs two failures for the same requirement. -/
structure MixedRequirements where
  /-- What the failure that should grow is about. -/
  known : Requirement
  /-- What the other one is about. -/
  other : Requirement
deriving DecidableEq

/-- The text of the refusal. -/
def MixedRequirements.message (_ : MixedRequirements) : String :=
  "merging failures of different requirements"

/-- Merge a failure into another one for the same requirement. -/
def merge (known other : Failure) : Except MixedRequirements Failure :=
  if known.requirement = other.requirement then .ok (known.absorb other)
  else .error ⟨known.requirement, other.requirement⟩

end Failure

end ValueEngine
