import ValueEngine.Failure.Basic
import ValueEngine.Text.Blank
import ValueEngine.Text.Indented

/-!
# Reports of failures

A failure is shown with one line for each attempt. A failed function has a
second line that announces its causes, and the report of each cause follows one
level deeper.
-/

set_option autoImplicit false

namespace ValueEngine

/-- A list of texts in braces, and a word of its own for the empty list. -/
def bracedOrEmpty (texts : List String) : String :=
  if texts.isEmpty then "EMPTY" else "\x7b" ++ ", ".intercalate texts ++ "\x7d"

/-- The text of an attempt that has no causes below it. -/
def Note.text (requirement : Requirement) : Note → String
  | couldNotResolve => "Could not resolve " ++ requirement.text
  | noFunctions => "No functions available for " ++ requirement.text
  | recursiveRequirement =>
    "Recursive requirement on " ++ requirement.text ++ " for function(s) producing it"
  | unsatisfied => "Unsatisfied requirement " ++ requirement.text
  | resolvedValue value => "Resolved " ++ requirement.text ++ " to " ++ value.text
  | appliedFunction application =>
    "Applied " ++ application.function.text ++ " for " ++ requirement.text
  | requirementsFailed application =>
    "getRequirements method failed on " ++ application.function.text ++ " for " ++
      application.output.text
  | resultsFailed application => "getResults method failed on " ++ application.function.text
  | additionalRequirementsFailed application =>
    "getAdditionalRequirements method failed on " ++ application.function.text ++
      " with inputs " ++ bracedOrEmpty (application.satisfied.keys.map Specification.text)
  | lateResolutionFailed application =>
    "Provisional result " ++ application.output.text ++
      " not in function output after late resolution"

/-- The text of a function that failed for want of inputs. -/
def Application.failureText (application : Application) (causes : List Failure) : String :=
  "Couldn't satisfy " ++
    bracedOrEmpty (causes.map fun cause => cause.requirement.text) ++
    " to produce " ++ application.output.text

mutual

/-- The lines of a failure whose first line stands at a depth. -/
def Failure.lines (depth : Nat) : Failure → List Line
  | .intro requirement attempts => attemptLines depth requirement attempts

/-- The lines of the attempts for a requirement. -/
def attemptLines (depth : Nat) (requirement : Requirement) : List Attempt → List Line
  | [] => []
  | attempt :: rest =>
    Attempt.lines depth requirement attempt ++ attemptLines depth requirement rest

/-- The lines of one attempt. -/
def Attempt.lines (depth : Nat) (requirement : Requirement) : Attempt → List Line
  | .note note => [⟨depth, note.text requirement⟩]
  | .failedFunction application causes =>
    ⟨depth, application.failureText causes⟩ :: ⟨depth, "Caused by:"⟩ ::
      causeLines (depth + 1) causes

/-- The lines of the causes of a failed function. -/
def causeLines (depth : Nat) : List Failure → List Line
  | [] => []
  | cause :: rest => Failure.lines depth cause ++ causeLines depth rest

end

namespace Failure

/-- The report of a failure. -/
def report (failure : Failure) : String := Line.renderAll (failure.lines 0)

/-- A failure as a single text: its report without the blanks at the end. -/
def text (failure : Failure) : String := Text.trimEnd failure.report

end Failure

end ValueEngine
