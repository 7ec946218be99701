import Mathlib.Data.List.Basic
import ValueEngine.Failure.Report
import ValueEngine.Proofs.Text.Lines

/-!
# How a failure is printed

The report of a failure consists of one passage for each attempt: a line, or two lines and the
reports of the causes, moved in by two spaces. The lines come about with a depth that is carried
from level to level, while a passage is made of texts alone. Both are the same as long as no string
in the failure has a line break (`Failure.strings`), since then the lines of a report are the lines
of its text (`Failure.printed_of_unbroken`).

A line of the text belongs to an attempt somewhere in the tree (`Failure.entries`), and its margin
tells at which level this attempt stands. Most facts are shown for a failure from those for its
causes (`Failure.induction`).
-/

set_option autoImplicit false

namespace ValueEngine

/-! ## The strings in a failure -/

/-- The names and the values of properties. -/
def Properties.strings (properties : Properties) : List String :=
  properties.toList.flatMap fun entry => [entry.1, entry.2]

/-- The strings in a requirement. -/
def Requirement.strings (requirement : Requirement) : List String :=
  requirement.name :: requirement.target :: requirement.constraints.strings

/-- The strings in a specification. -/
def Specification.strings (specification : Specification) : List String :=
  specification.name :: specification.target :: specification.properties.strings

/-- The strings in a function. -/
def FunctionCall.strings (function : FunctionCall) : List String :=
  function.id :: function.parameters.strings

/-- The strings in a candidate. -/
def Candidate.strings (candidate : Candidate) : List String :=
  candidate.specification.strings ++
    (candidate.function.strings ++ candidate.inputs.flatMap Specification.strings)

/-- The strings in an application. -/
def Application.strings (application : Application) : List String :=
  application.function.strings ++ (application.output.strings ++
    application.satisfied.toList.flatMap fun entry => entry.1.strings ++ entry.2.strings)

/-- The strings in a note. -/
def Note.strings : Note → List String
  | couldNotResolve | noFunctions | recursiveRequirement | unsatisfied => []
  | resolvedValue value => value.strings
  | appliedFunction application | requirementsFailed application | resultsFailed application
  | additionalRequirementsFailed application | lateResolutionFailed application =>
    application.strings

mutual

/-- All strings in a failure, down to any level. -/
def Failure.strings : Failure → List String
  | .intro requirement attempts => requirement.strings ++ attemptStrings attempts

/-- The strings in some attempts. -/
def attemptStrings : List Attempt → List String
  | [] => []
  | attempt :: rest => Attempt.strings attempt ++ attemptStrings rest

/-- The strings in an attempt. -/
def Attempt.strings : Attempt → List String
  | .note plain => plain.strings
  | .failedFunction application causes => application.strings ++ causeStrings causes

/-- The strings in some causes. -/
def causeStrings : List Failure → List String
  | [] => []
  | cause :: rest => Failure.strings cause ++ causeStrings rest

end

/-! ## The attempts in a failure -/

/-- The failures below an attempt. -/
def Attempt.causes : Attempt → List Failure
  | .note _ => []
  | .failedFunction _ causes => causes

/-- Whether an attempt is a function that failed for want of inputs. -/
def Attempt.isFailedFunction : Attempt → Bool
  | .note _ => false
  | .failedFunction .. => true

/-- The texts of the lines of an attempt, without those of its causes. -/
def Attempt.headings (requirement : Requirement) : Attempt → List String
  | .note plain => [plain.text requirement]
  | .failedFunction application causes => [application.failureText causes, "Caused by:"]

/-- An attempt somewhere in a failure. -/
structure Failure.Entry where
  /-- How many levels the attempt stands below the top. -/
  level : Nat
  /-- What was asked for at this place. -/
  requirement : Requirement
  /-- What was tried. -/
  attempt : Attempt

mutual

/-- All attempts in a failure whose first level is given, each before those for its causes. -/
def Failure.entries (level : Nat) : Failure → List Failure.Entry
  | .intro requirement attempts => attemptEntries level requirement attempts

/-- The entries of some attempts for a requirement. -/
def attemptEntries (level : Nat) (requirement : Requirement) : List Attempt → List Failure.Entry
  | [] => []
  | attempt :: rest =>
    ⟨level, requirement, attempt⟩ ::
      (Attempt.entriesBelow level attempt ++ attemptEntries level requirement rest)

/-- The entries below an attempt. -/
def Attempt.entriesBelow (level : Nat) : Attempt → List Failure.Entry
  | .note _ => []
  | .failedFunction _ causes => causeEntries (level + 1) causes

/-- The entries of some causes. -/
def causeEntries (level : Nat) : List Failure → List Failure.Entry
  | [] => []
  | cause :: rest => Failure.entries level cause ++ causeEntries level rest

end

/-- The lines of an attempt, without those of its causes. -/
def Failure.Entry.lines (entry : Entry) : List Line :=
  (entry.attempt.headings entry.requirement).map (Line.mk entry.level)

/-! ## Failures level by level -/

section Levels

variable (level depth : Nat) (requirement : Requirement)

theorem causeStrings_eq (causes : List Failure) :
    causeStrings causes = causes.flatMap Failure.strings := by
  induction causes with
  | nil => rfl
  | cons cause rest ih => rw [causeStrings, ih, List.flatMap_cons]

theorem attemptStrings_eq (attempts : List Attempt) :
    attemptStrings attempts = attempts.flatMap Attempt.strings := by
  induction attempts with
  | nil => rfl
  | cons attempt rest ih => rw [attemptStrings, ih, List.flatMap_cons]

theorem causeEntries_eq (causes : List Failure) :
    causeEntries level causes = causes.flatMap (Failure.entries level) := by
  induction causes with
  | nil => rfl
  | cons cause rest ih => rw [causeEntries, ih, List.flatMap_cons]

theorem Failure.entries_eq (failure : Failure) :
    failure.entries level = failure.attempts.flatMap fun attempt =>
      ⟨level, failure.requirement, attempt⟩ ::
        attempt.causes.flatMap (Failure.entries (level + 1)) := by
  obtain ⟨requirement, attempts⟩ := failure
  rw [Failure.entries, Failure.attempts, Failure.requirement]
  induction attempts with
  | nil => rfl
  | cons attempt rest ih =>
    rw [attemptEntries, ih, List.flatMap_cons, List.cons_append]
    cases attempt with
    | note => rfl
    | failedFunction application causes => rw [Attempt.entriesBelow, causeEntries_eq]; rfl

theorem causeLines_eq (causes : List Failure) :
    causeLines depth causes = causes.flatMap (Failure.lines depth) := by
  induction causes with
  | nil => rfl
  | cons cause rest ih => rw [causeLines, ih, List.flatMap_cons]

theorem Attempt.lines_eq (attempt : Attempt) :
    attempt.lines depth requirement =
      (attempt.headings requirement).map (Line.mk depth) ++
        attempt.causes.flatMap (Failure.lines (depth + 1)) := by
  cases attempt with
  | note => rfl
  | failedFunction application causes => rw [Attempt.lines, causeLines_eq]; rfl

theorem Failure.lines_eq (failure : Failure) :
    failure.lines depth =
      failure.attempts.flatMap (Attempt.lines depth failure.requirement) := by
  obtain ⟨requirement, attempts⟩ := failure
  rw [Failure.lines, Failure.attempts, Failure.requirement]
  induction attempts with
  | nil => rfl
  | cons attempt rest ih => rw [attemptLines, ih, List.flatMap_cons]

end Levels

/-- **Induction on failures**: what holds of a failure whenever it holds of all causes that are
listed in it holds of all failures. -/
theorem Failure.induction {holds : Failure → Prop}
    (step : ∀ failure : Failure,
      (∀ attempt ∈ failure.attempts, ∀ cause ∈ attempt.causes, holds cause) → holds failure)
    (failure : Failure) : holds failure := by
  refine @Failure.rec holds (fun attempt => ∀ cause ∈ attempt.causes, holds cause)
    (fun attempts => ∀ attempt ∈ attempts, ∀ cause ∈ attempt.causes, holds cause)
    (fun causes => ∀ cause ∈ causes, holds cause) ?_ ?_ ?_ ?_ ?_ ?_ ?_ failure
  · exact fun requirement attempts below => step (.intro requirement attempts) below
  · exact fun plain => List.forall_mem_nil _
  · exact fun application causes below => below
  · exact List.forall_mem_nil _
  · exact fun attempt rest now later => List.forall_mem_cons.mpr ⟨now, later⟩
  · exact List.forall_mem_nil _
  · exact fun cause rest now later => List.forall_mem_cons.mpr ⟨now, later⟩

/-! ## Texts without line breaks -/

section Unbroken

open Text

theorem Properties.newline_not_mem_text {properties : Properties}
    (unbroken : Unbroken properties.strings) : '\n' ∉ properties.text.toList := by
  refine newline_not_mem_append (newline_not_mem_append (by decide) ?_) (by decide)
  refine newline_not_mem_intercalate (by decide) (List.forall_mem_map.mpr fun entry member => ?_)
  obtain ⟨name, values⟩ :=
    List.forall_mem_cons.mp (List.forall_mem_flatMap.mp unbroken entry member)
  unfold entryText
  split
  · exact name
  · exact newline_not_mem_append (newline_not_mem_append name (by decide))
      (values entry.2 List.mem_cons_self)

theorem Requirement.newline_not_mem_text {requirement : Requirement}
    (unbroken : Unbroken requirement.strings) : '\n' ∉ requirement.text.toList := by
  obtain ⟨name, others⟩ := List.forall_mem_cons.mp unbroken
  obtain ⟨target, constraints⟩ := List.forall_mem_cons.mp others
  refine newline_not_mem_append (newline_not_mem_append (newline_not_mem_append name ?_)
    (by decide)) target
  split
  · exact List.not_mem_nil
  · exact newline_not_mem_append (by decide) (Properties.newline_not_mem_text constraints)

theorem Specification.newline_not_mem_text {specification : Specification}
    (unbroken : Unbroken specification.strings) : '\n' ∉ specification.text.toList := by
  obtain ⟨name, others⟩ := List.forall_mem_cons.mp unbroken
  obtain ⟨target, properties⟩ := List.forall_mem_cons.mp others
  exact newline_not_mem_append (newline_not_mem_append (newline_not_mem_append
    (newline_not_mem_append name (by decide)) (Properties.newline_not_mem_text properties))
    (by decide)) target

theorem FunctionCall.newline_not_mem_text {function : FunctionCall}
    (unbroken : Unbroken function.strings) : '\n' ∉ function.text.toList := by
  obtain ⟨id, parameters⟩ := List.forall_mem_cons.mp unbroken
  unfold FunctionCall.text
  split
  · exact id
  · exact newline_not_mem_append id (Properties.newline_not_mem_text parameters)

theorem newline_not_mem_bracedOrEmpty {texts : List String} (unbroken : Unbroken texts) :
    '\n' ∉ (bracedOrEmpty texts).toList := by
  unfold bracedOrEmpty
  split
  · decide
  · exact newline_not_mem_append (newline_not_mem_append (by decide)
      (newline_not_mem_intercalate (by decide) unbroken)) (by decide)

/-- The texts of the function, of the output and of the values that are at hand. -/
theorem Application.unbroken_texts {application : Application}
    (unbroken : Unbroken application.strings) :
    '\n' ∉ application.function.text.toList ∧ '\n' ∉ application.output.text.toList ∧
      Unbroken (application.satisfied.keys.map Specification.text) := by
  obtain ⟨function, others⟩ := List.forall_mem_append.mp unbroken
  obtain ⟨output, satisfied⟩ := List.forall_mem_append.mp others
  refine ⟨FunctionCall.newline_not_mem_text function, Specification.newline_not_mem_text output,
    List.forall_mem_map.mpr (List.forall_mem_map.mpr fun entry member => ?_)⟩
  have strings := List.forall_mem_flatMap.mp satisfied entry member
  exact Specification.newline_not_mem_text (List.forall_mem_append.mp strings).1

theorem Note.newline_not_mem_text {requirement : Requirement} {plain : Note}
    (asked : Unbroken requirement.strings) (unbroken : Unbroken plain.strings) :
    '\n' ∉ (plain.text requirement).toList := by
  have about := Requirement.newline_not_mem_text asked
  cases plain with
  | couldNotResolve | noFunctions | unsatisfied => exact newline_not_mem_append (by decide) about
  | recursiveRequirement =>
    exact newline_not_mem_append (newline_not_mem_append (by decide) about) (by decide)
  | resolvedValue value =>
    have offered := Specification.newline_not_mem_text (List.forall_mem_append.mp unbroken).1
    exact newline_not_mem_append (newline_not_mem_append (newline_not_mem_append (by decide) about)
      (by decide)) offered
  | appliedFunction application =>
    obtain ⟨function, _⟩ := Application.unbroken_texts unbroken
    exact newline_not_mem_append (newline_not_mem_append (newline_not_mem_append (by decide)
      function) (by decide)) about
  | requirementsFailed application =>
    obtain ⟨function, output, _⟩ := Application.unbroken_texts unbroken
    exact newline_not_mem_append (newline_not_mem_append (newline_not_mem_append (by decide)
      function) (by decide)) output
  | resultsFailed application =>
    exact newline_not_mem_append (by decide) (Application.unbroken_texts unbroken).1
  | additionalRequirementsFailed application =>
    obtain ⟨function, _, satisfied⟩ := Application.unbroken_texts unbroken
    exact newline_not_mem_append (newline_not_mem_append (newline_not_mem_append (by decide)
      function) (by decide)) (newline_not_mem_bracedOrEmpty satisfied)
  | lateResolutionFailed application =>
    obtain ⟨_, output, _⟩ := Application.unbroken_texts unbroken
    exact newline_not_mem_append (newline_not_mem_append (by decide) output) (by decide)

theorem Failure.unbroken_requirement {failure : Failure} (unbroken : Unbroken failure.strings) :
    Unbroken failure.requirement.strings := by
  obtain ⟨requirement, attempts⟩ := failure
  exact (List.forall_mem_append.mp unbroken).1

theorem Failure.unbroken_attempts {failure : Failure} (unbroken : Unbroken failure.strings) :
    ∀ attempt ∈ failure.attempts, Unbroken attempt.strings := by
  obtain ⟨requirement, attempts⟩ := failure
  rw [Failure.strings, attemptStrings_eq] at unbroken
  exact List.forall_mem_flatMap.mp (List.forall_mem_append.mp unbroken).2

theorem Attempt.unbroken_causes {attempt : Attempt} (unbroken : Unbroken attempt.strings) :
    ∀ cause ∈ attempt.causes, Unbroken cause.strings := by
  cases attempt with
  | note => exact List.forall_mem_nil _
  | failedFunction application causes =>
    rw [Attempt.strings, causeStrings_eq] at unbroken
    exact List.forall_mem_flatMap.mp (List.forall_mem_append.mp unbroken).2

theorem Attempt.unbroken_headings {requirement : Requirement} {attempt : Attempt}
    (asked : Unbroken requirement.strings) (unbroken : Unbroken attempt.strings) :
    Unbroken (attempt.headings requirement) := by
  cases attempt with
  | note plain => exact List.forall_mem_singleton.mpr (Note.newline_not_mem_text asked unbroken)
  | failedFunction application causes =>
    have below := Attempt.unbroken_causes unbroken
    rw [Attempt.strings] at unbroken
    obtain ⟨_, output, _⟩ := Application.unbroken_texts (List.forall_mem_append.mp unbroken).1
    have missing : Unbroken (causes.map fun cause => cause.requirement.text) :=
      List.forall_mem_map.mpr fun cause member =>
        Requirement.newline_not_mem_text (Failure.unbroken_requirement (below cause member))
    refine List.forall_mem_cons.mpr ⟨?_, List.forall_mem_singleton.mpr (by decide)⟩
    exact newline_not_mem_append (newline_not_mem_append (newline_not_mem_append (by decide)
      (newline_not_mem_bracedOrEmpty missing)) (by decide)) output

/-- **No line has a line break of its own**, on any level. -/
theorem Failure.newline_not_mem_lines {failure : Failure} (unbroken : Unbroken failure.strings)
    (depth : Nat) : ∀ line ∈ failure.lines depth, '\n' ∉ line.text.toList := by
  induction failure using Failure.induction generalizing depth with
  | step failure ih =>
    rw [Failure.lines_eq]
    refine List.forall_mem_flatMap.mpr fun attempt listed => ?_
    have strings := Failure.unbroken_attempts unbroken attempt listed
    rw [Attempt.lines_eq]
    refine List.forall_mem_append.mpr ⟨List.forall_mem_map.mpr ?_, List.forall_mem_flatMap.mpr ?_⟩
    · exact Attempt.unbroken_headings (Failure.unbroken_requirement unbroken) strings
    · exact fun cause member =>
        ih attempt listed cause member (Attempt.unbroken_causes strings cause member) (depth + 1)

theorem Note.isFlush_text (requirement : Requirement) (plain : Note) :
    isFlush (plain.text requirement) = true := by
  cases plain with
  | couldNotResolve | noFunctions | unsatisfied | resultsFailed =>
    exact isFlush_append (by decide) _
  | recursiveRequirement | lateResolutionFailed =>
    exact isFlush_append (isFlush_append (by decide) _) _
  | resolvedValue | appliedFunction | requirementsFailed | additionalRequirementsFailed =>
    exact isFlush_append (isFlush_append (isFlush_append (by decide) _) _) _

/-- Every line starts with a word. -/
theorem Attempt.isFlush_headings (requirement : Requirement) (attempt : Attempt) :
    ∀ heading ∈ attempt.headings requirement, isFlush heading = true := by
  cases attempt with
  | note plain => exact List.forall_mem_singleton.mpr (Note.isFlush_text requirement plain)
  | failedFunction application causes =>
    refine List.forall_mem_cons.mpr ⟨?_, List.forall_mem_singleton.mpr (by decide)⟩
    exact isFlush_append (isFlush_append (isFlush_append (by decide) _) _) _

end Unbroken

/-! ## Passages and lines -/

namespace Failure

/-- The lines of a failure at a depth are its lines, each moved down. -/
theorem lines_add (failure : Failure) (depth levels : Nat) :
    failure.lines (depth + levels) = (failure.lines depth).map (Line.deepen levels) := by
  induction failure using Failure.induction generalizing depth with
  | step failure ih =>
    rw [lines_eq, lines_eq, List.map_flatMap]
    refine List.flatMap_congr fun attempt listed => ?_
    rw [Attempt.lines_eq, Attempt.lines_eq, List.map_append, List.map_map, List.map_flatMap,
      Nat.add_right_comm]
    exact congrArg (_ ++ ·) (List.flatMap_congr fun cause member =>
      ih attempt listed cause member (depth + 1))

/-- **Each line belongs to an attempt** in the tree, at the level of the attempt. -/
theorem lines_eq_entries (failure : Failure) (depth : Nat) :
    failure.lines depth = (failure.entries depth).flatMap Entry.lines := by
  induction failure using Failure.induction generalizing depth with
  | step failure ih =>
    rw [lines_eq, entries_eq, List.flatMap_assoc]
    refine List.flatMap_congr fun attempt listed => ?_
    rw [Attempt.lines_eq, List.flatMap_cons, List.flatMap_assoc]
    exact congrArg (_ ++ ·) (List.flatMap_congr fun cause member =>
      ih attempt listed cause member (depth + 1))

/-- One line for each entry, and another one for each function that failed. -/
theorem length_flatMap_lines (entries : List Entry) :
    (entries.flatMap Entry.lines).length =
      entries.length + entries.countP fun entry => entry.attempt.isFailedFunction := by
  induction entries with
  | nil => rfl
  | cons entry rest ih =>
    have own : entry.lines.length = 1 + if entry.attempt.isFailedFunction then 1 else 0 := by
      obtain ⟨level, requirement, attempt⟩ := entry
      cases attempt <;> rfl
    rw [List.flatMap_cons, List.length_append, ih, own, List.length_cons, List.countP_cons]
    omega

end Failure

/-- What is printed for an attempt at the top of a failure. -/
def Attempt.passage (requirement : Requirement) : Attempt → String
  | .note plain => plain.text requirement ++ "\n"
  | .failedFunction application causes =>
    application.failureText causes ++ "\n" ++ "Caused by:\n" ++
      String.join (causes.map fun cause => Text.indent cause.report)

/-- The lines of an attempt are its passage. -/
theorem Attempt.renderAll_lines {attempt : Attempt} (unbroken : Text.Unbroken attempt.strings)
    (requirement : Requirement) :
    Line.renderAll (attempt.lines 0 requirement) = attempt.passage requirement := by
  have below := Attempt.unbroken_causes unbroken
  cases attempt with
  | note plain =>
    rw [Attempt.lines, Line.renderAll_cons, Line.render_top]
    exact String.append_empty
  | failedFunction application causes =>
    have moved : ∀ cause ∈ causes,
        Line.renderAll (cause.lines 1) = Text.indent cause.report := fun cause member => by
      have plain := Failure.newline_not_mem_lines (below cause member) 0
      rw [Failure.report, Line.indent_renderAll plain, ← Failure.lines_add]
    rw [Attempt.lines, Line.renderAll_cons, Line.renderAll_cons, Line.render_top, Line.render_top,
      causeLines_eq, Line.renderAll_flatMap, List.map_congr_left moved, ← String.append_assoc]
    rfl

namespace Failure

/-- How a failure is printed. -/
structure Printed (failure : Failure) : Prop where
  /-- The text consists of the passages of the attempts, in their order. -/
  passages : failure.report =
    String.join (failure.attempts.map (Attempt.passage failure.requirement))
  /-- At any depth the same text is printed, with two more spaces for each level. -/
  moved : ∀ depth, Line.renderAll (failure.lines depth) = Text.indent^[depth] failure.report
  /-- Each line ends with a line break. -/
  ended : Text.unlines (Text.lines failure.report) = failure.report
  /-- The lines are the headings of the attempts in the tree. -/
  lines : Text.lines failure.report =
    (failure.entries 0).flatMap fun entry => entry.lines.map Line.indented
  /-- Each line starts with two spaces for each level of its attempt. -/
  margins : (Text.lines failure.report).map Text.margin =
    (failure.entries 0).flatMap fun entry => entry.lines.map fun _ => 2 * entry.level
  /-- There is one line for each attempt in the tree, and another one for each failed function. -/
  count : (Text.lines failure.report).length =
    (failure.entries 0).length +
      (failure.entries 0).countP fun entry => entry.attempt.isFailedFunction

/-- **A failure is printed passage by passage**, each line at the level of its attempt, when no
string in it has a line break. -/
theorem printed_of_unbroken (failure : Failure) (unbroken : Text.Unbroken failure.strings) :
    failure.Printed := by
  have plain := newline_not_mem_lines unbroken 0
  have text_lines : Text.lines failure.report =
      (failure.entries 0).flatMap fun entry => entry.lines.map Line.indented := by
    rw [report, Line.lines_renderAll plain, lines_eq_entries, List.map_flatMap]
  refine ⟨?_, fun depth => ?_, ?_, text_lines, ?_, ?_⟩
  · rw [report, lines_eq, Line.renderAll_flatMap]
    exact congrArg String.join (List.map_congr_left fun attempt listed =>
      Attempt.renderAll_lines (unbroken_attempts unbroken attempt listed) failure.requirement)
  · rw [report, Line.iterate_indent_renderAll plain, ← lines_add, Nat.zero_add]
  · rw [report, Line.lines_renderAll plain, ← Line.renderAll_eq_unlines]
  · rw [text_lines, List.map_flatMap]
    refine List.flatMap_congr fun entry _ => ?_
    rw [List.map_map]
    refine List.map_congr_left fun line member => ?_
    obtain ⟨heading, listed, rfl⟩ := List.mem_map.mp member
    exact Line.margin_indented (Attempt.isFlush_headings _ _ heading listed)
  · rw [report, Line.lines_renderAll plain, List.length_map, lines_eq_entries,
      length_flatMap_lines]

/-- A value that is not found, since a curve has no quotes and a spot needs itself. -/
def unvalued : Failure :=
  .intro ⟨"PV", "T", ∅⟩ [
    .note (.resolvedValue ⟨⟨"PV", "T", ∅⟩, ⟨"feed", ∅⟩, []⟩),
    .failedFunction ⟨⟨"pricer", ∅⟩, ⟨"PV", "T", ∅⟩, ∅⟩ [
      .intro ⟨"Curve", "T", ∅⟩ [
        .failedFunction ⟨⟨"fit", .ofList [("Method", "cubic")]⟩, ⟨"Curve", "T", ∅⟩, ∅⟩ [
          .intro ⟨"Quote", "T", .ofList [("Source", "")]⟩ [
            .note .noFunctions, .note .couldNotResolve]],
        .note .unsatisfied],
      .ofNote ⟨"Spot", "T", ∅⟩ .recursiveRequirement]]

/-- Its lines stand at three levels. -/
theorem printed_unvalued : Text.Unbroken unvalued.strings ∧ unvalued.Printed ∧
    unvalued.report =
      "Resolved PV on T to PV \x7b\x7d on T\n" ++
      "Couldn't satisfy \x7bCurve on T, Spot on T\x7d to produce PV \x7b\x7d on T\n" ++
      "Caused by:\n" ++
      "  Couldn't satisfy \x7bQuote \x7bSource\x7d on T\x7d to produce Curve \x7b\x7d on T\n" ++
      "  Caused by:\n" ++
      "    No functions available for Quote \x7bSource\x7d on T\n" ++
      "    Could not resolve Quote \x7bSource\x7d on T\n" ++
      "  Unsatisfied requirement Curve on T\n" ++
      "  Recursive requirement on Spot on T for function(s) producing it\n" ∧
    (Text.lines unvalued.report).map Text.margin = [0, 0, 0, 2, 2, 4, 4, 2, 2] := by
  have unbroken : Text.Unbroken unvalued.strings := by decide
  have printed := printed_of_unbroken unvalued unbroken
  exact ⟨unbroken, printed, by decide +kernel, printed.margins.trans rfl⟩

/-- A line break in a name makes two lines of one. -/
example : (Text.lines (ofNote ⟨"P\nV", "T", ∅⟩ .noFunctions).report).length = 2 := by
  decide

end Failure

end ValueEngine
