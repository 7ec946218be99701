import Mathlib.Logic.Function.Iterate
import ValueEngine.Text.Indented

/-!
# The lines of a text

A text that consists of lines, each with a line break at its end, can be cut into these lines again
if none of them has a line break of its own (`Text.lines_unlines`). A report is such a text
(`Line.renderAll_eq_unlines`), so it can be indented as a text (`Text.indent`), with no knowledge of
its lines. This is the same as moving each of them down by one level (`Line.indent_renderAll`).
-/

set_option autoImplicit false

namespace ValueEngine

/-! ## Cutting a text into lines -/

namespace Text

/-- The lines of a text. What follows the last line break is a line unless it is empty. -/
def lines (text : String) : List String :=
  let pieces := (text.toList.splitOn '\n').map String.ofList
  if pieces.getLast? = some "" then pieces.dropLast else pieces

/-- The text of some lines, each with a line break at its end. -/
def unlines (lines : List String) : String := String.join (lines.map (· ++ "\n"))

/-- A text with two more spaces in front of each line. -/
def indent (text : String) : String := unlines ((lines text).map ("  " ++ ·))

/-- The number of spaces that a line starts with. -/
def margin (line : String) : Nat := (line.toList.takeWhile (· == ' ')).length

/-- Whether a text starts with something other than a space. -/
def isFlush (text : String) : Bool := text.toList.head?.any (· != ' ')

/-- None of the texts has a line break. -/
def Unbroken (texts : List String) : Prop := ∀ text ∈ texts, '\n' ∉ text.toList

instance (texts : List String) : Decidable (Unbroken texts) :=
  inferInstanceAs (Decidable (∀ text ∈ texts, '\n' ∉ text.toList))

variable {lines : List String}

theorem isFlush_iff {text : String} :
    isFlush text = true ↔ ∃ letter rest, text.toList = letter :: rest ∧ letter ≠ ' ' := by
  unfold isFlush
  cases text.toList with
  | nil => simp
  | cons letter rest => simp

theorem isFlush_append {first : String} (flush : isFlush first = true) (second : String) :
    isFlush (first ++ second) = true := by
  obtain ⟨letter, rest, letters, visible⟩ := isFlush_iff.mp flush
  refine isFlush_iff.mpr ⟨letter, rest ++ second.toList, ?_, visible⟩
  rw [String.toList_append, letters, List.cons_append]

/-- Lines without line breaks are found again. -/
theorem splitOn_unlines (unbroken : Unbroken lines) :
    (unlines lines).toList.splitOn '\n' = lines.map String.toList ++ [[]] := by
  induction lines with
  | nil => rfl
  | cons line rest ih =>
    obtain ⟨now, later⟩ := List.forall_mem_cons.mp unbroken
    have parts : (unlines (line :: rest)).toList =
        line.toList ++ '\n' :: (unlines rest).toList := by
      rw [unlines, List.map_cons, String.join_cons, String.toList_append, String.toList_append,
        List.append_assoc]
      rfl
    have others : ∀ letter ∈ line.toList, (letter == '\n') = false := fun letter member =>
      beq_eq_false_iff_ne.mpr fun same => now (same ▸ member)
    rw [parts, List.map_cons, List.cons_append, ← ih later]
    exact List.splitOnP_append_cons_of_forall_mem others '\n' rfl _

theorem lines_unlines (unbroken : Unbroken lines) : Text.lines (unlines lines) = lines := by
  have pieces : ((unlines lines).toList.splitOn '\n').map String.ofList = lines ++ [""] := by
    rw [splitOn_unlines unbroken, List.map_append, List.map_map]
    exact congrArg (· ++ [""]) (List.map_id'' (fun _ => String.ofList_toList) lines)
  unfold Text.lines
  rw [pieces, if_pos List.getLast?_concat, List.dropLast_concat]

end Text

/-! ## Texts without line breaks -/

theorem newline_not_mem_number (number : Nat) : '\n' ∉ (toString number).toList := by
  rw [Nat.toString_eq_repr, Nat.toList_repr]
  intro member
  have digit := Nat.isDigit_of_mem_toDigits (by decide) (by decide) member
  revert digit
  decide

theorem newline_not_mem_append {first second : String} (before : '\n' ∉ first.toList)
    (after : '\n' ∉ second.toList) : '\n' ∉ (first ++ second).toList := by
  rw [String.toList_append]
  exact List.not_mem_append before after

theorem newline_not_mem_intercalate {separator : String} (plain : '\n' ∉ separator.toList)
    {parts : List String} (all : ∀ part ∈ parts, '\n' ∉ part.toList) :
    '\n' ∉ (separator.intercalate parts).toList := by
  induction parts with
  | nil => exact List.not_mem_nil
  | cons first rest ih =>
    obtain ⟨now, later⟩ := List.forall_mem_cons.mp all
    cases rest with
    | nil => exact now
    | cons second others =>
      rw [String.intercalate_cons_cons]
      exact newline_not_mem_append (newline_not_mem_append now plain) (ih later)

/-! ## Lines at a depth -/

namespace Line

/-- A line as it stands in the text, without its line break. -/
def indented (line : Line) : String := indentation line.depth ++ line.text

variable {line : Line} {lines : List Line}

theorem toList_indentation (depth : Nat) :
    (indentation depth).toList = List.replicate (2 * depth) ' ' := by
  have spaces : ∀ count, ("".pushn ' ' count).toList = List.replicate count ' ' := by
    intro count
    induction count with
    | zero => rfl
    | succ count ih =>
      rw [List.replicate_succ', ← ih]
      exact String.toList_push ' '
  exact spaces (2 * depth)

theorem indentation_succ (depth : Nat) : indentation (depth + 1) = "  " ++ indentation depth := by
  refine String.toList_inj.mp ?_
  rw [String.toList_append, toList_indentation, toList_indentation, Nat.mul_succ, Nat.add_comm,
    ← List.replicate_append_replicate]
  rfl

theorem indented_deepen (line : Line) : (line.deepen 1).indented = "  " ++ line.indented := by
  rw [indented, indented, deepen, indentation_succ, String.append_assoc]

theorem newline_not_mem_indented (plain : '\n' ∉ line.text.toList) :
    '\n' ∉ line.indented.toList := by
  refine newline_not_mem_append (fun member => ?_) plain
  rw [toList_indentation] at member
  cases List.eq_of_mem_replicate member

/-- A line starts with two spaces for each level if its text does not start with a space. -/
theorem margin_indented (flush : Text.isFlush line.text = true) :
    Text.margin line.indented = 2 * line.depth := by
  obtain ⟨letter, rest, letters, visible⟩ := Text.isFlush_iff.mp flush
  have spaces : ∀ space ∈ List.replicate (2 * line.depth) ' ', (space == ' ') = true :=
    fun space member => beq_iff_eq.mpr (List.eq_of_mem_replicate member)
  have stops : (letter :: rest).takeWhile (· == ' ') = [] :=
    List.takeWhile_cons_of_neg fun same => visible (beq_iff_eq.mp same)
  rw [Text.margin, indented, String.toList_append, toList_indentation, letters,
    List.takeWhile_append_of_pos spaces, stops, List.append_nil, List.length_replicate]

theorem renderAll_eq_unlines (lines : List Line) :
    renderAll lines = Text.unlines (lines.map indented) := by
  rw [renderAll, Text.unlines, List.map_map]
  rfl

theorem unbroken_indented (plain : ∀ line ∈ lines, '\n' ∉ line.text.toList) :
    Text.Unbroken (lines.map indented) :=
  List.forall_mem_map.mpr fun line member => newline_not_mem_indented (plain line member)

theorem render_top (text : String) : render ⟨0, text⟩ = text ++ "\n" := by
  have none : indentation 0 = "" := rfl
  rw [render, none, String.empty_append]

theorem renderAll_cons (line : Line) (rest : List Line) :
    renderAll (line :: rest) = render line ++ renderAll rest := by
  rw [renderAll, List.map_cons, String.join_cons, renderAll]

theorem renderAll_append (first second : List Line) :
    renderAll (first ++ second) = renderAll first ++ renderAll second := by
  rw [renderAll, List.map_append, String.join_append]
  rfl

theorem renderAll_flatMap {α : Type} (list : List α) (part : α → List Line) :
    renderAll (list.flatMap part) =
      String.join (list.map fun element => renderAll (part element)) := by
  induction list with
  | nil => rfl
  | cons element rest ih =>
    rw [List.flatMap_cons, renderAll_append, ih, List.map_cons, String.join_cons]

/-- Lines without line breaks are the lines of the text. -/
theorem splitOn_renderAll (plain : ∀ line ∈ lines, '\n' ∉ line.text.toList) :
    (renderAll lines).toList.splitOn '\n' =
      lines.map (fun line => line.indented.toList) ++ [[]] := by
  rw [renderAll_eq_unlines, Text.splitOn_unlines (unbroken_indented plain), List.map_map]
  rfl

theorem lines_renderAll (plain : ∀ line ∈ lines, '\n' ∉ line.text.toList) :
    Text.lines (renderAll lines) = lines.map indented := by
  rw [renderAll_eq_unlines, Text.lines_unlines (unbroken_indented plain)]

/-- **To indent the text is to move each line down.** -/
theorem indent_renderAll (plain : ∀ line ∈ lines, '\n' ∉ line.text.toList) :
    Text.indent (renderAll lines) = renderAll (lines.map (deepen 1)) := by
  rw [Text.indent, lines_renderAll plain, renderAll_eq_unlines, List.map_map, List.map_map]
  exact congrArg Text.unlines (List.map_congr_left fun line _ => (indented_deepen line).symm)

/-- To indent the text several times is to move each line down so many levels. -/
theorem iterate_indent_renderAll (plain : ∀ line ∈ lines, '\n' ∉ line.text.toList)
    (levels : Nat) :
    Text.indent^[levels] (renderAll lines) = renderAll (lines.map (deepen levels)) := by
  induction levels with
  | zero => exact congrArg renderAll (List.map_id' lines).symm
  | succ levels ih =>
    have deeper : ∀ line ∈ lines.map (deepen levels), '\n' ∉ line.text.toList :=
      List.forall_mem_map.mpr plain
    rw [Function.iterate_succ_apply', ih, indent_renderAll deeper, List.map_map]
    rfl

end Line

end ValueEngine
