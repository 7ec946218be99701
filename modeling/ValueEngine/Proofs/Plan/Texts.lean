import ValueEngine.Plan.Outline
import ValueEngine.Proofs.Text.Lines

/-!
# Telling the lines of an outline apart

The text of an outline can be cut into its lines again, since no line has a line break of its own
(`Line.splitOn_renderAll`). Full lines and references start with the number of a fragment, which
can be read off them (`FragmentId.ofText`), so full lines of different fragments are different,
and none is a reference (`Plan.fragmentText_ne_reference`).
-/

set_option autoImplicit false

namespace ValueEngine

theorem FragmentId.newline_not_mem_text (id : FragmentId) : '\n' ∉ (text id).toList :=
  newline_not_mem_append (by decide) (newline_not_mem_number id)

/-! ## What a text is about -/

/-- The number of the fragment that a text starts with. -/
def FragmentId.ofText (text : String) : FragmentId :=
  Nat.ofDigitChars 10 ((text.toList.drop 1).takeWhile Char.isDigit) 0

/-- The text of a reference to a fragment that is shown above. -/
def FragmentId.reference (id : FragmentId) : String := text id ++ " (see above)"

theorem FragmentId.ofText_append (id : FragmentId) (rest : String) :
    ofText (text id ++ (" (" ++ rest)) = id := by
  have digits : ∀ letter ∈ Nat.toDigits 10 id, letter.isDigit = true := fun letter member =>
    Nat.isDigit_of_mem_toDigits (by decide) (by decide) member
  have letters : (text id ++ (" (" ++ rest)).toList.drop 1 =
      Nat.toDigits 10 id ++ ' ' :: '(' :: rest.toList := by
    rw [text, Nat.toString_eq_repr, String.toList_append, String.toList_append, Nat.toList_repr,
      String.toList_append]
    rfl
  rw [ofText, letters, List.takeWhile_append_of_pos digits, List.takeWhile_cons_of_neg (by decide),
    List.append_nil]
  exact Nat.ofDigitChars_toDigits (by decide) (by decide)

/-- A text with a number sign in front is not that of the root. -/
theorem root_ne_of_head? {text : String} (numbered : text.toList.head? = some '#') :
    "root" ≠ text := by
  rintro rfl
  revert numbered
  decide

/-- A text with a number sign in front does not consist of dots. -/
theorem dots_ne_of_head? {text : String} (numbered : text.toList.head? = some '#') :
    "..." ≠ text := by
  rintro rfl
  revert numbered
  decide

theorem FragmentId.head?_reference (id : FragmentId) :
    (reference id).toList.head? = some '#' := by
  rw [reference, text, String.toList_append, String.toList_append]
  rfl

theorem FragmentId.ofText_reference (id : FragmentId) : ofText (reference id) = id :=
  ofText_append id "see above)"

namespace Plan

/-- The text of a fragment starts with its number and the number of its nodes. -/
theorem exists_fragmentText_eq (plan : Plan) (fragment : Fragment) :
    ∃ rest, '\n' ∉ rest.toList ∧ plan.fragmentText fragment =
      FragmentId.text fragment.id ++ (" (" ++ (toString fragment.items ++ rest)) := by
  unfold fragmentText
  simp only [String.append_assoc]
  refine ⟨_, ?_, rfl⟩
  refine newline_not_mem_append (by decide) (newline_not_mem_append (newline_not_mem_number _)
    (newline_not_mem_append (by decide) (newline_not_mem_append (newline_not_mem_number _)
      (newline_not_mem_append (by decide) ?_))))
  split
  · decide
  · refine newline_not_mem_append (by decide) (newline_not_mem_append ?_ (by decide))
    refine newline_not_mem_intercalate (by decide) fun part member => ?_
    obtain ⟨id, _, rfl⟩ := List.mem_map.mp member
    exact FragmentId.newline_not_mem_text id

theorem ofText_fragmentText (plan : Plan) (fragment : Fragment) :
    FragmentId.ofText (plan.fragmentText fragment) = fragment.id := by
  obtain ⟨rest, _, same⟩ := plan.exists_fragmentText_eq fragment
  rw [same, FragmentId.ofText_append]

theorem newline_not_mem_fragmentText (plan : Plan) (fragment : Fragment) :
    '\n' ∉ (plan.fragmentText fragment).toList := by
  obtain ⟨rest, plain, same⟩ := plan.exists_fragmentText_eq fragment
  rw [same]
  exact newline_not_mem_append (FragmentId.newline_not_mem_text _)
    (newline_not_mem_append (by decide) (newline_not_mem_append (newline_not_mem_number _) plain))

/-- A number stands where a reference has a word. -/
theorem fragmentText_ne_reference (plan : Plan) (fragment : Fragment) (id : FragmentId) :
    plan.fragmentText fragment ≠ FragmentId.reference id := by
  intro same
  have about : fragment.id = id := by
    rw [← plan.ofText_fragmentText fragment, same, FragmentId.ofText_reference]
  obtain ⟨rest, _, text_eq⟩ := plan.exists_fragmentText_eq fragment
  rw [text_eq, about] at same
  have tails : toString fragment.items ++ rest = "see above)" :=
    (String.append_right_inj _).mp ((String.append_right_inj _).mp same)
  have letters : Nat.toDigits 10 fragment.items ++ rest.toList = "see above)".toList := by
    rw [← tails, Nat.toString_eq_repr, String.toList_append, Nat.toList_repr]
  cases digits : Nat.toDigits 10 fragment.items with
  | nil => exact Nat.toDigits_ne_nil digits
  | cons first others =>
    rw [digits] at letters
    have digit : first.isDigit = true :=
      Nat.isDigit_of_mem_toDigits (n := fragment.items) (by decide) (by decide)
        (digits ▸ List.mem_cons_self)
    rw [(List.cons.inj letters).1] at digit
    revert digit
    decide

theorem head?_fragmentText (plan : Plan) (fragment : Fragment) :
    (plan.fragmentText fragment).toList.head? = some '#' := by
  obtain ⟨rest, _, same⟩ := plan.exists_fragmentText_eq fragment
  rw [same, FragmentId.text, String.toList_append, String.toList_append]
  rfl

end Plan

end ValueEngine
