import ValueEngine.Plan.Basic
import ValueEngine.Text.Indented

/-!
# The outline of a plan

A plan is shown as a tree: the root, below it the fragments it waits for, and
below each fragment its inputs. A fragment that is met again is only referred
to. The inputs of a fragment eight levels below the root are left out, and three
dots stand for them.
-/

set_option autoImplicit false

namespace ValueEngine.Plan

/-- The number of levels below the root that are shown. -/
def outlineDepth : Nat := 8

/-- The lines for a fragment and what stands below it, and the numbers of all
fragments shown so far. `levels` is the number of levels that may follow. -/
def outlineFrom (plan : Plan) :
    (levels depth : Nat) → (shown : List FragmentId) → FragmentId → List Line × List FragmentId
  | levels, depth, shown, id =>
    match plan.layout.fragment? id with
    | none => ([], shown)
    | some fragment =>
      if id ∈ shown then ([⟨depth, FragmentId.text id ++ " (see above)"⟩], shown)
      else
        let isRoot := id = FragmentId.root
        let heading := if isRoot then "root" else plan.fragmentText fragment
        let shown := if isRoot then shown else id :: shown
        let inputs := fragment.inputs.toList
        match levels with
        | 0 => (⟨depth, heading⟩ :: if inputs.isEmpty then [] else [⟨depth + 1, "..."⟩], shown)
        | levels + 1 =>
          inputs.foldl
            (fun (lines, shown) input =>
              let (more, shown) := outlineFrom plan levels (depth + 1) shown input
              (lines ++ more, shown))
            ([⟨depth, heading⟩], shown)

/-- The lines of the outline. -/
def outline (plan : Plan) : List Line :=
  (plan.outlineFrom outlineDepth 0 [] FragmentId.root).1

/-- The text of the outline. -/
def text (plan : Plan) : String := Line.renderAll plan.outline

end ValueEngine.Plan
