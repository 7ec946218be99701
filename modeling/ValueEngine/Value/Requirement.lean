import ValueEngine.Value.Properties

/-!
# Values that are asked for, and values that are produced

A requirement asks for a named value on a target, narrowed by constraints. A
specification describes a value that a function will produce. A candidate is one
possible answer to a requirement: a specification together with the function
that produces it and the values this function consumes.

A specification satisfies a requirement when name and target agree and its
properties meet every constraint (`Requirement.satisfiedBy`).

Requirements, specifications and functions are ordered field by field.
-/

set_option autoImplicit false

namespace ValueEngine

/-- The object that a value is computed for, as an opaque key. -/
abbrev Target := String

/-! ## Requirements -/

/-- A named value on a target that somebody asks for. -/
structure Requirement where
  /-- The name of the value. -/
  name : String
  /-- The object the value is computed for. -/
  target : Target
  /-- What the properties of an answer must meet. -/
  constraints : Properties := ∅
deriving DecidableEq, Inhabited

/-! ## Specifications -/

/-- A named value on a target that some function produces. -/
structure Specification where
  /-- The name of the value. -/
  name : String
  /-- The object the value is computed for. -/
  target : Target
  /-- What is known of the value. -/
  properties : Properties := ∅
deriving DecidableEq, Inhabited

namespace Requirement

/-- Whether a produced value answers the requirement. -/
def satisfiedBy (requirement : Requirement) (specification : Specification) : Bool :=
  requirement.name == specification.name && requirement.target == specification.target &&
    requirement.constraints.satisfiedBy specification.properties

/-- The text of a requirement; constraints are written only when there are some. -/
def text (requirement : Requirement) : String :=
  let constraints :=
    if requirement.constraints.isEmpty then "" else " " ++ requirement.constraints.text
  requirement.name ++ constraints ++ " on " ++ requirement.target

/-- Names are compared first, then targets, then constraints. -/
instance : Ord Requirement where
  compare :=
    compareLex (compareOn Requirement.name)
      (compareLex (compareOn Requirement.target) (compareOn Requirement.constraints))

instance : Std.TransOrd Requirement :=
  inferInstanceAs (Std.TransCmp (compareLex (compareOn Requirement.name)
    (compareLex (compareOn Requirement.target) (compareOn Requirement.constraints))))

instance : Std.LawfulEqOrd Requirement where
  compare_self {_} := @Std.ReflCmp.compare_self _ (compareLex (compareOn Requirement.name)
    (compareLex (compareOn Requirement.target) (compareOn Requirement.constraints))) _ _
  eq_of_compare := by
    intro first second same
    obtain ⟨names, rest⟩ := compareLex_eq_eq.1 same
    obtain ⟨targets, constraints⟩ := compareLex_eq_eq.1 rest
    cases first
    cases second
    cases Std.LawfulEqOrd.eq_of_compare names
    cases Std.LawfulEqOrd.eq_of_compare targets
    cases Std.LawfulEqOrd.eq_of_compare constraints
    rfl

end Requirement

namespace Specification

/-- The text of a specification; the properties are always written. -/
def text (specification : Specification) : String :=
  specification.name ++ " " ++ specification.properties.text ++ " on " ++ specification.target

/-- Names are compared first, then targets, then properties. -/
instance : Ord Specification where
  compare :=
    compareLex (compareOn Specification.name)
      (compareLex (compareOn Specification.target) (compareOn Specification.properties))

instance : Std.TransOrd Specification :=
  inferInstanceAs (Std.TransCmp (compareLex (compareOn Specification.name)
    (compareLex (compareOn Specification.target) (compareOn Specification.properties))))

instance : Std.LawfulEqOrd Specification where
  compare_self {_} := @Std.ReflCmp.compare_self _ (compareLex (compareOn Specification.name)
    (compareLex (compareOn Specification.target) (compareOn Specification.properties))) _ _
  eq_of_compare := by
    intro first second same
    obtain ⟨names, rest⟩ := compareLex_eq_eq.1 same
    obtain ⟨targets, properties⟩ := compareLex_eq_eq.1 rest
    cases first
    cases second
    cases Std.LawfulEqOrd.eq_of_compare names
    cases Std.LawfulEqOrd.eq_of_compare targets
    cases Std.LawfulEqOrd.eq_of_compare properties
    rfl

end Specification

/-! ## Functions -/

/-- A function together with the parameters it is invoked with. -/
structure FunctionCall where
  /-- The name the function is known by. -/
  id : String
  /-- The parameters it is invoked with. -/
  parameters : Properties := ∅
deriving DecidableEq, Inhabited

namespace FunctionCall

/-- The text of a function; parameters are written only when there are some. -/
def text (function : FunctionCall) : String :=
  if function.parameters.isEmpty then function.id else function.id ++ function.parameters.text

/-- Names are compared before parameters. -/
instance : Ord FunctionCall where
  compare := compareLex (compareOn FunctionCall.id) (compareOn FunctionCall.parameters)

instance : Std.TransOrd FunctionCall :=
  inferInstanceAs (Std.TransCmp
    (compareLex (compareOn FunctionCall.id) (compareOn FunctionCall.parameters)))

instance : Std.LawfulEqOrd FunctionCall where
  compare_self {_} := @Std.ReflCmp.compare_self _
    (compareLex (compareOn FunctionCall.id) (compareOn FunctionCall.parameters)) _ _
  eq_of_compare := by
    intro first second same
    obtain ⟨ids, parameters⟩ := compareLex_eq_eq.1 same
    cases first
    cases second
    cases Std.LawfulEqOrd.eq_of_compare ids
    cases Std.LawfulEqOrd.eq_of_compare parameters
    rfl

end FunctionCall

/-! ## Candidates -/

/-- One possible answer to a requirement. -/
structure Candidate where
  /-- The value that will be produced. -/
  specification : Specification
  /-- The function that produces it. -/
  function : FunctionCall
  /-- The values this function consumes. -/
  inputs : List Specification := []
deriving DecidableEq, Inhabited

/-- A candidate is written as the value it offers. -/
def Candidate.text (candidate : Candidate) : String := candidate.specification.text

end ValueEngine
