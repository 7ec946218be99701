import ValueEngine.Data.SortedMap

/-!
# Properties

A property set gives values to property names. It describes a value that is
produced, narrows a value that is asked for, or parameterizes a function.

When one property set narrows another (`Properties.satisfiedBy`), each of its
entries is a constraint on the other. A constraint with an empty value asks only
that the property is there; any other constraint asks for that very value.
-/

set_option autoImplicit false

namespace ValueEngine

/-- A finite set of named property values, in ascending order of the names. -/
structure Properties where
  /-- The value of each property. -/
  values : SortedMap String String
deriving DecidableEq

namespace Properties

/-- No properties. -/
def empty : Properties := ⟨∅⟩

instance : EmptyCollection Properties := ⟨empty⟩

instance : Inhabited Properties := ⟨empty⟩

/-- Give a property a value. -/
def set (properties : Properties) (name value : String) : Properties :=
  ⟨properties.values.insert name value⟩

/-- Read properties from pairs, the later of two pairs with one name deciding. -/
def ofList (entries : List (String × String)) : Properties := ⟨SortedMap.ofList entries⟩

/-- The names and values in ascending order of the names. -/
def toList (properties : Properties) : List (String × String) := properties.values.toList

/-- The value of a property. -/
def get? (properties : Properties) (name : String) : Option String := properties.values.get? name

/-- Whether there is no property. -/
def isEmpty (properties : Properties) : Bool := properties.values.isEmpty

/-- Whether a property value meets a constraint on it: an empty constraint asks
only that the property is there. -/
def meets (constraint : String) : Option String → Bool
  | none => false
  | some value => constraint.isEmpty || value == constraint

/-- Whether every constraint is met by the properties offered. -/
def satisfiedBy (constraints offered : Properties) : Bool :=
  constraints.toList.all fun entry => meets entry.2 (offered.get? entry.1)

/-- The text of one property: its name, and its value unless that is empty. -/
def entryText (entry : String × String) : String :=
  if entry.2.isEmpty then entry.1 else entry.1 ++ "=" ++ entry.2

/-- The text of a property set, in braces and separated by commas. -/
def text (properties : Properties) : String :=
  "\x7b" ++ ", ".intercalate (properties.toList.map entryText) ++ "\x7d"

/-- Names are compared before values. -/
def compareEntries : String × String → String × String → Ordering :=
  compareLex (compareOn Prod.fst) (compareOn Prod.snd)

instance : Std.TransCmp compareEntries :=
  inferInstanceAs (Std.TransCmp (compareLex (compareOn Prod.fst) (compareOn Prod.snd)))

instance : Std.LawfulEqCmp compareEntries where
  compare_self := by
    intro entry
    simp [compareEntries, compareLex_eq_eq, compareOn, Std.ReflOrd.compare_self]
  eq_of_compare := by
    intro first second same
    obtain ⟨names, values⟩ := compareLex_eq_eq.1 same
    exact Prod.ext (Std.LawfulEqOrd.eq_of_compare names) (Std.LawfulEqOrd.eq_of_compare values)

/-- Property sets are compared as ascending lists of entries. -/
instance : Ord Properties where
  compare first second := List.compareLex compareEntries first.toList second.toList

theorem toList_injective {first second : Properties} (same : first.toList = second.toList) :
    first = second := by
  obtain ⟨⟨firstList, firstAscending⟩⟩ := first
  obtain ⟨⟨secondList, secondAscending⟩⟩ := second
  cases same
  rfl

instance : Std.TransOrd Properties where
  eq_swap {first second} :=
    @Std.OrientedCmp.eq_swap _ (List.compareLex compareEntries) _ first.toList second.toList
  isLE_trans {first second third} below above :=
    @Std.TransCmp.isLE_trans _ (List.compareLex compareEntries) _ first.toList second.toList
      third.toList below above

instance : Std.LawfulEqOrd Properties where
  compare_self {properties} :=
    @Std.ReflCmp.compare_self _ (List.compareLex compareEntries) _ properties.toList
  eq_of_compare {first second} same :=
    toList_injective <|
      @Std.LawfulEqCmp.eq_of_compare _ (List.compareLex compareEntries) _ first.toList
        second.toList same

end Properties

end ValueEngine
