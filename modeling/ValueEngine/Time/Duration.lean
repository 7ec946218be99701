import ValueEngine.Decimal.Fixed

/-!
# Durations

A duration is a number of nanoseconds. It is written in the largest of the units
second, millisecond, microsecond and nanosecond that it reaches, with as many
decimals as it needs.
-/

set_option autoImplicit false

namespace ValueEngine

/-- A length of time. -/
structure Duration where
  /-- The number of nanoseconds. -/
  nanoseconds : Nat
deriving DecidableEq, Inhabited

namespace Duration

/-- A duration of seconds and nanoseconds. -/
def ofParts (seconds nanoseconds : Nat) : Duration := ⟨seconds * 1000000000 + nanoseconds⟩

/-- The whole microseconds of a duration. -/
def microseconds (duration : Duration) : Nat := duration.nanoseconds / 1000

/-- A text without the zeros at its end. -/
def dropEndZeros (digits : String) : String :=
  String.ofList (digits.toList.reverse.dropWhile (· = '0')).reverse

/-- A duration in a unit of `10 ^ places` nanoseconds. -/
def textIn (duration : Duration) (places : Nat) (unit : String) : String :=
  let whole := toString (duration.nanoseconds / Nat.pow 10 places)
  let rest := duration.nanoseconds % Nat.pow 10 places
  let decimals := dropEndZeros (Decimal.padZeros places (toString rest))
  (if rest = 0 then whole else whole ++ "." ++ decimals) ++ unit

/-- A duration in the largest unit that it reaches. -/
def text (duration : Duration) : String :=
  if 1000000000 ≤ duration.nanoseconds then duration.textIn 9 "s"
  else if 1000000 ≤ duration.nanoseconds then duration.textIn 6 "ms"
  else if 1000 ≤ duration.nanoseconds then duration.textIn 3 "µs"
  else duration.textIn 0 "ns"

end Duration

end ValueEngine
