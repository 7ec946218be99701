/-!
# Binary numbers with a fixed number of places

A binary floating point number is written with a fixed number of decimal places.
The number is taken exactly, as a whole number times a power of two, and rounded
once; of two decimals that are equally near, the even one is taken
(`roundDiv`). The sign is kept, also in front of zero.
-/

set_option autoImplicit false

namespace ValueEngine.Decimal

/-- The whole number nearest to a quotient, the even one of two that are equally
near. -/
def roundDiv (numerator denominator : Nat) : Nat :=
  let quotient := numerator / denominator
  let twice := 2 * (numerator % denominator)
  if twice < denominator then quotient
  else if denominator < twice then quotient + 1
  else if quotient % 2 = 0 then quotient
  else quotient + 1

/-- The nearest whole number is at most half a unit away. -/
theorem roundDiv_near (numerator denominator : Nat) (positive : 0 < denominator) :
    2 * (roundDiv numerator denominator * denominator) ≤ 2 * numerator + denominator ∧
      2 * numerator ≤ 2 * (roundDiv numerator denominator * denominator) + denominator := by
  have parts := Nat.div_add_mod numerator denominator
  have below := Nat.mod_lt numerator positive
  have swap : numerator / denominator * denominator = denominator * (numerator / denominator) :=
    Nat.mul_comm _ _
  have next : (numerator / denominator + 1) * denominator =
      denominator * (numerator / denominator) + denominator := by
    rw [Nat.add_mul, swap, Nat.one_mul]
  unfold roundDiv
  simp only
  split
  · omega
  · split
    · omega
    · split <;> omega

/-- A floating point number: none, an infinity, or a whole number times a power
of two. -/
inductive Binary where
  /-- Not a number. -/
  | nan
  /-- One of the two infinities. -/
  | infinite (negative : Bool)
  /-- The number `significand * 2 ^ exponent` with its sign. -/
  | finite (negative : Bool) (significand : Nat) (exponent : Int)
deriving DecidableEq

/-- The number with a given pattern of 64 bits. -/
def Binary.ofBits (bits : Nat) : Binary :=
  let negative := decide (bits / Nat.pow 2 63 % 2 = 1)
  let exponent : Nat := bits / Nat.pow 2 52 % Nat.pow 2 11
  let fraction := bits % Nat.pow 2 52
  if exponent = 2047 then
    if fraction = 0 then .infinite negative else .nan
  else if exponent = 0 then .finite negative fraction (-1074)
  else .finite negative (Nat.pow 2 52 + fraction) (exponent - 1075)

/-- A number of digits, with zeros in front where there are fewer. -/
def padZeros (width : Nat) (digits : String) : String :=
  "".pushn '0' (width - digits.length) ++ digits

/-- A whole number of tenths, hundredths and so on as a decimal. -/
def scaledText (places scaled : Nat) : String :=
  toString (scaled / Nat.pow 10 places) ++ "." ++
    padZeros places (toString (scaled % Nat.pow 10 places))

/-- A number with a fixed number of decimal places. -/
def Binary.fixed (places : Nat) : Binary → String
  | nan => "NaN"
  | infinite negative => if negative then "-inf" else "inf"
  | finite negative significand exponent =>
    let scaled := roundDiv (significand * Nat.pow 10 places * Nat.pow 2 exponent.toNat)
      (Nat.pow 2 (-exponent).toNat)
    (if negative then "-" else "") ++ scaledText places scaled

/-- A floating point number with one decimal place. -/
def oneDecimal (value : Float) : String := (Binary.ofBits value.toBits.toNat).fixed 1

end ValueEngine.Decimal
