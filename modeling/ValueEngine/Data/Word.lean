/-!
# Numbers of 64 bits

Costs and bounds on jobs are whole numbers that fit in 64 bits.
-/

set_option autoImplicit false

namespace ValueEngine

/-- The greatest number of 64 bits. -/
def greatestWord : Nat := 18446744073709551615

end ValueEngine
