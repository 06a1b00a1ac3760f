/-! The exact value of a double: a signed whole number of steps of a power of
two, an infinity, or no number. -/

namespace EventFeed

/-- What a double stands for. -/
inductive Double where
  /-- The number `± significand * 2 ^ exponent`. -/
  | finite (negative : Bool) (significand : Nat) (exponent : Int)
  | infinite (negative : Bool)
  | undefined
deriving DecidableEq

namespace Double

/-- The implicit leading bit of a significand, above its fifty-two fraction bits. -/
def leadingBit : Nat := 0x10000000000000

/-- Reads the sign, the eleven exponent bits and the fifty-two fraction bits. -/
def ofBits (bits : UInt64) : Double :=
  let negative := decide (0x8000000000000000 ≤ bits.toNat)
  let scale : Nat := bits.toNat / leadingBit % 0x800
  let fraction : Nat := bits.toNat % leadingBit
  if scale = 2047 then
    if fraction = 0 then .infinite negative else .undefined
  -- The lowest scale has no implicit leading bit.
  else if scale = 0 then .finite negative fraction (-1074)
  else .finite negative (leadingBit + fraction) ((scale : Int) - 1075)

/-- The exact value of a machine double. -/
def ofFloat (value : Float) : Double := ofBits value.toBits

end Double

/-- The whole number nearest to a quotient; a half goes to the even neighbour. -/
def roundHalfEven (numerator denominator : Nat) : Nat :=
  let whole := numerator / denominator
  let twice := 2 * (numerator % denominator)
  if twice < denominator then whole
  else if denominator < twice then whole + 1
  else whole + whole % 2

/-- The whole number nearest to `significand * 2 ^ exponent * factor`; a half
goes to the even neighbour. -/
def scaledHalfEven (significand : Nat) (exponent : Int) (factor : Nat) : Nat :=
  if 0 ≤ exponent then significand * Nat.pow 2 exponent.toNat * factor
  else roundHalfEven (significand * factor) (Nat.pow 2 (-exponent).toNat)

end EventFeed
