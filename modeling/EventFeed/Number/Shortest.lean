import EventFeed.Number.Double

/-! The shortest decimal that reads back as a given double, and the text built from its digits. -/

namespace EventFeed

/-- A decimal: a whole number of digits times a power of ten. -/
structure Digits where
  /-- The digits as one whole number. -/
  value : Nat
  /-- The power of ten of the last digit. -/
  exponent : Int
deriving DecidableEq

namespace Digits

/-- A nonnegative rational number as numerator and denominator. -/
structure Ratio where
  numerator : Nat
  denominator : Nat

/-- The ratio `whole * 2 ^ exponent`. -/
def Ratio.binary (whole : Nat) (exponent : Int) : Ratio :=
  if 0 ≤ exponent then ⟨whole * Nat.pow 2 exponent.toNat, 1⟩
  else ⟨whole, Nat.pow 2 (-exponent).toNat⟩

/-- The ratio `whole * 10 ^ exponent`. -/
def Ratio.decimal (whole : Nat) (exponent : Int) : Ratio :=
  if 0 ≤ exponent then ⟨whole * Nat.pow 10 exponent.toNat, 1⟩
  else ⟨whole, Nat.pow 10 (-exponent).toNat⟩

/-- Ratios compare by cross multiplication. -/
def Ratio.le (left right : Ratio) : Bool :=
  decide (left.numerator * right.denominator ≤ right.numerator * left.denominator)

/-- The distance between two ratios. -/
def Ratio.distance (left right : Ratio) : Ratio :=
  let a := left.numerator * right.denominator
  let b := right.numerator * left.denominator
  ⟨if a ≤ b then b - a else a - b, left.denominator * right.denominator⟩

/-- The rationals that round to a double, ends included exactly when its significand is even. -/
structure Interval where
  low : Ratio
  high : Ratio
  closed : Bool

/-- Half a step to either side; the step below a power of two is half as wide. -/
def Interval.around (significand : Nat) (exponent : Int) : Interval where
  low :=
    if significand = Double.leadingBit ∧ -1074 < exponent then
      Ratio.binary (4 * significand - 1) (exponent - 2)
    else Ratio.binary (2 * significand - 1) (exponent - 1)
  high := Ratio.binary (2 * significand + 1) (exponent - 1)
  closed := significand % 2 == 0

/-- Whether a ratio lies in the interval. -/
def Interval.contains (interval : Interval) (ratio : Ratio) : Bool :=
  if interval.closed then interval.low.le ratio && ratio.le interval.high
  else !(ratio.le interval.low) && !(interval.high.le ratio)

/-- The better of the two neighbours of `exact` on the grid of multiples of `10 ^ exponent`. -/
def onGrid? (exact : Ratio) (interval : Interval) (exponent : Int) : Option Digits :=
  let scaled : Ratio :=
    if 0 ≤ exponent then ⟨exact.numerator, exact.denominator * Nat.pow 10 exponent.toNat⟩
    else ⟨exact.numerator * Nat.pow 10 (-exponent).toNat, exact.denominator⟩
  let below := scaled.numerator / scaled.denominator
  let lower := Ratio.decimal below exponent
  let upper := Ratio.decimal (below + 1) exponent
  match interval.contains lower && 0 < below, interval.contains upper with
  | false, false => none
  | true, false => some ⟨below, exponent⟩
  | false, true => some ⟨below + 1, exponent⟩
  | true, true =>
    -- The nearer neighbour wins, and a tie goes to the greater one.
    if (exact.distance upper).le (exact.distance lower) then some ⟨below + 1, exponent⟩
    else some ⟨below, exponent⟩

/-- The first hit on ever finer grids, starting at `10 ^ exponent`. -/
def search (exact : Ratio) (interval : Interval) : (grids : Nat) → (exponent : Int) → Option Digits
  | 0, _ => none
  | grids + 1, exponent =>
    match onGrid? exact interval exponent with
    | some digits => some digits
    | none => search exact interval grids (exponent - 1)

/-- Removes trailing zeros. -/
def trim (digits : Digits) : Digits :=
  if _positive : 0 < digits.value then
    if digits.value % 10 = 0 then trim ⟨digits.value / 10, digits.exponent + 1⟩ else digits
  else digits
termination_by digits.value
decreasing_by exact Nat.div_lt_self _positive (by decide)

/-- The fewest digits that read back as `significand * 2 ^ exponent`, and of those the nearest. -/
def shortest (significand : Nat) (exponent : Int) : Digits :=
  -- No finite double reaches 10 ^ 309, and seventeen digits always suffice.
  ((search (Ratio.binary significand exponent) (Interval.around significand exponent) 650 309).getD
    ⟨0, 0⟩).trim

/-- How many digits there are before the exponent applies. -/
def count (digits : Digits) : Nat := (toString digits.value).length

/-- The power of ten of the first digit. -/
def magnitude (digits : Digits) : Int := digits.exponent + digits.count - 1

/-- The digits around a decimal point, with at least one digit on either side. -/
def positional (digits : Digits) : String :=
  let text := (toString digits.value).toList
  if 0 ≤ digits.exponent then
    String.ofList (text ++ List.replicate digits.exponent.toNat '0') ++ ".0"
  else
    let places := (-digits.exponent).toNat
    let padded := List.replicate (places + 1 - text.length) '0' ++ text
    String.ofList (padded.take (padded.length - places)) ++ "." ++
      String.ofList (padded.drop (padded.length - places))

/-- One digit before the point, and the power of ten after an `e`. -/
def scientific (digits : Digits) : String :=
  let tail := match (toString digits.value).toList with
    | [] => ""
    | [first] => String.singleton first
    | first :: rest => String.singleton first ++ "." ++ String.ofList rest
  tail ++ "e" ++ toString digits.magnitude

end Digits

namespace Double

/-- Numbers from 1e-4 up to 1e16 are written with a point, the others with a power of ten. -/
def text : Double → String
  | undefined => "NaN"
  | infinite negative => if negative then "-inf" else "inf"
  | finite negative significand exponent =>
    let sign := if negative then "-" else ""
    if significand = 0 then sign ++ "0.0"
    else
      let digits := Digits.shortest significand exponent
      if -4 ≤ digits.magnitude ∧ digits.magnitude < 16 then sign ++ digits.positional
      else sign ++ digits.scientific

end Double

end EventFeed
