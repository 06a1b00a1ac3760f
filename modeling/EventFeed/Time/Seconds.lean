import EventFeed.Number.Double
import EventFeed.Time.Duration

/-! Spans of time as floating-point seconds, and the exact rounding back to nanoseconds. -/

namespace EventFeed

/-- Repeated squaring, in the order of multiplications that fixes every rounding. -/
def powerFrom (result base : Float) (exponent : Nat) : Float :=
  let result := if exponent % 2 = 1 then result * base else result
  if exponent / 2 = 0 then result else powerFrom result (base * base) (exponent / 2)
termination_by exponent
decreasing_by omega

/-- A power with a whole exponent. -/
def power (base : Float) (exponent : Nat) : Float := powerFrom 1.0 base exponent

namespace Duration

/-- The span in seconds, as the sum of two rounded parts. -/
def toSeconds (span : Duration) : Float :=
  span.seconds.toUInt64.toFloat + span.subsecond.toUInt64.toFloat / 1000000000.0

/-- The nearest whole nanosecond, a half going to the even one; numbers below zero and past the
longest span have none. -/
def ofSeconds? (seconds : Float) : Option Duration :=
  match Double.ofFloat seconds with
  | .finite negative significand exponent =>
    if negative ∧ 0 < significand then none
    else ofNanos? (scaledHalfEven significand exponent nanosPerSecond)
  | _ => none

end Duration

end EventFeed
