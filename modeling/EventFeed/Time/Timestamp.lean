import EventFeed.Time.Duration

/-! Points in time as 64-bit microseconds since the epoch; arithmetic stops
at both ends of the range. -/

namespace EventFeed

/-- A point in time, in microseconds since the epoch. -/
structure Timestamp where
  micros : Int64
deriving DecidableEq

namespace Timestamp

def epoch : Timestamp := ⟨0⟩

/-- The last point in time. -/
def latest : Timestamp := ⟨Int64.maxValue⟩

/-- The point so many seconds after the epoch, or the nearest one in range. -/
def ofSeconds (seconds : Int64) : Timestamp :=
  ⟨Int64.ofIntClamp (seconds.toInt * 1000000)⟩

/-- A span is counted in whole microseconds, which are clamped before and after they are added. -/
def add (start : Timestamp) (span : Duration) : Timestamp :=
  let step : Int64 := Int64.ofIntClamp span.micros
  ⟨Int64.ofIntClamp (start.micros.toInt + step.toInt)⟩

/-- The span since an earlier point; a later point gives the empty span. -/
def since (later earlier : Timestamp) : Duration :=
  let micros : Int64 := Int64.ofIntClamp (later.micros.toInt - earlier.micros.toInt)
  (Duration.ofNanos? (micros.toInt.toNat * 1000)).getD Duration.longest

/-- Whether one point is not after another. -/
def notAfter (left right : Timestamp) : Bool := decide (left.micros ≤ right.micros)

/-- Points in time are ordered by their microseconds. -/
protected def compare (left right : Timestamp) : Ordering := compare left.micros.toInt right.micros.toInt

/-- A point in time is written as its microseconds. -/
def text (point : Timestamp) : String := toString point.micros.toInt

/-- The debugging text names the type around the microseconds. -/
def debugText (point : Timestamp) : String := "Timestamp(" ++ point.text ++ ")"

end Timestamp

/-- A clock that moves only when it is told to. -/
structure FrozenClock where
  now : Timestamp
deriving DecidableEq

namespace FrozenClock

def set (_clock : FrozenClock) (point : Timestamp) : FrozenClock := ⟨point⟩

/-- Moves the clock forward by a span. -/
def advance (clock : FrozenClock) (span : Duration) : FrozenClock := ⟨clock.now.add span⟩

end FrozenClock

end EventFeed
