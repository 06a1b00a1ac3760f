/-! Spans of time counted in nanoseconds, up to the longest span that a
64-bit count of seconds can name. -/

namespace EventFeed

def nanosPerSecond : Nat := 1000000000

/-- A span of time shorter than 2 ^ 64 seconds. -/
structure Duration where
  nanos : Nat
  /-- No span reaches 2 ^ 64 seconds. -/
  bounded : nanos < UInt64.size * nanosPerSecond
deriving DecidableEq

namespace Duration

def zero : Duration := ⟨0, by decide⟩

def longest : Duration := ⟨UInt64.size * nanosPerSecond - 1, by decide⟩

/-- The span of so many nanoseconds, when there is one. -/
def ofNanos? (nanos : Nat) : Option Duration :=
  if bounded : nanos < UInt64.size * nanosPerSecond then some ⟨nanos, bounded⟩ else none

/-- The span of whole seconds and the nanoseconds beyond them, when there is one. -/
def ofParts? (seconds subsecond : Nat) : Option Duration :=
  ofNanos? (seconds * nanosPerSecond + subsecond)

def seconds (span : Duration) : Nat := span.nanos / nanosPerSecond

/-- Nanoseconds beyond the whole seconds. -/
def subsecond (span : Duration) : Nat := span.nanos % nanosPerSecond

def micros (span : Duration) : Nat := span.nanos / 1000

/-- The shorter of two spans. -/
def shorter (left right : Duration) : Duration :=
  if left.nanos ≤ right.nanos then left else right

/-- Decimal places of a fraction below `10 * unit`, without trailing zeros. -/
def places (fraction unit : Nat) : List Char :=
  if fraction = 0 ∨ unit = 0 then []
  else (fraction / unit).digitChar :: places (fraction % unit) (unit / 10)
termination_by unit
decreasing_by omega

/-- A quantity in one unit, followed by the unit's name. -/
def quantity (whole fraction unit : Nat) (name : String) : String :=
  let digits := String.ofList (places fraction unit)
  if digits.isEmpty then toString whole ++ name else toString whole ++ "." ++ digits ++ name

/-- A span is written in the largest of seconds, milliseconds, microseconds
and nanoseconds that it fills. -/
def text (span : Duration) : String :=
  if 0 < span.seconds then quantity span.seconds span.subsecond 100000000 "s"
  else if 1000000 ≤ span.nanos then quantity (span.nanos / 1000000) (span.nanos % 1000000) 100000 "ms"
  else if 1000 ≤ span.nanos then quantity (span.nanos / 1000) (span.nanos % 1000) 100 "µs"
  else quantity span.nanos 0 1 "ns"

end Duration

end EventFeed
