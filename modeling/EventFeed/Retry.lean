import EventFeed.Subscription.Basic
import EventFeed.Time.Seconds

/-! When a failed subscription may be tried again: never, always, or after a delay
that grows with each attempt. -/

namespace EventFeed

/-- Delays that grow by a factor with each attempt, up to a limit and for a
limited number of attempts. -/
structure Backoff where
  /-- The delay before the first retry. -/
  baseDelay : Duration := ⟨5 * nanosPerSecond, by decide⟩
  /-- What each delay is multiplied by to get the next one. -/
  delayFactor : Float := 2.0
  /-- No delay is longer. -/
  maxDelay : Option Duration := none
  maxAttempts : Nat := 5

namespace Backoff

/-- The delay before the retry after so many attempts; one that is no span
of time is the longest one. -/
def delay (backoff : Backoff) (attempt : Nat) : Duration :=
  let exponent := min attempt 0x7fffffff
  let seconds := backoff.baseDelay.toSeconds * power backoff.delayFactor exponent
  let delay := (Duration.ofSeconds? seconds).getD Duration.longest
  match backoff.maxDelay with
  | none => delay
  | some limit => delay.shorter limit

/-- A retry is due when attempts are left and the delay has passed since the last write. -/
def isDue (backoff : Backoff) (now : Timestamp) (subscription : Subscription) : Bool :=
  if backoff.maxAttempts ≤ subscription.retryAttempt then false
  else
    match subscription.lastSavedAt with
    | none => false
    | some saved => (saved.add (backoff.delay subscription.retryAttempt)).notAfter now

/-- The debugging text of the delays. -/
def debugText (backoff : Backoff) : String :=
  recordText "ClockBasedRetryStrategy"
    [("base_delay", backoff.baseDelay.text),
      ("delay_factor", (Double.ofFloat backoff.delayFactor).text),
      ("max_delay", optionText Duration.text backoff.maxDelay),
      ("max_attempts", toString backoff.maxAttempts)]

end Backoff

/-- How failed subscriptions are tried again. -/
inductive RetryStrategy where
  | never
  | always
  | delayed (backoff : Backoff)

/-- Whether a failed subscription is tried again at some time. -/
def RetryStrategy.approves (strategy : RetryStrategy) (now : Timestamp) (subscription : Subscription) :
    Bool :=
  match strategy with
  | never => false
  | always => true
  | delayed backoff => backoff.isDue now subscription

end EventFeed
