import EventFeed.Error
import EventFeed.Subscription.Failure
import EventFeed.Time.Timestamp

/-! A subscription: how far one subscriber has been fed, and the moves between its statuses. -/

namespace EventFeed

/-- The progress of one subscriber through the log. -/
structure Subscription where
  id : String
  /-- A name shared by subscriptions that are handled together. -/
  group : String := "default"
  /-- How history is treated. -/
  runMode : RunMode := .fromBeginning
  status : Status := .new
  /-- The index of the last message that was handled. -/
  position : Nat := 0
  /-- The failure it stopped on. -/
  error : Option SubscriptionError := none
  /-- How often it was retried since it last recovered. -/
  retryAttempt : Nat := 0
  /-- When a store last wrote it. -/
  lastSavedAt : Option Timestamp := none
deriving DecidableEq

namespace Subscription

/-- Takes a status, and leaves earlier failures and retries behind. -/
def settle (subscription : Subscription) (status : Status) : Subscription :=
  { subscription with status, error := none, retryAttempt := 0 }

/-- Starts to catch up. -/
def booting (subscription : Subscription) : Subscription := subscription.settle .booting

/-- Is fed with new messages from now on. -/
def active (subscription : Subscription) : Subscription := subscription.settle .active

def finished (subscription : Subscription) : Subscription := subscription.settle .finished

def outdated (subscription : Subscription) : Subscription := subscription.settle .outdated

/-- Stops, and keeps its failure and its retries. -/
def pause (subscription : Subscription) : Subscription := { subscription with status := .paused }

/-- Moves forward to an index; it never moves back. -/
def changePosition (subscription : Subscription) (index : Nat) : Subscription :=
  { subscription with position := max subscription.position index }

/-- The status to go back to: that of the kept failure while in error, and otherwise a fallback. -/
def statusBefore (subscription : Subscription) (fallback : Status) : Status :=
  match subscription.error, subscription.status with
  | some error, .error => error.previous
  | _, _ => fallback

/-- Stops on a failure; a failure on top of another one keeps the status to go back to. -/
def fail (subscription : Subscription) (error : CapturedError) : Subscription :=
  let previous := subscription.statusBefore subscription.status
  { subscription with status := .error, error := some (SubscriptionError.ofCaptured previous error) }

/-- Goes back to the status it failed in, and counts one more retry. -/
def retry (subscription : Subscription) : Except EngineError Subscription :=
  match subscription.error with
  | none => .error (.noErrorToRetry subscription.id)
  | some error =>
    .ok { subscription with
      status := error.previous, error := none, retryAttempt := subscription.retryAttempt + 1 }

/-- Goes back to the status it failed in, or becomes active, with a clean slate. -/
def reactivate (subscription : Subscription) : Subscription :=
  subscription.settle (subscription.statusBefore .active)

/-- Forgets its retries. -/
def resetRetryAttempt (subscription : Subscription) : Subscription :=
  { subscription with retryAttempt := 0 }

/-- Notes when it was written. -/
def markSaved (subscription : Subscription) (now : Timestamp) : Subscription :=
  { subscription with lastSavedAt := some now }

/-- The fields of a subscription, in order. -/
def fieldNames : List String :=
  ["id", "group", "run_mode", "status", "position", "error", "retry_attempt", "last_saved_at"]

def timestampDocument (point : Timestamp) : Document := .ofInt point.micros.toInt

def timestamp? (document : Document) : Option Timestamp := document.int64?.map Timestamp.mk

/-- A subscription as a record. -/
def toDocument (layout : Layout) (subscription : Subscription) : Document :=
  Document.record layout
    [("id", .text subscription.id), ("group", .text subscription.group),
      ("run_mode", subscription.runMode.toDocument), ("status", subscription.status.toDocument),
      ("position", .natural subscription.position),
      ("error", .ofOption (SubscriptionError.toDocument layout) subscription.error),
      ("retry_attempt", .natural subscription.retryAttempt),
      ("last_saved_at", .ofOption timestampDocument subscription.lastSavedAt)]

/-- Reads a subscription; positions have 64 bits and retries 32. -/
def ofDocument? (document : Document) : Option Subscription := do
  let [id, group, runMode, status, position, error, retryAttempt, lastSavedAt] ←
    document.fields? fieldNames | none
  return {
    id := ← Document.required Document.text? id
    group := ← Document.required Document.text? group
    runMode := ← Document.required RunMode.ofDocument? runMode
    status := ← Document.required Status.ofDocument? status
    position := ← Document.required (Document.naturalBelow? UInt64.size) position
    error := ← Document.optional SubscriptionError.ofDocument? error
    retryAttempt := ← Document.required (Document.naturalBelow? UInt32.size) retryAttempt
    lastSavedAt := ← Document.optional timestamp? lastSavedAt }

end Subscription

end EventFeed
