import EventFeed.Engine.Phases

/-! The feeding of messages: one window of the log is read once, and each
message is offered to every target. -/

namespace EventFeed

/-- What a window of messages has come to. -/
structure Window (σ : Type) where
  unit : WorkUnit
  targets : List (Target σ)
  errors : List SubscriptionFailure := []
  /-- How many messages have been read. -/
  processed : Nat := 0
  /-- How many messages have been read since positions were written. -/
  sinceFlush : Nat := 0
  /-- Whether the log was read to its end. -/
  finished : Bool := false

namespace Engine

variable {σ : Type}

/-- Offers a message to one target; it is handed over while the target is in the
status and behind the message. -/
def offer (engine : Engine σ) (status : Status) (index : Nat) (message : Message) (target : Target σ) :
    Action σ (Target σ × Option SubscriptionFailure) := do
  let subscription := target.subscription
  if subscription.status ≠ status then
    return (target, none)
  if index ≤ subscription.position then
    engine.note (.alreadyHandled subscription.id index subscription.position)
    return (target, none)
  engine.note (.dispatching subscription.id index message.eventType)
  match ← engine.handle target.subscriber message with
  | .ok () =>
    engine.note (.handled subscription.id index)
    return ({ target with subscription := subscription.changePosition index }, none)
  | .error error =>
    let (subscription, failure) ← engine.fail subscription error
    return ({ target with subscription }, some failure)

/-- Offers a message to every target, and counts it. -/
def offerAll (engine : Engine σ) (status : Status) (index : Nat) (message : Message)
    (window : Window σ) : Action σ (Window σ) := do
  let offered ← window.targets.mapM (engine.offer status index message)
  return { window with
    targets := offered.map Prod.fst
    errors := window.errors ++ offered.filterMap Prod.snd
    processed := window.processed + 1
    sinceFlush := window.sinceFlush + 1 }

/-- Writes the positions of a window. -/
def persistWindow (engine : Engine σ) (window : Window σ) : Action σ (Window σ) := do
  let unit ← engine.persist window.unit window.targets
  return { window with unit }

/-- Writes the positions of a window when the interval is over. -/
def flushWhenDue (engine : Engine σ) (window : Window σ) : Action σ (Window σ) :=
  if engine.config.flushInterval.any fun interval => decide (interval ≤ window.sinceFlush) then do
    let window ← engine.persistWindow window
    return { window with sinceFlush := 0 }
  else return window

/-- Feeds loaded messages to the targets; at the limit the window ends, even where nothing follows. -/
def deliver (engine : Engine σ) (status : Status) (limit : Option Nat) (window : Window σ) :
    List LogItem → Action σ (Window σ)
  | [] => return { window with finished := true }
  | item :: rest => do
    let (index, message) ← Action.ofExcept item
    let window ← engine.offerAll status index message window
    let window ← engine.flushWhenDue window
    if limit.any fun limit => decide (limit ≤ window.processed) then
      engine.persistWindow window
    else engine.deliver status limit window rest

/-- The lowest position of some targets, or zero if there are none. -/
def lowestPosition (targets : List (Target σ)) : Nat :=
  (targets.map fun target => target.subscription.position).min?.getD 0

/-- Loads the log after the lowest position, and feeds it to the targets. -/
def process (engine : Engine σ) (status : Status) (limit : Option Nat) (window : Window σ) :
    Action σ (Window σ) := do
  let start := lowestPosition window.targets
  engine.note (.loading start window.targets.length)
  let items ← Action.ofStep (engine.source.load (LogCriteria.after start) {})
  engine.deliver status limit window items

/-- Changes the targets that are still in a status, one after another. -/
def settleTargets (status : Status) (change : Subscription → Action σ Subscription)
    (targets : List (Target σ)) : Action σ (List (Target σ)) :=
  targets.mapM fun target => do
    if target.subscription.status = status then
      return { target with subscription := ← change target.subscription }
    else return target

/-- Feeds targets; after the end of the log those still in the status are changed and written. -/
def feed (engine : Engine σ) (status : Status) (limit : Option Nat) (idle : Notice)
    (change : Subscription → Action σ Subscription) (errors : List SubscriptionFailure)
    (targets : List (Target σ)) (unit : WorkUnit) : Action σ FeedReport := do
  if targets.isEmpty then
    engine.note idle
    return { processed := 0, finished := true, errors }
  let window ← engine.process status limit { unit, targets, errors }
  if window.finished then
    let targets ← settleTargets status change window.targets
    let _ ← engine.persist window.unit targets
  return { processed := window.processed, finished := window.finished, errors := window.errors }

end Engine

end EventFeed
