import EventFeed.Engine.Delivery

/-! What an engine does: it boots and runs subscriptions, and serves the requests of an operator. -/

namespace EventFeed

namespace Engine

variable {σ : Type}

/-- The end of a subscription that is done with the log. -/
def finish (engine : Engine σ) (subscription : Subscription) : Action σ Subscription := do
  engine.note (.finished subscription.id subscription.position)
  return subscription.finished

/-- What becomes of a subscription that has caught up. -/
def caughtUp (engine : Engine σ) (subscription : Subscription) : Action σ Subscription := do
  if subscription.runMode = .once then
    engine.finish subscription
  else
    engine.note (.active subscription.id subscription.position)
    return subscription.active

/-- What becomes of an active subscription at the end of the log: its retries are forgotten. -/
def keptUp (engine : Engine σ) (subscription : Subscription) : Action σ Subscription :=
  if subscription.runMode = .once then
    engine.finish subscription
  else return subscription.resetRetryAttempt

/-- Sets up new subscriptions, and feeds history to the ones that are catching up. -/
def boot (engine : Engine σ) (criteria : FeedCriteria) (limit : Option Nat) : Action σ FeedReport :=
  engine.store.guarded do
    let unit ← engine.discover criteria {}
    let unit ← engine.retry criteria [.new, .booting] unit
    let unit ← engine.markDetached criteria [.new, .booting] unit
    let (errors, unit) ← engine.setupNew criteria unit
    let (targets, unit) ← engine.targets criteria .booting unit
    engine.feed .booting limit .nothingToBoot engine.caughtUp errors targets unit

/-- Feeds new messages to active subscriptions, after failed ones have been put back. -/
def run (engine : Engine σ) (criteria : FeedCriteria) (limit : Option Nat) : Action σ FeedReport :=
  engine.store.guarded do
    let unit ← engine.discover criteria {}
    let unit ← engine.retry criteria [.new, .booting, .active] unit
    let unit ← engine.markDetached criteria [.active, .paused, .error] unit
    let (targets, unit) ← engine.targets criteria .active unit
    engine.feed .active limit .nothingActive engine.keptUp [] targets unit

/-- The report of a teardown hook that failed. -/
def teardownFailure (engine : Engine σ) (subscription : Subscription) (error : HandlerError) :
    Action σ SubscriptionFailure := do
  let captured := CapturedError.ofHandler error
  engine.note (.teardownFailed subscription.id captured)
  return ⟨subscription.id, captured⟩

/-- Runs the teardown hook of one subscription, if there is one. -/
def teardownOne (engine : Engine σ) (failures : List SubscriptionFailure)
    (subscription : Subscription) : Action σ (List SubscriptionFailure) := do
  match engine.registry.get? subscription.id with
  | none =>
    engine.note (.teardownOrphan subscription.id)
    return failures
  | some subscriber =>
    match subscriber.teardown with
    | none =>
      engine.note (.teardownAbsent subscription.id)
      return failures
    | some teardown =>
      match ← engine.call teardown with
      | .ok () =>
        engine.note (.teardownDone subscription.id)
        return failures
      | .error error => return failures ++ [← engine.teardownFailure subscription error]

/-- Runs the teardown hooks of outdated subscriptions, which stay stored. -/
def teardown (engine : Engine σ) (criteria : FeedCriteria) : Action σ (List SubscriptionFailure) :=
  engine.store.guarded do
    let unit ← engine.discover criteria {}
    let (found, _) ← unit.find engine.store (criteria.withStatuses [.outdated])
    found.foldlM engine.teardownOne []

/-- The failures of a teardown hook that is run because its subscription is removed. -/
def farewell (engine : Engine σ) (subscription : Subscription) :
    Action σ (List SubscriptionFailure) := do
  match (engine.registry.get? subscription.id).bind Subscriber.teardown with
  | none => return []
  | some teardown =>
    match ← engine.call teardown with
    | .ok () => return []
    | .error error => return [← engine.teardownFailure subscription error]

/-- Deletes one subscription after its teardown hook was run, whatever the hook did. -/
def removeOne (engine : Engine σ) (state : List SubscriptionFailure × WorkUnit)
    (subscription : Subscription) : Action σ (List SubscriptionFailure × WorkUnit) := do
  let failures ← engine.farewell subscription
  let unit ← state.2.remove engine.store subscription
  engine.note (.removed subscription.id subscription.status)
  return (state.1 ++ failures, unit)

/-- Deletes subscriptions, and runs the teardown hooks of those that have a subscriber. -/
def remove (engine : Engine σ) (criteria : FeedCriteria) : Action σ (List SubscriptionFailure) :=
  engine.store.guarded do
    let unit ← engine.discover criteria {}
    let (found, unit) ← unit.find engine.store criteria.toSubscriptions
    let (failures, _) ← found.foldlM engine.removeOne ([], unit)
    return failures

/-- Puts one subscription back to work, if it has a subscriber. -/
def reactivateOne (engine : Engine σ) (unit : WorkUnit) (subscription : Subscription) :
    Action σ WorkUnit := do
  if engine.registry.knows subscription.id then
    engine.note
      (.reactivated subscription.id subscription.status subscription.reactivate.status)
    return unit.update subscription.reactivate
  else
    engine.note (.reactivateOrphan subscription.id)
    return unit

/-- Puts failed, outdated, paused and finished subscriptions back to work. -/
def reactivate (engine : Engine σ) (criteria : FeedCriteria) : Action σ Unit :=
  engine.store.guarded do
    let unit ← engine.discover criteria {}
    let (found, unit) ←
      unit.find engine.store (criteria.withStatuses [.error, .outdated, .paused, .finished])
    let unit ← found.foldlM engine.reactivateOne unit
    let _ ← unit.flush engine.store

/-- Stops one subscription. -/
def pauseOne (engine : Engine σ) (unit : WorkUnit) (subscription : Subscription) :
    Action σ WorkUnit := do
  engine.note (.paused subscription.id)
  return unit.update subscription.pause

/-- Stops subscriptions, which keep their positions and failures. -/
def pause (engine : Engine σ) (criteria : FeedCriteria) : Action σ Unit :=
  engine.store.guarded do
    let unit ← engine.discover criteria {}
    let (found, unit) ←
      unit.find engine.store (criteria.withStatuses [.new, .booting, .active, .error])
    let unit ← found.foldlM engine.pauseOne unit
    let _ ← unit.flush engine.store

/-- The subscriptions that are meant, those of new subscribers included. -/
def subscriptions (engine : Engine σ) (criteria : FeedCriteria) : Action σ (List Subscription) :=
  engine.store.guarded do
    let unit ← engine.discover criteria {}
    let (found, _) ← unit.find engine.store criteria.toSubscriptions
    return found

end Engine

end EventFeed
