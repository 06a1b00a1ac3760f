import EventFeed.Engine.Basic

/-! The phases that precede the feeding of messages: discovery, retries, detachment and setup. -/

namespace EventFeed

namespace Engine

variable {σ : Type}

/-- A new subscription for a subscriber. -/
def freshSubscription (subscriber : Subscriber σ) : Subscription :=
  { id := subscriber.id, group := subscriber.group, runMode := subscriber.runMode }

/-- Keeps a new subscription back for a subscriber that is meant and not known yet. -/
def discoverOne (engine : Engine σ) (criteria : FeedCriteria) (known : List String) (unit : WorkUnit)
    (subscriber : Subscriber σ) : Action σ WorkUnit :=
  if criteria.admits subscriber.id subscriber.group ∧ subscriber.id ∉ known then do
    engine.note (.discovered subscriber.id subscriber.group)
    return unit.add (freshSubscription subscriber)
  else return unit

/-- Adds a new subscription for every subscriber that is meant and has none. -/
def discover (engine : Engine σ) (criteria : FeedCriteria) (unit : WorkUnit) : Action σ WorkUnit := do
  let (stored, unit) ← unit.find engine.store {}
  let known := stored.map Subscription.id
  let unit ← engine.registry.subscribers.foldlM (engine.discoverOne criteria known) unit
  let (_, unit) ← unit.flush engine.store
  return unit

/-- Puts one failed subscription back, if it failed in one of some statuses and is approved. -/
def retryOne (engine : Engine σ) (failedIn : List Status) (unit : WorkUnit)
    (subscription : Subscription) : Action σ WorkUnit := do
  if subscription.error.any fun error => error.previous ∉ failedIn then
    return unit
  if !engine.retries (← get) subscription then
    engine.note (.retryDeferred subscription.id subscription.retryAttempt)
    return unit
  match subscription.retry with
  | .error error =>
    engine.note (.retryImpossible subscription.id error)
    return unit
  | .ok subscription =>
    engine.note (.retrying subscription.id subscription.status subscription.retryAttempt)
    return unit.update subscription

/-- Puts approved subscriptions that failed in one of some statuses back into that status. -/
def retry (engine : Engine σ) (criteria : FeedCriteria) (failedIn : List Status) (unit : WorkUnit) :
    Action σ WorkUnit := do
  let (failed, unit) ← unit.find engine.store (criteria.withStatuses [.error])
  let unit ← failed.foldlM (engine.retryOne failedIn) unit
  let (_, unit) ← unit.flush engine.store
  return unit

/-- Marks one subscription whose subscriber is gone. -/
def detachOne (engine : Engine σ) (unit : WorkUnit) (subscription : Subscription) :
    Action σ WorkUnit :=
  if engine.registry.knows subscription.id then return unit
  else do
    engine.note (.detached subscription.id subscription.status)
    return unit.update subscription.outdated

/-- Marks the subscriptions in some statuses whose subscriber is gone. -/
def markDetached (engine : Engine σ) (criteria : FeedCriteria) (statuses : List Status)
    (unit : WorkUnit) : Action σ WorkUnit := do
  let (found, unit) ← unit.find engine.store (criteria.withStatuses statuses)
  let unit ← found.foldlM engine.detachOne unit
  let (_, unit) ← unit.flush engine.store
  return unit

/-- What the setup of new subscriptions has come to. -/
structure SetupState where
  unit : WorkUnit
  /-- The end of the log, once it has been looked up. -/
  latest : Option Nat := none
  errors : List SubscriptionFailure := []

/-- The end of the log, looked up at most once. -/
def latestOnce (engine : Engine σ) (latest : Option Nat) : Action σ Nat :=
  match latest with
  | some index => return index
  | none => engine.latestIndex

/-- Starts a subscription that has been set up. -/
def start (engine : Engine σ) (state : SetupState) (subscription : Subscription) :
    Action σ SetupState := do
  if subscription.runMode = .fromNow then
    let index ← engine.latestOnce state.latest
    engine.note (.activeFromNow subscription.id index)
    let unit := state.unit.update (subscription.changePosition index).active
    return { state with unit, latest := some index }
  else
    engine.note (.booting subscription.id)
    return { state with unit := state.unit.update subscription.booting }

/-- Sets up one new subscription: its setup hook comes first, and a failure of it is kept. -/
def setupOne (engine : Engine σ) (state : SetupState) (subscription : Subscription) :
    Action σ SetupState := do
  match engine.registry.get? subscription.id with
  | none => return state
  | some subscriber =>
    match subscriber.setup with
    | none => engine.start state subscription
    | some setup =>
      match ← engine.call setup with
      | .error error =>
        let (subscription, failure) ← engine.fail subscription error
        return { state with
          unit := state.unit.update subscription, errors := state.errors ++ [failure] }
      | .ok () =>
        engine.note (.setupDone subscription.id)
        engine.start state subscription

/-- Sets up the new subscriptions that have a subscriber. -/
def setupNew (engine : Engine σ) (criteria : FeedCriteria) (unit : WorkUnit) :
    Action σ (List SubscriptionFailure × WorkUnit) := do
  let (found, unit) ← unit.find engine.store (criteria.withStatuses [.new])
  let state ← found.foldlM engine.setupOne { unit }
  let (_, unit) ← state.unit.flush engine.store
  return (state.errors, unit)

/-- The subscriptions in a status that have a subscriber. -/
def targets (engine : Engine σ) (criteria : FeedCriteria) (status : Status) (unit : WorkUnit) :
    Action σ (List (Target σ) × WorkUnit) := do
  let (found, unit) ← unit.find engine.store (criteria.withStatuses [status])
  let targets := found.filterMap fun subscription =>
    (engine.registry.get? subscription.id).map fun subscriber => { subscription, subscriber }
  return (targets, unit)

end Engine

end EventFeed
