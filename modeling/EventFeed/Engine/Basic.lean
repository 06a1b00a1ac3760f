import EventFeed.Engine.Notice
import EventFeed.Engine.WorkUnit
import EventFeed.Log.Basic
import EventFeed.Subscriber.Registry

/-! The engine: the log it reads, the subscriptions it keeps, the subscribers
it feeds, and its settings. -/

namespace EventFeed

variable {σ α : Type}

/-- One item of a loaded log; reading on past an error is not possible. -/
abbrev LogItem : Type := Except EngineError (Nat × Message)

/-- A log of messages, as operations on the system it lives in. -/
structure EventSource (σ : Type) where
  /-- The messages that are meant, with their indices, as they are at the time of the call. -/
  load : LogCriteria → LoadOptions → σ → Except EngineError (List LogItem) × σ
  /-- Waits for new messages, at most so long. -/
  wait : Duration → σ → Except EngineError Unit × σ

/-- Settings of an engine. -/
structure EngineConfig where
  /-- After how many messages of a window positions are written, besides at its end. -/
  flushInterval : Option Nat := none
  /-- Whether a panic of subscriber code counts as a failure of its subscription. -/
  catchPanics : Bool := true
deriving DecidableEq

/-- A failure of one subscription, as it is reported. -/
structure SubscriptionFailure where
  id : String
  error : CapturedError
deriving DecidableEq

/-- The report of one call of `boot` or `run`. -/
structure FeedReport where
  processed : Nat
  /-- Whether the log was read to its end. -/
  finished : Bool
  errors : List SubscriptionFailure
deriving DecidableEq

def FeedReport.hasErrors (report : FeedReport) : Bool := !report.errors.isEmpty

/-- An engine on a system of type `σ`. -/
structure Engine (σ : Type) where
  source : EventSource σ
  store : SubscriptionStore σ
  registry : Registry σ
  /-- Whether a failed subscription is tried again. -/
  retries : σ → Subscription → Bool
  config : EngineConfig := {}
  /-- Takes in a report. -/
  observe : Notice → σ → σ

/-- A subscription that is fed with messages, and its subscriber. -/
structure Target (σ : Type) where
  subscription : Subscription
  subscriber : Subscriber σ

namespace Engine

def note (engine : Engine σ) (notice : Notice) : Action σ Unit := modify (engine.observe notice)

/-- Runs subscriber code; a panic is a failure where panics are caught, and
ends everything where not. -/
def call (engine : Engine σ) (hook : Hook σ) : Action σ (Except HandlerError Unit) := fun system =>
  match hook system with
  | (.done, next) => .ok (.ok ()) next
  | (.failed error, next) => .ok (.error error) next
  | (.panicked payload, next) =>
    if engine.config.catchPanics then .ok (.error (HandlerError.ofPanic payload)) next
    else .error (.panicked payload) next

/-- Calls handlers in order, up to the first one that fails. -/
def callAll (engine : Engine σ) (message : Message) :
    List (Handler σ) → Action σ (Except HandlerError Unit)
  | [] => pure (.ok ())
  | handler :: rest => do
    match ← engine.call (handler message) with
    | .error error => return .error error
    | .ok () => engine.callAll message rest

/-- Hands a message to every handler that the subscriber has for it. -/
def handle (engine : Engine σ) (subscriber : Subscriber σ) (message : Message) :
    Action σ (Except HandlerError Unit) :=
  engine.callAll message (subscriber.handlersFor message.eventType)

/-- Stops a subscription on a failure, and reports it. -/
def fail (engine : Engine σ) (subscription : Subscription) (error : HandlerError) :
    Action σ (Subscription × SubscriptionFailure) := do
  let captured := CapturedError.ofHandler error
  engine.note (.failed subscription.id subscription.status subscription.position captured)
  return (subscription.fail captured, ⟨subscription.id, captured⟩)

/-- The greatest index in the log, or zero for an empty log. -/
def latestIndex (engine : Engine σ) : Action σ Nat := do
  match ← Action.ofStep (engine.source.load {} LoadOptions.latest) with
  | [] => return 0
  | item :: _ =>
    let (index, _) ← Action.ofExcept item
    return index

/-- Keeps back the subscriptions of the targets. -/
def updateAll (targets : List (Target σ)) (unit : WorkUnit) : WorkUnit :=
  targets.foldl (fun unit target => unit.update target.subscription) unit

/-- Writes the subscriptions of the targets, where they differ from what is stored. -/
def persist (engine : Engine σ) (unit : WorkUnit) (targets : List (Target σ)) : Action σ WorkUnit := do
  let (_, unit) ← (updateAll targets unit).flush engine.store
  return unit

end Engine

end EventFeed
