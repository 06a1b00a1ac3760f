import EventFeed.Message.Basic
import EventFeed.Subscription.Criteria

/-! Subscribers: an id, a group, a run mode, and the hooks and handlers that are called for them. -/

namespace EventFeed

/-- How a call of subscriber code ends. -/
inductive HandlerOutcome where
  | done
  | failed (error : HandlerError)
  | panicked (payload : PanicPayload)
deriving DecidableEq

/-- Subscriber code, which may do anything to the system it is called on. -/
abbrev Hook (σ : Type) : Type := σ → HandlerOutcome × σ

/-- Subscriber code that is called with a message. -/
abbrev Handler (σ : Type) : Type := Message → Hook σ

variable {ι σ : Type}

/-- One row of a handler table; the code belongs to a subscriber of type `ι`. -/
structure HandlerEntry (ι σ : Type) where
  /-- The event type it is for, or none for every event type. -/
  eventType : Option String
  handler : ι → Handler σ

namespace HandlerEntry

/-- Whether messages of an event type are handed to this entry. -/
def accepts (entry : HandlerEntry ι σ) (eventType : String) : Bool :=
  entry.eventType.all fun own => own == eventType

/-- The debugging text of an entry has a star for every event type. -/
def debugText (entry : HandlerEntry ι σ) : String :=
  recordText "HandlerEntry" [("event_type", quoted (entry.eventType.getD "*"))]

end HandlerEntry

/-- What all subscribers of one type have in common. -/
structure SubscriberProfile (ι σ : Type) where
  id : String
  group : String
  runMode : RunMode
  /-- Called once before the first message. -/
  setup : Option (ι → Hook σ)
  /-- Called before the subscription goes away. -/
  teardown : Option (ι → Hook σ)
  /-- The handler table, in the order of its declaration. -/
  handlers : List (HandlerEntry ι σ)

namespace SubscriberProfile

/-- The entries for an event type, in order. -/
def handlersFor (profile : SubscriberProfile ι σ) (eventType : String) : List (HandlerEntry ι σ) :=
  profile.handlers.filter (·.accepts eventType)

/-- The debugging text of a profile tells which hooks there are. -/
def debugText (profile : SubscriberProfile ι σ) : String :=
  recordText "SubscriberMetadata"
    [("id", quoted profile.id), ("group", quoted profile.group),
      ("run_mode", profile.runMode.debugText), ("setup", toString profile.setup.isSome),
      ("teardown", toString profile.teardown.isSome),
      ("handlers", listText (profile.handlers.map HandlerEntry.debugText))]

end SubscriberProfile

/-- A row of a handler table, bound to its subscriber. -/
structure BoundHandler (σ : Type) where
  eventType : Option String
  handle : Handler σ

/-- A subscriber as it is fed: its profile with the code bound to it. -/
structure Subscriber (σ : Type) where
  id : String
  group : String
  runMode : RunMode
  setup : Option (Hook σ)
  teardown : Option (Hook σ)
  handlers : List (BoundHandler σ)

namespace Subscriber

/-- The handlers for an event type, in the order of their declaration. -/
def handlersFor (subscriber : Subscriber σ) (eventType : String) : List (Handler σ) :=
  (subscriber.handlers.filter fun entry => entry.eventType.all fun own => own == eventType).map
    BoundHandler.handle

end Subscriber

/-- A subscriber of type `ι` together with the profile of its type. -/
structure ProfiledSubscriber (ι σ : Type) where
  subscriber : ι
  profile : SubscriberProfile ι σ

namespace ProfiledSubscriber

/-- Binds the code of the profile to the subscriber. -/
def bind (profiled : ProfiledSubscriber ι σ) : Subscriber σ where
  id := profiled.profile.id
  group := profiled.profile.group
  runMode := profiled.profile.runMode
  setup := profiled.profile.setup.map fun hook => hook profiled.subscriber
  teardown := profiled.profile.teardown.map fun hook => hook profiled.subscriber
  handlers := profiled.profile.handlers.map fun entry =>
    { eventType := entry.eventType, handle := entry.handler profiled.subscriber }

/-- The debugging text shows the profile. -/
def debugText (profiled : ProfiledSubscriber ι σ) : String :=
  recordText "MetadataSubscriberAccessor" [("metadata", profiled.profile.debugText)]

end ProfiledSubscriber

end EventFeed
