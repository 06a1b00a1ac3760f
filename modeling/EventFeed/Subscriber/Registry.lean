import EventFeed.Subscriber.Declaration

/-! The profiles of subscriber types, each built once, and the subscribers that are
registered under distinct ids. -/

namespace EventFeed

variable {ι σ : Type}

/-- The profiles built so far, under the names of their types. -/
structure ProfileCache (ι σ : Type) where
  profiles : List (String × SubscriberProfile ι σ) := []

namespace ProfileCache

/-- The profile of a type, if it has been built. -/
def get? (cache : ProfileCache ι σ) (typeName : String) : Option (SubscriberProfile ι σ) :=
  cache.profiles.lookup typeName

def size (cache : ProfileCache ι σ) : Nat := cache.profiles.length

def isEmpty (cache : ProfileCache ι σ) : Bool := cache.profiles.isEmpty

/-- The profile of a type. What the type declares is asked for only until a profile could be built: to declare
is something that the type does, and it need not do the same each time. -/
def profile {m : Type → Type} [Monad m] (cache : ProfileCache ι σ) (typeName : String)
    (configure : m (List (Declaration ι σ))) :
    m (Except EngineError (SubscriberProfile ι σ) × ProfileCache ι σ) :=
  match cache.get? typeName with
  | some profile => return (.ok profile, cache)
  | none => do
    let declarations ← configure
    match (ProfileDraft.ofDeclarations declarations).build typeName with
    | .error error => return (.error error, cache)
    | .ok profile => return (.ok profile, ⟨cache.profiles ++ [(typeName, profile)]⟩)

/-- The debugging text tells how many profiles there are. -/
def debugText (cache : ProfileCache ι σ) : String :=
  recordText "SubscriberMetadataFactory" [("cached", toString cache.size)]

end ProfileCache

/-- Subscribers in the order of their registration. -/
structure Registry (σ : Type) where
  subscribers : List (Subscriber σ) := []

namespace Registry

/-- The subscriber with an id. -/
def get? (registry : Registry σ) (id : String) : Option (Subscriber σ) :=
  registry.subscribers.find? fun subscriber => subscriber.id == id

/-- Whether there is a subscriber with an id. -/
def knows (registry : Registry σ) (id : String) : Bool := (registry.get? id).isSome

def size (registry : Registry σ) : Nat := registry.subscribers.length

def isEmpty (registry : Registry σ) : Bool := registry.subscribers.isEmpty

/-- Adds a subscriber under an id that is not taken. -/
def add (registry : Registry σ) (subscriber : Subscriber σ) : Except EngineError (Registry σ) :=
  if registry.subscribers.any fun other => other.id == subscriber.id then
    .error (.duplicateSubscriber subscriber.id)
  else .ok ⟨registry.subscribers ++ [subscriber]⟩

/-- Adds a subscriber of some type; its profile stays in the cache even when its id is taken. -/
def register {m : Type → Type} [Monad m] (registry : Registry σ) (cache : ProfileCache ι σ) (typeName : String)
    (configure : m (List (Declaration ι σ))) (subscriber : ι) :
    m (Except EngineError (Registry σ) × ProfileCache ι σ) := do
  match ← cache.profile typeName configure with
  | (.error error, cache) => return (.error error, cache)
  | (.ok profile, cache) =>
    return (registry.add (ProfiledSubscriber.bind { subscriber, profile }), cache)

end Registry

end EventFeed
