import EventFeed.Action
import EventFeed.Subscription.Criteria

/-! What a store of subscriptions offers, and how a lock surrounds a computation. -/

namespace EventFeed

variable {σ α : Type}

/-- The answer to a write: how it went, and the caller's subscription afterwards. -/
structure Written where
  subscription : Subscription
  outcome : Except EngineError Unit

/-- A lock as its holder sees it. -/
structure Lock (σ : Type) where
  /-- Takes the lock, or fails. -/
  acquire : σ → Except EngineError Unit × σ
  /-- How often the computation inside is started; a sound lock starts it once. -/
  visits : Nat
  /-- Gives the lock back after the computation returned. -/
  release : σ → σ
  /-- What becomes of the lock when a panic passes through it. -/
  forsake : σ → σ

namespace Lock

/-- A lock that nobody else wants. -/
def free : Lock σ where
  acquire := fun system => (.ok (), system)
  visits := 1
  release := id
  forsake := id

/-- What runs inside a lock: the computation has to be started exactly once. -/
def inside (visits : Nat) (body : Action σ α) : Action σ α :=
  match visits with
  | 0 => Action.fail (.lock "lock callback was not invoked")
  | 1 => body
  | _ => do
    let _ ← body
    Action.fail (.lock "lock callback invoked twice")

/-- Takes the lock, runs the computation, and gives the lock back unless a panic passes. -/
def hold (lock : Lock σ) (body : Action σ α) : Action σ α := fun system =>
  match lock.acquire system with
  | (.error error, next) => .error (.failed error) next
  | (.ok (), next) =>
    match inside lock.visits body next with
    | .ok value last => .ok value (lock.release last)
    | .error (.failed error) last => .error (.failed error) (lock.release last)
    | .error (.panicked payload) last => .error (.panicked payload) (lock.forsake last)

end Lock

/-- A store of subscriptions, as operations on the system it lives in. -/
structure SubscriptionStore (σ : Type) where
  /-- The stored subscriptions that are meant, in order. -/
  find : SubscriptionCriteria → σ → Except EngineError (List Subscription) × σ
  /-- Stores a subscription that is not there yet. -/
  add : Subscription → σ → Written × σ
  /-- Replaces a stored subscription. -/
  update : Subscription → σ → Written × σ
  /-- Deletes a stored subscription, if it is there. -/
  remove : Subscription → σ → Except EngineError Unit × σ
  /-- The lock of the store, if it has one. -/
  lock : Option (Lock σ)

namespace SubscriptionStore

/-- Finds subscriptions, or ends the computation. -/
def fetch (store : SubscriptionStore σ) (criteria : SubscriptionCriteria) :
    Action σ (List Subscription) :=
  Action.ofStep (store.find criteria)

/-- The subscription after a write that went well; a write that failed ends the computation. -/
def written (write : σ → Written × σ) : Action σ Subscription :=
  Action.ofStep fun system =>
    let (answer, next) := write system
    (answer.outcome.map fun _ => answer.subscription, next)

/-- Runs a computation inside the lock of the store, if it has one. -/
def guarded (store : SubscriptionStore σ) (body : Action σ α) : Action σ α :=
  match store.lock with
  | none => body
  | some lock => lock.hold body

end SubscriptionStore

end EventFeed
