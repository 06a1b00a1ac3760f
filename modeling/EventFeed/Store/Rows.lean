import EventFeed.Store.Basic

/-! Stored subscriptions as a list: added at the end, replaced in place, found and removed by id. -/

namespace EventFeed

namespace Rows

/-- Whether a stored subscription has an id. -/
def holds (rows : List Subscription) (id : String) : Bool := rows.any fun row => row.id == id

/-- The first stored subscription with an id. -/
def get? (rows : List Subscription) (id : String) : Option Subscription :=
  rows.find? fun row => row.id == id

/-- The stored subscriptions that are meant. -/
def find (rows : List Subscription) (criteria : SubscriptionCriteria) : List Subscription :=
  rows.filter criteria.admits

/-- Puts a subscription at the end. -/
def add (rows : List Subscription) (subscription : Subscription) :
    Except EngineError (List Subscription) :=
  if holds rows subscription.id then .error (.subscriptionExists subscription.id)
  else .ok (rows ++ [subscription])

/-- Puts a subscription in the place of the first one with its id. -/
def replace (subscription : Subscription) : List Subscription → List Subscription
  | [] => []
  | row :: rest => if row.id = subscription.id then subscription :: rest else row :: replace subscription rest

/-- Replaces a stored subscription. -/
def update (rows : List Subscription) (subscription : Subscription) :
    Except EngineError (List Subscription) :=
  if holds rows subscription.id then .ok (replace subscription rows)
  else .error (.subscriptionNotFound subscription.id)

/-- Deletes every stored subscription with an id. -/
def remove (rows : List Subscription) (id : String) : List Subscription :=
  rows.filter fun row => row.id != id

end Rows

namespace SubscriptionStore

variable {σ : Type}

/-- Writes a stamped subscription to rows; after a failure the caller keeps
the subscription as it was. -/
def writeRows (rows : Part σ (List Subscription)) (now : σ → Timestamp)
    (write : List Subscription → Subscription → Except EngineError (List Subscription))
    (subscription : Subscription) (system : σ) : Written × σ :=
  let stamped := subscription.markSaved (now system)
  match write (rows.read system) stamped with
  | .ok next => (⟨stamped, .ok ()⟩, rows.write next system)
  | .error error => (⟨subscription, .error error⟩, system)

/-- A store in memory, with a lock that nobody else wants. -/
def memory (rows : Part σ (List Subscription)) (now : σ → Timestamp) : SubscriptionStore σ where
  find := fun criteria system => (.ok (Rows.find (rows.read system) criteria), system)
  add := writeRows rows now Rows.add
  update := writeRows rows now Rows.update
  remove := fun subscription system =>
    (.ok (), rows.modify (fun rows => Rows.remove rows subscription.id) system)
  lock := some Lock.free

end SubscriptionStore

end EventFeed
