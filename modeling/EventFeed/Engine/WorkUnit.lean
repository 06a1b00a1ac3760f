import EventFeed.Store.Basic

/-! A unit of work over a store of subscriptions: changes are kept back until a flush, which writes
only what differs. -/

namespace EventFeed

/-- A subscription that the unit keeps track of. -/
structure TrackedRow where
  /-- The subscription as it should be. -/
  current : Subscription
  /-- The subscription as the store has it, or none if the store does not. -/
  persisted : Option Subscription
deriving DecidableEq

/-- Whether the store has to be told about a tracked subscription. -/
def TrackedRow.isDirty (row : TrackedRow) : Bool := row.persisted != some row.current

/-- The subscriptions that have been found or added, in that order. -/
structure WorkUnit where
  rows : List TrackedRow := []
deriving DecidableEq

namespace WorkUnit

variable {σ : Type}

/-- The tracked row of an id. -/
def get? (unit : WorkUnit) (id : String) : Option TrackedRow :=
  unit.rows.find? fun row => row.current.id == id

/-- Changes the first row of an id, or puts a new row at the end. -/
def upsert (id : String) (change : TrackedRow → TrackedRow) (fresh : TrackedRow) :
    List TrackedRow → List TrackedRow
  | [] => [fresh]
  | row :: rest => if row.current.id = id then change row :: rest else row :: upsert id change fresh rest

/-- A stored subscription as the unit knows it; from now on the unit keeps track of it. -/
def track (unit : WorkUnit) (stored : Subscription) : Subscription × WorkUnit :=
  match unit.get? stored.id with
  | some row => (row.current, unit)
  | none => (stored, ⟨unit.rows ++ [⟨stored, some stored⟩]⟩)

/-- Tracks stored subscriptions one after another. -/
def trackAll (unit : WorkUnit) : List Subscription → List Subscription × WorkUnit
  | [] => ([], unit)
  | stored :: rest =>
    let (known, unit) := unit.track stored
    let (others, unit) := trackAll unit rest
    (known :: others, unit)

/-- Finds stored subscriptions; where the unit has a later state of one, that state is given. -/
def find (unit : WorkUnit) (store : SubscriptionStore σ) (criteria : SubscriptionCriteria) :
    Action σ (List Subscription × WorkUnit) := do
  let stored ← store.fetch criteria
  return unit.trackAll stored

/-- Keeps a subscription back that the store does not have yet. -/
def add (unit : WorkUnit) (subscription : Subscription) : WorkUnit :=
  ⟨upsert subscription.id (fun row => { row with current := subscription }) ⟨subscription, none⟩
    unit.rows⟩

/-- Keeps a change back; the stamp of the last write stays what the unit knows it to be. -/
def update (unit : WorkUnit) (subscription : Subscription) : WorkUnit :=
  ⟨upsert subscription.id
    (fun row =>
      { row with current :=
        { subscription with
          lastSavedAt := row.current.lastSavedAt.or subscription.lastSavedAt } })
    ⟨subscription, some subscription⟩ unit.rows⟩

/-- Deletes a stored subscription at once, and forgets about it. -/
def remove (unit : WorkUnit) (store : SubscriptionStore σ) (subscription : Subscription) :
    Action σ WorkUnit := do
  Action.ofStep (store.remove subscription)
  return ⟨unit.rows.eraseP fun row => row.current.id == subscription.id⟩

/-- Writes one tracked subscription if it has to be written. -/
def flushRow (store : SubscriptionStore σ) (row : TrackedRow) : Action σ TrackedRow :=
  if row.isDirty then do
    let saved ← SubscriptionStore.written
      (match row.persisted with
        | none => store.add row.current
        | some _ => store.update row.current)
    return ⟨saved, some saved⟩
  else return row

/-- Writes what differs, in order, and counts the writes; the first write that fails ends the flush. -/
def flush (unit : WorkUnit) (store : SubscriptionStore σ) : Action σ (Nat × WorkUnit) := do
  let rows ← unit.rows.mapM (flushRow store)
  return (unit.rows.countP TrackedRow.isDirty, ⟨rows⟩)

end WorkUnit

end EventFeed
