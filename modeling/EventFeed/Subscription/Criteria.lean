import EventFeed.Subscription.Basic

/-! Which subscriptions are meant: any of some ids, any of some groups, any of some statuses. -/

namespace EventFeed

/-- Whether a value is one of a list; no list admits every value. -/
def anyOf {α : Type} [DecidableEq α] (allowed : Option (List α)) (value : α) : Bool :=
  match allowed with
  | none => true
  | some values => decide (value ∈ values)

/-- Restrictions on stored subscriptions. -/
structure SubscriptionCriteria where
  ids : Option (List String) := none
  groups : Option (List String) := none
  statuses : Option (List Status) := none
deriving DecidableEq

/-- A subscription is meant when no restriction rules it out. -/
def SubscriptionCriteria.admits (criteria : SubscriptionCriteria) (subscription : Subscription) : Bool :=
  anyOf criteria.ids subscription.id && anyOf criteria.groups subscription.group &&
    anyOf criteria.statuses subscription.status

/-- Restrictions that subscriptions and subscribers have in common. -/
structure FeedCriteria where
  ids : Option (List String) := none
  groups : Option (List String) := none
deriving DecidableEq

namespace FeedCriteria

/-- The same restrictions on stored subscriptions, of any status. -/
def toSubscriptions (criteria : FeedCriteria) : SubscriptionCriteria :=
  { ids := criteria.ids, groups := criteria.groups }

/-- The same restrictions on stored subscriptions, and one on their statuses. -/
def withStatuses (criteria : FeedCriteria) (statuses : List Status) : SubscriptionCriteria :=
  { criteria.toSubscriptions with statuses := some statuses }

/-- Whether an id and a group are meant. -/
def admits (criteria : FeedCriteria) (id group : String) : Bool :=
  anyOf criteria.ids id && anyOf criteria.groups group

end FeedCriteria

end EventFeed
