import EventFeed.Message.Basic

/-! Which messages of a log are meant, and which part of them is loaded. -/

namespace EventFeed

/-- Restrictions on messages. -/
structure LogCriteria where
  aggregateName : Option String := none
  aggregateId : Option String := none
  /-- Only messages with a later playhead. -/
  fromPlayhead : Option Nat := none
  archived : Option Bool := none
  /-- Only messages with a greater index. -/
  fromIndex : Option Nat := none
deriving DecidableEq

namespace LogCriteria

/-- The messages after an index. -/
def after (index : Nat) : LogCriteria := { fromIndex := some index }

/-- A message is meant when no restriction rules it out; one without a playhead has no later one. -/
def admits (criteria : LogCriteria) (index : Nat) (message : Message) : Bool :=
  let headers := message.headers
  criteria.aggregateName.all (fun name => headers.aggregateName == some name) &&
    criteria.aggregateId.all (fun id => headers.aggregateId == some id) &&
    criteria.fromPlayhead.all (fun start => headers.playhead.any fun playhead => decide (start < playhead)) &&
    criteria.archived.all (fun archived => headers.archived == archived) &&
    criteria.fromIndex.all (fun start => decide (start < index))

end LogCriteria

/-- Which part of the messages is loaded, and in which direction. -/
structure LoadOptions where
  limit : Option Nat := none
  offset : Option Nat := none
  backwards : Bool := false
deriving DecidableEq

namespace LoadOptions

/-- The last message alone. -/
def latest : LoadOptions := { limit := some 1, backwards := true }

/-- Turns the items around where asked, then leaves out the offset, then keeps the limit. -/
def page {α : Type} (options : LoadOptions) (items : List α) : List α :=
  let ordered := if options.backwards then items.reverse else items
  let rest := ordered.drop (options.offset.getD 0)
  match options.limit with
  | none => rest
  | some limit => rest.take limit

end LoadOptions

end EventFeed
