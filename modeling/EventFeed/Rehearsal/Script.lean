import EventFeed.Log.Basic
import EventFeed.Subscription.Failure

/-! Scripts for subscriber code: what each call of a hook or handler does, and how it ends. -/

namespace EventFeed

/-- What one call does, in this order, and how it ends. -/
structure Reply where
  /-- Messages it appends to the log. -/
  append : List Message := []
  /-- How far it moves the clock. -/
  advance : Option Duration := none
  /-- Whether it stops the worker. -/
  stop : Bool := false
  /-- The playhead of the only messages that it can fail on. -/
  playhead : Option Nat := none
  error : Option HandlerError := none
  /-- What it panics with, if it returns no error. -/
  panic : Option PanicPayload := none

/-- Replies in order, of which so many have been given. -/
structure Script where
  replies : List Reply := []
  calls : Nat := 0

namespace Script

/-- The reply to the next call; the last reply is repeated, and no replies mean success. -/
def next (script : Script) : Reply :=
  (script.replies[script.calls]?.or script.replies.getLast?).getD {}

/-- The script after one more call. -/
def advance (script : Script) : Script := { script with calls := script.calls + 1 }

end Script

/-- Which piece of a subscriber's code is called. -/
inductive HookName where
  | setup
  | teardown
  /-- A row of the handler table, by its place. -/
  | handler (place : Nat)
deriving DecidableEq

/-- A scripted subscriber, with a number of its own and the name it goes by in journals. -/
structure Actor where
  number : Nat
  name : String
deriving DecidableEq

/-- A call of subscriber code as a journal has it. -/
structure CallNote where
  name : String
  hook : HookName
  /-- The message of a handler's call. -/
  message : Option Message := none

end EventFeed
