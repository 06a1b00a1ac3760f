import EventFeed.Bus
import EventFeed.Rehearsal.World

/-! Scripted buses: hooks that note what they are told of, and fail where they are asked to. -/

namespace EventFeed

/-- On which side of a dispatch a scripted hook acts. -/
inductive DispatchSide where
  | before
  | after
  | both
deriving DecidableEq

/-- A hook that notes each call, and then fails if it has a reason to. -/
structure ScriptedHook where
  name : String
  side : DispatchSide
  failEarly : Option String := none
  failLate : Option String := none
deriving DecidableEq

namespace ScriptedHook

/-- Notes something, and fails if there is a reason to. -/
def noting (note : DispatchNote) (reason : Option String) : Action World Unit := do
  modify (World.noteDispatch note)
  match reason with
  | none => pure ()
  | some reason => Action.fail (.store reason)

/-- What the hook does before the inner bus is told. -/
def early (hook : ScriptedHook) : EventBus World := fun messages =>
  noting (.hook hook.name true messages.length) hook.failEarly

/-- What the hook does after the inner bus was told. -/
def late (hook : ScriptedHook) : EventBus World := fun messages =>
  noting (.hook hook.name false messages.length) hook.failLate

/-- The hook on its side. -/
def toHook (hook : ScriptedHook) : DispatchHook World :=
  match hook.side with
  | .before => .before hook.early
  | .after => .after hook.late
  | .both => .both hook.early hook.late

end ScriptedHook

inductive ScriptedBus where
  /-- A bus that notes the event types, and fails if it has a reason to. -/
  | sink (reason : Option String)
  /-- A bus with hooks around another one. -/
  | surrounded (hooks : List ScriptedHook) (inner : ScriptedBus)
deriving DecidableEq

/-- The bus that a script describes. -/
def ScriptedBus.toBus : ScriptedBus → EventBus World
  | sink reason => fun messages => ScriptedHook.noting (.inner (messages.map Message.eventType)) reason
  | surrounded hooks inner => EventBus.surround (hooks.map ScriptedHook.toHook) inner.toBus

end EventFeed
