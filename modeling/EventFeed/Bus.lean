import EventFeed.Engine.Operations

/-! Buses that are told about appended messages: one that runs an engine, and one that surrounds
another bus with hooks. -/

namespace EventFeed

variable {σ : Type}

/-- A receiver of messages that have just been appended. -/
abbrev EventBus (σ : Type) : Type := List Message → Action σ Unit

/-- Something that happens around a dispatch. -/
inductive DispatchHook (σ : Type) where
  | before (early : EventBus σ)
  | after (late : EventBus σ)
  | both (early late : EventBus σ)

namespace DispatchHook

/-- What a hook does before the inner bus is told. -/
def early? : DispatchHook σ → Option (EventBus σ)
  | before early => some early
  | after _ => none
  | both early _ => some early

/-- What a hook does after the inner bus was told. -/
def late? : DispatchHook σ → Option (EventBus σ)
  | before _ => none
  | after late => some late
  | both _ late => some late

end DispatchHook

namespace EventBus

/-- Tells hooks that act before the inner bus, in order. -/
def tellEarly (messages : List Message) : List (DispatchHook σ) → Action σ Unit
  | [] => pure ()
  | hook :: rest => do
    match hook with
    | .before early => early messages
    | .both early _ => early messages
    | .after _ => pure ()
    tellEarly messages rest

/-- Tells hooks that act after the inner bus, in order. -/
def tellLate (messages : List Message) : List (DispatchHook σ) → Action σ Unit
  | [] => pure ()
  | hook :: rest => do
    match hook with
    | .after late => late messages
    | .both _ late => late messages
    | .before _ => pure ()
    tellLate messages rest

/-- A bus with hooks around it; the first failure ends a dispatch. -/
def surround (hooks : List (DispatchHook σ)) (inner : EventBus σ) : EventBus σ := fun messages => do
  tellEarly messages hooks
  inner messages
  tellLate messages hooks

end EventBus

namespace Engine

/-- A bus that runs an engine whenever there are messages; failures of
subscriptions are reported, not returned. -/
def bus (engine : Engine σ) (criteria : FeedCriteria) (limit : Option Nat) : EventBus σ :=
  fun messages => do
    if messages.isEmpty then
      return
    let report ← engine.run criteria limit
    engine.note (.dispatched messages.length report.processed)
    for failure in report.errors do
      engine.note (.failedInDispatch failure.id failure.error)

end Engine

end EventFeed
