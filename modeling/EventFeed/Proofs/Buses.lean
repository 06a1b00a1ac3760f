import EventFeed.Bus
import EventFeed.Proofs.Sequences

/-! Buses with hooks around them: a dispatch tells the hooks and the buses of all layers in one sequence, which ends with
the first failure. -/

namespace EventFeed

variable {α σ : Type}

/-- How a computation without a value fails, if it does, and the system it leaves. -/
def Action.ending (action : Action σ Unit) (system : σ) : Option Abort × σ :=
  match action system with
  | .ok _ next => (none, next)
  | .error abort next => (some abort, next)

/-- A computation calls what is on a list in sequence, and ends as these calls do. -/
def Sequential (act : α → σ → Option Abort × σ) (listed : List α) (action : Action σ Unit) : Prop :=
  ∀ system, ∃ calls, InSequence act listed system calls (action.ending system).1 (action.ending system).2

namespace Sequential

variable {act : α → σ → Option Abort × σ} {listed others : List α} {what : α} {first second : Action σ Unit}

/-- Nothing is called where nothing is done. -/
theorem pure : Sequential act [] (Pure.pure () : Action σ Unit) := fun _ => ⟨[], .nil⟩

/-- A single call. -/
theorem single (same : act what = first.ending) : Sequential act [what] first := fun system =>
  ⟨_, .single (congrFun same system)⟩

/-- What is done after a computation is called after what it calls, unless it fails. -/
theorem bind (one : Sequential act listed first) (two : Sequential act others second) :
    Sequential act (listed ++ others) (first >>= fun _ => second) := by
  -- The second computation is run only where the first one ended well.
  intro system
  obtain ⟨calls, sequence⟩ := one system
  show ∃ made, InSequence act _ system made (Action.ending (EStateM.bind first fun _ => second) system).1
    (Action.ending (EStateM.bind first fun _ => second) system).2
  unfold Action.ending EStateM.bind
  unfold Action.ending at sequence
  cases run : first system with
  | ok value middle =>
    obtain ⟨further, rest⟩ := two middle
    rw [run] at sequence
    exact ⟨_, sequence.append rest⟩
  | error abort last =>
    rw [run] at sequence
    exact ⟨_, sequence.halted⟩

end Sequential

/-- A bus inside any number of layers of hooks. -/
inductive LayeredBus (σ : Type) where
  | core (bus : EventBus σ)
  | layer (hooks : List (DispatchHook σ)) (inner : LayeredBus σ)

namespace LayeredBus

/-- The bus as it is told of messages. -/
def toBus : LayeredBus σ → EventBus σ
  | core bus => bus
  | layer hooks inner => EventBus.surround hooks inner.toBus

/-- Whom a dispatch is to reach: the early halves of each layer from the outside to the inside, then the bus, and then the
late halves from the inside to the outside, each layer in its own order. -/
def recipients : LayeredBus σ → List (EventBus σ)
  | core bus => [bus]
  | layer hooks inner =>
    hooks.filterMap DispatchHook.early? ++ inner.recipients ++ hooks.filterMap DispatchHook.late?

end LayeredBus

namespace EventBus

/-- How a bus fails, if it does, when it is told of messages, and the system it leaves. -/
def told (messages : List Message) (bus : EventBus σ) : σ → Option Abort × σ := (bus messages).ending

variable {messages : List Message} {listed : List (EventBus σ)}

/-- The early halves are told in sequence. -/
theorem tellEarly_sequential (hooks : List (DispatchHook σ)) :
    Sequential (told messages) (hooks.filterMap DispatchHook.early?) (tellEarly messages hooks) := by
  -- A hook without an early half is passed over.
  induction hooks with
  | nil => exact .pure
  | cons hook rest ih =>
    cases hook with
    | before early => exact (Sequential.single rfl : Sequential (told messages) [early] (early messages)).bind ih
    | after late => exact ih
    | both early late => exact (Sequential.single rfl : Sequential (told messages) [early] (early messages)).bind ih

/-- The late halves are told in sequence. -/
theorem tellLate_sequential (hooks : List (DispatchHook σ)) :
    Sequential (told messages) (hooks.filterMap DispatchHook.late?) (tellLate messages hooks) := by
  -- A hook without a late half is passed over.
  induction hooks with
  | nil => exact .pure
  | cons hook rest ih =>
    cases hook with
    | before early => exact ih
    | after late => exact (Sequential.single rfl : Sequential (told messages) [late] (late messages)).bind ih
    | both early late => exact (Sequential.single rfl : Sequential (told messages) [late] (late messages)).bind ih

/-- A layer of hooks puts its halves around what the bus inside tells in sequence. -/
theorem surround_sequential (hooks : List (DispatchHook σ)) {inner : EventBus σ}
    (inside : Sequential (told messages) listed (inner messages)) :
    Sequential (told messages)
      (hooks.filterMap DispatchHook.early? ++ listed ++ hooks.filterMap DispatchHook.late?)
      (surround hooks inner messages) := by
  -- The three parts of the dispatch follow one another.
  rw [List.append_assoc]
  exact (tellEarly_sequential hooks).bind (inside.bind (tellLate_sequential hooks))

end EventBus

/-- A bus in layers of hooks tells all its recipients in sequence. -/
theorem LayeredBus.toBus_sequential (messages : List Message) (bus : LayeredBus σ) :
    Sequential (EventBus.told messages) bus.recipients (bus.toBus messages) := by
  -- Each layer is put around what is told inside.
  induction bus with
  | core bus => exact .single rfl
  | layer hooks inner ih => exact EventBus.surround_sequential hooks ih

example (one two three four inner : EventBus σ) :
    (LayeredBus.layer [.both one two, .after three, .before four] (.core inner)).recipients =
      [one, four, inner, two, three] := rfl

/-- The reports that are made after a run that messages have brought about. -/
def Engine.afterDispatch (engine : Engine σ) (messages : List Message) (report : FeedReport) (system : σ) : σ :=
  report.errors.foldl (fun system failure => engine.observe (.failedInDispatch failure.id failure.error) system)
    (engine.observe (.dispatched messages.length report.processed) system)

/-- A bus that runs an engine makes one run whenever there are messages, and fails only as this run does: subscriptions
that fail in it are reported, and all is well. -/
theorem Engine.told_bus (engine : Engine σ) (criteria : FeedCriteria) (limit : Option Nat) (messages : List Message)
    (system : σ) :
    EventBus.told messages (engine.bus criteria limit) system =
      if messages.isEmpty then (none, system)
      else match engine.run criteria limit system with
        | .ok report next => (none, engine.afterDispatch messages report next)
        | .error abort last => (some abort, last) := by
  -- The reports are made one after another, and none of them fails.
  have notes : ∀ (failures : List SubscriptionFailure) (system : σ),
      (forIn failures PUnit.unit fun failure _ => do
        engine.note (.failedInDispatch failure.id failure.error)
        pure (ForInStep.yield PUnit.unit) : Action σ PUnit) system =
      .ok () (failures.foldl
        (fun system failure => engine.observe (.failedInDispatch failure.id failure.error) system) system) := by
    intro failures
    induction failures with
    | nil => exact fun _ => rfl
    | cons failure rest ih =>
      intro system
      rw [List.forIn_cons]
      exact ih _
  unfold EventBus.told Engine.bus
  split
  · rfl
  · show Action.ending (EStateM.bind (engine.run criteria limit) _) system = _
    unfold Action.ending EStateM.bind
    cases engine.run criteria limit system with
    | error abort last => rfl
    | ok report next =>
      show Action.ending (EStateM.bind (forIn report.errors PUnit.unit _) fun _ => pure ())
        (engine.observe (.dispatched messages.length report.processed) next) = _
      unfold Action.ending EStateM.bind
      rw [notes report.errors]
      rfl

/-- Hooks act in the order of their registration, and the first failure ends a dispatch: it tells the early halves, the
bus inside and the late halves, each once and up to the first that fails, and fails exactly as that one does; so nothing
late is told unless everything early and the bus inside succeeded. Where the bus inside has hooks of its own, to any
depth, its recipients stand in its place. A bus inside that runs an engine makes one run for all messages, and fails
only if this run does. -/
theorem EventBus.dispatches_in_sequence (messages : List Message) (system : σ) :
    (∀ (hooks : List (DispatchHook σ)) (inner : EventBus σ),
      let early := hooks.filterMap DispatchHook.early?
      let result := told messages (surround hooks inner) system
      ∃ calls, InSequence (told messages) (early ++ inner :: hooks.filterMap DispatchHook.late?) system calls
        result.1 result.2 ∧
        (early.length + 1 < calls.length → (calls.take (early.length + 1)).map Call.what = early ++ [inner] ∧
          ∀ call ∈ calls.take (early.length + 1), call.failure = none)) ∧
    (∀ bus : LayeredBus σ,
      let result := told messages bus.toBus system
      ∃ calls, InSequence (told messages) bus.recipients system calls result.1 result.2) ∧
    ∀ (engine : Engine σ) (criteria : FeedCriteria) (limit : Option Nat),
      told messages (engine.bus criteria limit) system =
        if messages.isEmpty then (none, system)
        else match engine.run criteria limit system with
          | .ok report next => (none, engine.afterDispatch messages report next)
          | .error abort last => (some abort, last) := by
  refine ⟨fun hooks inner => ?hooked, fun bus => bus.toBus_sequential messages system,
    fun engine criteria limit => engine.told_bus criteria limit messages system⟩
  case hooked =>
    obtain ⟨calls, sequence⟩ :=
      surround_sequential hooks (Sequential.single rfl : Sequential (told messages) [inner] (inner messages)) system
    rw [List.append_assoc] at sequence
    refine ⟨calls, sequence, fun late => ?_⟩
    -- Before the late halves come the early ones and the bus inside.
    obtain ⟨reached, well⟩ := sequence.passed late
    rw [List.take_length_add_append] at reached
    exact ⟨reached, well⟩

end EventFeed
