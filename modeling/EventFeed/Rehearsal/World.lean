import EventFeed.Engine.Basic
import EventFeed.Rehearsal.Script
import EventFeed.Store.Disk

/-! A small world in which engines can be rehearsed: a clock, a log, stores, scripted subscribers,
planned faults and journals. -/

namespace EventFeed

/-- An item of a scripted log. -/
inductive ScriptedItem where
  /-- A message with its index. -/
  | entry (index : Nat) (message : Message)
  /-- A failure to read on. -/
  | fail (reason : String)

/-- Operations that can be made to fail. -/
inductive FaultPoint where
  | find
  | add
  | update
  | remove
  | load
  | wait
deriving DecidableEq

/-- A plan to let some operations pass and the next ones fail. -/
structure Fault where
  point : FaultPoint
  /-- How many operations still pass. -/
  after : Nat
  /-- How many operations fail then. -/
  times : Nat
  reason : String
deriving DecidableEq

/-- A write or a use of the lock as a journal has it. -/
inductive WriteNote where
  | lock
  | unlock
  | add (subscription : Subscription)
  | update (subscription : Subscription)
  | remove (subscription : Subscription)
deriving DecidableEq

/-- A use of the log as a journal has it. -/
inductive LoadNote where
  | load (criteria : LogCriteria) (options : LoadOptions)
  | wait (span : Duration)
deriving DecidableEq

/-- What happened on a bus as a journal has it. -/
inductive DispatchNote where
  /-- A hook was told, before the inner bus or after it, of so many messages. -/
  | hook (name : String) (early : Bool) (count : Nat)
  /-- The innermost bus was told of messages of these event types. -/
  | inner (eventTypes : List String)
deriving DecidableEq

/-- Everything that an engine and its subscribers can touch. -/
structure World where
  clock : FrozenClock := ⟨Timestamp.epoch⟩
  /-- The log in memory. -/
  log : EventLog := {}
  /-- A scripted log that is read in place of the one in memory. -/
  scripted : Option (List ScriptedItem) := none
  /-- The store in memory. -/
  rows : List Subscription := []
  disk : Disk := {}
  /-- What each subscriber does, by its number. -/
  scripts : Nat → HookName → Script := fun _ _ => {}
  /-- What happens while a worker waits; past the end of the replies it is stopped. -/
  waits : Script := {}
  /-- Whether the worker has been asked to stop. -/
  stopped : Bool := false
  faults : List Fault := []
  /-- Calls of subscriber code, in order. -/
  calls : List CallNote := []
  /-- Writes and uses of the lock, in order. -/
  writes : List WriteNote := []
  /-- Uses of the log, in order. -/
  loads : List LoadNote := []
  /-- What happened on buses, in order. -/
  dispatches : List DispatchNote := []
  notices : List Notice := []

namespace World

def now (world : World) : Timestamp := world.clock.now

/-- The store in memory as a part of the world. -/
def rowsPart : Part World (List Subscription) where
  read := rows
  write := fun rows world => { world with rows }

/-- The store in a file as a part of the world. -/
def diskPart : Part World Disk where
  read := disk
  write := fun disk world => { world with disk }

/-- Starts new journals. -/
def clearJournals (world : World) : World :=
  { world with calls := [], writes := [], loads := [], dispatches := [], notices := [] }

/-- Takes in a report. -/
def observe (notice : Notice) (world : World) : World :=
  { world with notices := world.notices ++ [notice] }

/-- Notes a write. -/
def noteWrite (note : WriteNote) (world : World) : World :=
  { world with writes := world.writes ++ [note] }

/-- Notes a use of the log. -/
def noteLoad (note : LoadNote) (world : World) : World :=
  { world with loads := world.loads ++ [note] }

/-- Notes a call. -/
def noteCall (note : CallNote) (world : World) : World :=
  { world with calls := world.calls ++ [note] }

/-- Notes what happened on a bus. -/
def noteDispatch (note : DispatchNote) (world : World) : World :=
  { world with dispatches := world.dispatches ++ [note] }

/-- Appends messages to the log in memory. -/
def append (messages : List Message) (world : World) : World :=
  { world with log := world.log.append world.now messages }

/-- Archives messages of the log in memory. -/
def archive (name id : String) (bound : Nat) (world : World) : World :=
  { world with log := world.log.archive name id bound }

/-- Moves the clock forward. -/
def advance (span : Duration) (world : World) : World :=
  { world with clock := world.clock.advance span }

/-- Does what a reply does besides ending the call. -/
def act (reply : Reply) (world : World) : World :=
  let world := world.append reply.append
  let world := match reply.advance with
    | none => world
    | some span => world.advance span
  { world with stopped := world.stopped || reply.stop }

/-- Gives a piece of code a script. -/
def setScript (number : Nat) (hook : HookName) (script : Script) (world : World) : World :=
  { world with scripts := fun other name =>
      if other = number ∧ name = hook then script else world.scripts other name }

/-- How a reply ends a call with a message of some playhead. -/
def ending (reply : Reply) (playhead : Option Nat) : HandlerOutcome :=
  if reply.playhead.any fun only => playhead ≠ some only then .done
  else
    match reply.error, reply.panic with
    | some error, _ => .failed error
    | none, some payload => .panicked payload
    | none, none => .done

/-- A call of scripted code: it is noted first, and then the next reply is acted out. -/
def perform (actor : Actor) (hook : HookName) (message : Option Message) (world : World) :
    HandlerOutcome × World :=
  let script := world.scripts actor.number hook
  let world := world.noteCall { name := actor.name, hook, message }
  let world := world.setScript actor.number hook script.advance
  (ending script.next (message.bind fun message => message.headers.playhead), world.act script.next)

/-- Whether an operation fails now, and why; a plan is used up as operations pass and fail. -/
def trip (point : FaultPoint) (world : World) : Option String × World :=
  match world.faults.find? fun fault => fault.point = point with
  | none => (none, world)
  | some fault =>
    let others := world.faults.filter fun fault => fault.point ≠ point
    if 0 < fault.after then
      (none, { world with faults := { fault with after := fault.after - 1 } :: others })
    else if 0 < fault.times then
      (some fault.reason, { world with faults := { fault with times := fault.times - 1 } :: others })
    else (none, world)

/-- Plans a fault in place of an earlier one at the same point. -/
def plan (fault : Fault) (world : World) : World :=
  { world with faults := fault :: world.faults.filter fun other => other.point ≠ fault.point }

/-- Runs a step unless it is planned to fail. -/
def guard {α : Type} (point : FaultPoint) (step : World → Except EngineError α × World)
    (world : World) : Except EngineError α × World :=
  match world.trip point with
  | (some reason, world) => (.error (.store reason), world)
  | (none, world) => step world

/-- The items of a scripted log that are meant; failures always are. -/
def selectScripted (criteria : LogCriteria) (items : List ScriptedItem) : List ScriptedItem :=
  items.filter fun item =>
    match item with
    | .entry index message => criteria.admits index message
    | .fail _ => true

/-- A scripted item as an item of a loaded log. -/
def loadedItem : ScriptedItem → LogItem
  | .entry index message => .ok (index, message)
  | .fail reason => .error (.store reason)

/-- The items that a load gives now. -/
def items (criteria : LogCriteria) (options : LoadOptions) (world : World) : List LogItem :=
  match world.scripted with
  | none => (world.log.load criteria options).map .ok
  | some script => (options.page (selectScripted criteria script)).map loadedItem

/-- What a wait does: the next reply for waits, or a stop. -/
def wait (world : World) : World :=
  let next := { world with waits := world.waits.advance }
  match world.waits.replies[world.waits.calls]? with
  | some reply => next.act reply
  | none => { next with stopped := true }

/-- The log of the world, with a journal and planned faults. -/
def source : EventSource World where
  load := fun criteria options world =>
    guard .load (fun world => (.ok (world.items criteria options), world))
      (world.noteLoad (.load criteria options))
  wait := fun span world =>
    guard .wait (fun world => (.ok (), world.wait)) (world.noteLoad (.wait span))

end World

/-- Which store of the world is used, and what lock it has. -/
inductive StoreKind where
  /-- The store in memory. -/
  | memory
  | file
  | unlocked
  /-- The store in memory, with a lock that never starts what should run inside it. -/
  | skipping
  /-- The store in memory, with a lock that starts what should run inside it twice. -/
  | doubling
  /-- The store in memory, with a lock that is never free. -/
  | denying
deriving DecidableEq

namespace StoreKind

/-- The store itself. -/
def base : StoreKind → SubscriptionStore World
  | file => SubscriptionStore.file World.diskPart World.now
  | _ => SubscriptionStore.memory World.rowsPart World.now

/-- A lock whose uses are noted. -/
def notedLock (lock : Lock World) : Lock World where
  acquire := fun world =>
    match lock.acquire (world.noteWrite .lock) with
    | (.ok (), world) => (.ok (), world)
    | (.error error, world) => (.error error, world.noteWrite .unlock)
  visits := lock.visits
  release := fun world => (lock.release world).noteWrite .unlock
  forsake := lock.forsake

/-- The lock of each kind of store. -/
def lock : StoreKind → Option (Lock World)
  | unlocked => none
  | skipping => some { Lock.free with visits := 0 }
  | denying => some { Lock.free with acquire := fun world => (.error .locked, world) }
  | doubling => some (notedLock { Lock.free with visits := 2 })
  | kind => kind.base.lock.map notedLock

/-- A write that is noted when it went well, and that can be planned to fail. -/
def notedWrite (point : FaultPoint) (note : Subscription → WriteNote)
    (write : Subscription → World → Written × World) (subscription : Subscription) (world : World) :
    Written × World :=
  match world.trip point with
  | (some reason, world) => (⟨subscription, .error (.store reason)⟩, world)
  | (none, world) =>
    match write subscription world with
    | (⟨written, .ok ()⟩, world) => (⟨written, .ok ()⟩, world.noteWrite (note written))
    | (⟨written, .error error⟩, world) => (⟨written, .error error⟩, world)

/-- The store with a journal and planned faults. -/
def store (kind : StoreKind) : SubscriptionStore World where
  find := fun criteria => World.guard .find (kind.base.find criteria)
  add := notedWrite .add .add kind.base.add
  update := notedWrite .update .update kind.base.update
  remove := fun subscription => World.guard .remove fun world =>
    match kind.base.remove subscription world with
    | (.ok (), world) => (.ok (), world.noteWrite (.remove subscription))
    | (.error error, world) => (.error error, world)
  lock := kind.lock

end StoreKind

end EventFeed
