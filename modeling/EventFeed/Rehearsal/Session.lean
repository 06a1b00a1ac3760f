import EventFeed.Rehearsal.Role
import EventFeed.Retry
import EventFeed.Worker

/-! A rehearsal of an engine: the world it works on, the parts it is made of, and how it is deployed. -/

namespace EventFeed

/-- An engine, if one could be made, with its parts and its world. -/
structure Session where
  world : World := {}
  kind : StoreKind := .memory
  cast : List CastMember := []
  /-- The strategy for retries; without one they wait for a clock that is ahead of every stamp. -/
  retry : Option RetryStrategy := none
  config : EngineConfig := {}
  engine : Option (Engine World) := none

/-- Whether a subscription is tried again at the time of a world. -/
def World.retries (strategy : Option RetryStrategy) (world : World) (subscription : Subscription) : Bool :=
  match strategy with
  | some strategy => strategy.approves world.now subscription
  | none => (RetryStrategy.delayed {}).approves Timestamp.latest subscription

namespace Session

/-- The world as a part of a session. -/
def worldPart : Part Session World where
  read := world
  write := fun world session => { session with world }

/-- Stores subscriptions before there is an engine; those in a file are
stamped, those in memory are not. -/
def seed (subscriptions : List Subscription) (session : Session) : Session :=
  match session.kind with
  | .file =>
    let store := StoreKind.file.base
    let world := { session.world with disk := session.world.disk.openFile.2 }
    { session with world := subscriptions.foldl (fun world row => (store.add row world).2) world }
  | _ => { session with world := { session.world with rows := subscriptions } }

/-- Makes a new engine of the parts; every member of the cast comes on with unused scripts. -/
def deploy (session : Session) : Except EngineError Unit × Session :=
  let world := enterCast session.cast session.world
  match registerCast session.cast with
  | .error error => (.error error, { session with world, engine := none })
  | .ok registry =>
    let engine : Engine World :=
      { source := World.source, store := session.kind.store, registry, config := session.config
        retries := World.retries session.retry, observe := World.observe }
    (.ok (), { session with world, engine := some engine })

/-- Opens the file again, which drops the faults that were planned for the store; a file that cannot be opened leaves
everything else as it was. -/
def reopen (session : Session) : Except EngineError Unit × Session :=
  let (result, disk) := session.world.disk.openFile
  let faults := match result with
    | .ok () => session.world.faults.filter fun fault => fault.point = .load ∨ fault.point = .wait
    | .error _ => session.world.faults
  (result, { session with world := { session.world with disk, faults } })

/-- The lock that another handle on the file takes. -/
def otherLock : Lock Session :=
  SubscriptionStore.diskLock
    { read := fun session => session.world.disk
      write := fun disk => worldPart.modify fun world => { world with disk } }

end Session

namespace Worker

/-- More iterations than a rehearsal takes. -/
def amplyManyRounds : Nat := 1000000

/-- Sets a worker to work: whether it is stopped before, and what happens while it waits. -/
def rehearse (worker : Worker World) (stopped : Bool) (waits : List Reply) :
    Action World (Option WorkerStats) := do
  modify fun world => { world with stopped, waits := { replies := waits } }
  worker.run amplyManyRounds

end Worker

end EventFeed
