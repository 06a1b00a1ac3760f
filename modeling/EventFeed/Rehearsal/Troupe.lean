import EventFeed.Rehearsal.Role

/-! Scripted subscribers that are hired one by one, and whose code can be called without an engine. -/

namespace EventFeed

/-- The subscribers hired so far, and the profiles of their types. -/
structure Troupe where
  world : World := {}
  cache : ProfileCache Actor World := {}
  registry : Registry World := {}
  /-- How many were made, registered or not. -/
  count : Nat := 0

namespace Troupe

/-- The profile of a type; one that could be built is kept. -/
def profile (troupe : Troupe) (member : CastMember) :
    Except EngineError (SubscriberProfile Actor World) × Troupe :=
  let (result, cache) := Id.run (troupe.cache.profile member.typeName (pure member.role.declarations))
  (result, { troupe with cache })

/-- Makes a new subscriber and registers it; a failure leaves nobody registered. -/
def hire (troupe : Troupe) (member : CastMember) : Except EngineError Unit × Troupe :=
  let (result, cache) := member.register troupe.registry troupe.cache troupe.count
  let world := member.role.enter (member.actor troupe.count) troupe.world
  let hired := { troupe with world, cache, count := troupe.count + 1 }
  match result with
  | .ok registry => (.ok (), { hired with registry })
  | .error error => (.error error, { hired with registry := {} })

/-- Calls a piece of code; a panic of it ends everything. -/
def callOne (hook : Hook World) : Action World (Except HandlerError Unit) := fun world =>
  match hook world with
  | (.done, next) => .ok (.ok ()) next
  | (.failed error, next) => .ok (.error error) next
  | (.panicked payload, next) => .error (.panicked payload) next

/-- How pieces of code end that are called in order, whether or not one fails,
and the calls that are noted. -/
def call (troupe : Troupe) (hooks : List (Hook World)) :
    Except Abort (List (Except HandlerError Unit)) × List CallNote × Troupe :=
  let (result, world) := (hooks.mapM callOne).outcome troupe.world.clearJournals
  (result, world.calls, { troupe with world })

end Troupe

end EventFeed
