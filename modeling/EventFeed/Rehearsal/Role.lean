import EventFeed.Rehearsal.World

/-! Scripted subscribers: what they declare, the scripts they bring along, and how
a cast of them is registered. -/

namespace EventFeed

/-- What a handler of a scripted subscriber is for. -/
inductive HandlerSubject where
  | kind (kind : EventKind)
  | eventType (name : String)
  | all
deriving DecidableEq

/-- A scripted subscriber: what its type declares, and what its code does. -/
structure Role where
  /-- The ids it declares, one after another. -/
  ids : List String := []
  group : Option String := none
  runMode : Option RunMode := none
  setup : Option (List Reply) := none
  /-- How often the setup hook is declared. -/
  setupTimes : Nat := 1
  teardown : Option (List Reply) := none
  /-- How often the teardown hook is declared. -/
  teardownTimes : Nat := 1
  handlers : List (HandlerSubject × List Reply) := []

namespace Role

/-- A hook that acts out its script. -/
def hook (name : HookName) (actor : Actor) : Hook World := World.perform actor name none

/-- A handler that acts out its script. -/
def handler (place : Nat) (actor : Actor) : Handler World := fun message =>
  World.perform actor (.handler place) (some message)

/-- The declaration of a handler. -/
def declareHandler (subject : HandlerSubject) (place : Nat) : Declaration Actor World :=
  match subject with
  | .kind kind => .onKind kind (handler place)
  | .eventType name => .onType name (handler place)
  | .all => .onAll (handler place)

/-- What the type of the subscriber declares, in order. -/
def declarations (role : Role) : List (Declaration Actor World) :=
  role.ids.map .id ++
  role.group.toList.map .group ++
  role.runMode.toList.map .runMode ++
  role.setup.toList.flatMap (fun _ => List.replicate role.setupTimes (.setup (hook .setup))) ++
  role.teardown.toList.flatMap
    (fun _ => List.replicate role.teardownTimes (.teardown (hook .teardown))) ++
  role.handlers.zipIdx.map fun ((subject, _), place) => declareHandler subject place

/-- The scripts of a subscriber, none of which has been used. -/
def script (role : Role) : HookName → Script
  | .setup => { replies := role.setup.getD [] }
  | .teardown => { replies := role.teardown.getD [] }
  | .handler place => { replies := (role.handlers[place]?.map Prod.snd).getD [] }

/-- Gives a subscriber its scripts. -/
def enter (role : Role) (actor : Actor) (world : World) : World :=
  { world with scripts := fun other name =>
      if other = actor.number then role.script name else world.scripts other name }

end Role

/-- A scripted subscriber, the name of its type, and the name it goes by in journals. -/
structure CastMember where
  typeName : String
  name : String
  role : Role

namespace CastMember

/-- The subscriber itself, once it has a number. -/
def actor (member : CastMember) (number : Nat) : Actor := ⟨number, member.name⟩

/-- Registers one member, who gets a number. -/
def register (registry : Registry World) (cache : ProfileCache Actor World) (member : CastMember)
    (number : Nat) : Except EngineError (Registry World) × ProfileCache Actor World :=
  Id.run (registry.register cache member.typeName (pure member.role.declarations) (member.actor number))

end CastMember

/-- Registers a cast, numbered from zero; the first failure ends the registration. -/
def registerCast (cast : List CastMember) : Except EngineError (Registry World) :=
  let step (state : Registry World × ProfileCache Actor World) (entry : CastMember × Nat) :
      Except EngineError (Registry World × ProfileCache Actor World) :=
    match entry.1.register state.1 state.2 entry.2 with
    | (.ok registry, cache) => .ok (registry, cache)
    | (.error error, _) => .error error
  (cast.zipIdx.foldlM step ({}, {})).map Prod.fst

/-- Gives each member of a cast its scripts. -/
def enterCast (cast : List CastMember) (world : World) : World :=
  cast.zipIdx.foldl (fun world (member, number) => member.role.enter (member.actor number) world) world

end EventFeed
