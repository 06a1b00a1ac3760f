import EventFeed.Proofs.Reactions
import EventFeed.Rehearsal.World
import EventFeed.Retry
import Mathlib.Data.List.Basic

/-! Rehearsed worlds as systems for engines, and subscribers in them that react to their own calls. -/

namespace EventFeed

/-- The indices of a log in memory are counted from one on. -/
theorem EventLog.indices_eq (log : EventLog) : log.entries.map Prod.fst = List.range' 1 log.size := by
  simp [entries, size, Function.comp_def]

/-- The indices of a log in memory are in order. -/
theorem EventLog.ascending (log : EventLog) : (log.entries.map Prod.fst).Pairwise (· < ·) := by
  -- They count up from one.
  rw [log.indices_eq]
  exact List.pairwise_lt_range'

namespace World

/-- A world as a system for engines: its log and its store in memory, and its journals. -/
def stage : Stage World where
  rows := rowsPart
  log := fun world => world.log.entries
  now := now
  journal := notices
  calls := calls
  observe := observe
  read_write := fun _ _ => rfl
  log_write := fun _ _ => rfl
  journal_write := fun _ _ => rfl
  calls_write := fun _ _ => rfl
  read_observe := fun _ _ => rfl
  log_observe := fun _ _ => rfl
  journal_observe := fun _ _ => rfl
  calls_observe := fun _ _ => rfl
  ascending := fun world => world.log.ascending

/-- Appending messages to the log of a world is allowed to everybody. -/
theorem append_onward (messages : List Message) (world : World) :
    stage.Onward world (world.append messages) := by
  -- The entries of the old log keep their indices.
  refine ⟨rfl, rfl, ?_⟩
  show world.log.entries <+: (world.log.append world.now messages).entries
  simp only [EventLog.entries, EventLog.append, List.zipIdx_append, List.map_append]
  exact List.prefix_append ..

/-- An engine that works on the log and the store in memory. -/
def feeder (subscribers : List (Subscriber World)) (retry : RetryStrategy) (config : EngineConfig := {}) :
    Engine World where
  source :=
    { load := fun criteria options world => (.ok ((world.log.load criteria options).map .ok), world)
      wait := fun _ world => (.ok (), world.wait) }
  store := .memory rowsPart now
  registry := ⟨subscribers⟩
  retries := fun world row => retry.approves world.now row
  config := config
  observe := observe

/-- Such an engine works on the world. -/
theorem hosts (subscribers : List (Subscriber World)) (retry : RetryStrategy) (config : EngineConfig) :
    stage.Hosts (feeder subscribers retry config) := ⟨fun _ _ _ => rfl, rfl, rfl⟩

/-- Code that notes its call, and ends as the calls of its subscriber say. -/
def react (judge : List CallNote → HandlerOutcome) (note : CallNote) : Hook World := fun world =>
  (judge (callsOf note.name world.calls ++ [note]), world.noteCall note)

/-- Such code depends on the calls of its subscriber only. -/
theorem react_noted (judge : List CallNote → HandlerOutcome) (note : CallNote) :
    stage.Noted judge note (react judge note) :=
  ⟨fun _ => rfl, fun _ => rfl, fun _ => ⟨rfl, rfl, List.prefix_refl _⟩⟩

/-- A subscriber with a setup hook and one handler for every message. -/
def reacting (id : String) (judge : List CallNote → HandlerOutcome) (runMode : RunMode := .fromBeginning) :
    Subscriber World where
  id := id
  group := "default"
  runMode := runMode
  setup := some (react judge { name := id, hook := .setup })
  teardown := none
  handlers := [⟨none, fun message => react judge (handlerNote id message 0)⟩]

/-- Such a subscriber is self-contained. -/
theorem reacting_contained (id : String) (judge : List CallNote → HandlerOutcome) (runMode : RunMode) :
    stage.SelfContained judge (reacting id judge runMode) := by
  -- Each piece of its code is.
  refine ⟨fun hook declared => ?_, fun hook declared => ?_, fun entry member message => ?_⟩
  · obtain rfl := Option.some.inj declared
    exact react_noted judge _
  · cases declared
  · obtain rfl := List.mem_singleton.mp member
    exact react_noted judge _

/-- Such a subscriber appends nothing. -/
theorem reacting_resting (id : String) (judge : List CallNote → HandlerOutcome) (runMode : RunMode) :
    stage.Resting (reacting id judge runMode) := by
  -- Its code notes calls only.
  refine ⟨fun hook declared world => ?_, fun entry member message world => ?_⟩
  · obtain rfl := Option.some.inj declared
    rfl
  · obtain rfl := List.mem_singleton.mp member
    rfl

/-- How calls end in rehearsals: the second message of the shaky subscriber in a panic, and
everything else well. -/
def verdict (id : String) (calls : List CallNote) : HandlerOutcome :=
  if id = "shaky" ∧ (calls.filter fun note => decide (note.hook = .handler 0)).length = 2 then
    .panicked .other
  else .done

/-- A steady subscriber and a shaky one. -/
def pair : List (Subscriber World) :=
  [reacting "steady" (verdict "steady"), reacting "shaky" (verdict "shaky")]

/-- Both of them are self-contained. -/
theorem pair_contained : ∀ subscriber ∈ pair, stage.SelfContained (verdict subscriber.id) subscriber := by
  -- They react to messages, and do nothing else.
  intro subscriber member
  rcases List.mem_pair.mp member with rfl | rfl <;> exact reacting_contained ..

/-- Neither of them appends anything. -/
theorem pair_resting : ∀ subscriber ∈ pair, stage.Resting subscriber := by
  -- Reacting leaves the log alone.
  intro subscriber member
  rcases List.mem_pair.mp member with rfl | rfl <;> exact reacting_resting ..

/-- A message that carries a text. -/
def plainMessage (data : String) : Message :=
  { event := { kind := { path := "plain", name := "plain", eventType := "plain" }, data } }

/-- A world whose log holds messages that carry some texts. -/
def telling (texts : List String) : World := { log := ⟨texts.map plainMessage⟩ }

end World

end EventFeed
