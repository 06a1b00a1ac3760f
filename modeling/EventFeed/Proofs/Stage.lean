import EventFeed.Engine.Operations
import EventFeed.Proofs.Action
import EventFeed.Rehearsal.Script
import EventFeed.Store.Rows

/-! Systems on which engines work: what can be seen of one, which engines run on it, and how
subscriber code leaves it. -/

namespace EventFeed

open EventFeed.Action

/-- What an engine and its subscribers see of a system, with the laws that keep the views apart. -/
structure Stage (σ : Type) where
  /-- The stored subscriptions, in memory. -/
  rows : Part σ (List Subscription)
  /-- The messages of the log, with their indices. -/
  log : σ → List (Nat × Message)
  /-- The time on the clock. -/
  now : σ → Timestamp
  /-- The reports so far. -/
  journal : σ → List Notice
  /-- The calls that subscribers have received so far, each under the id of its subscriber. -/
  calls : σ → List CallNote
  /-- Takes in a report. -/
  observe : Notice → σ → σ
  read_write : ∀ written system, rows.read (rows.write written system) = written
  log_write : ∀ written system, log (rows.write written system) = log system
  journal_write : ∀ written system, journal (rows.write written system) = journal system
  calls_write : ∀ written system, calls (rows.write written system) = calls system
  read_observe : ∀ notice system, rows.read (observe notice system) = rows.read system
  log_observe : ∀ notice system, log (observe notice system) = log system
  journal_observe : ∀ notice system, journal (observe notice system) = journal system ++ [notice]
  calls_observe : ∀ notice system, calls (observe notice system) = calls system
  ascending : ∀ system, ((log system).map Prod.fst).Pairwise (· < ·)

attribute [simp] Stage.read_write Stage.log_write Stage.journal_write Stage.calls_write
  Stage.read_observe Stage.log_observe Stage.journal_observe Stage.calls_observe

namespace Stage

variable {σ : Type} {stage : Stage σ} {engine : Engine σ}

/-- The indices of the log. -/
def indices (stage : Stage σ) (system : σ) : List Nat := (stage.log system).map Prod.fst

/-- An engine that works on a system: it loads the log, keeps its rows, and reports to its journal. -/
structure Hosts (stage : Stage σ) (engine : Engine σ) : Prop where
  load : ∀ criteria options system, engine.source.load criteria options system =
    (.ok ((options.page ((stage.log system).filter fun entry =>
      criteria.admits entry.1 entry.2)).map .ok), system)
  store : engine.store = .memory stage.rows stage.now
  observe : engine.observe = stage.observe

/-- What subscriber code may do between two systems: rows and reports stay, and the log gets longer. -/
structure Onward (stage : Stage σ) (before after : σ) : Prop where
  rows : stage.rows.read after = stage.rows.read before
  journal : stage.journal after = stage.journal before
  log : stage.log before <+: stage.log after

/-- Doing nothing is allowed. -/
theorem Onward.refl (system : σ) : stage.Onward system system :=
  ⟨rfl, rfl, List.prefix_refl _⟩

/-- What is allowed twice is allowed in a row. -/
theorem Onward.trans {first second third : σ} (one : stage.Onward first second)
    (two : stage.Onward second third) : stage.Onward first third :=
  ⟨two.rows.trans one.rows, two.journal.trans one.journal, one.log.trans two.log⟩

/-- Subscriber code that does only what is allowed, whatever its outcome. -/
def Discreet (stage : Stage σ) (hook : Hook σ) : Prop :=
  ∀ system, stage.Onward system (hook system).2

/-- A subscriber whose hooks and handlers all do only what is allowed. -/
structure Behaves (stage : Stage σ) (subscriber : Subscriber σ) : Prop where
  setup : ∀ hook, subscriber.setup = some hook → stage.Discreet hook
  teardown : ∀ hook, subscriber.teardown = some hook → stage.Discreet hook
  handlers : ∀ entry ∈ subscriber.handlers, ∀ message, stage.Discreet (entry.handle message)

/-- A subscriber whose handlers append nothing to the log. -/
def Sparing (stage : Stage σ) (subscriber : Subscriber σ) : Prop :=
  ∀ entry ∈ subscriber.handlers, ∀ message system,
    stage.log (entry.handle message system).2 = stage.log system

/-- A subscriber that appends nothing to the log. -/
structure Resting (stage : Stage σ) (subscriber : Subscriber σ) : Prop where
  setup : ∀ hook, subscriber.setup = some hook → ∀ system, stage.log (hook system).2 = stage.log system
  handlers : stage.Sparing subscriber

/-- The early end of an engine's computation that a panic brings about, where panics are not caught. -/
def Panics (engine : Engine σ) (abort : Abort) : Prop :=
  engine.config.catchPanics = false ∧ ∃ payload, abort = .panicked payload

/-- Where panics are caught, a computation that only panics could end early returns. -/
theorem ends_of_caught {α : Type} {action : Action σ α} {system : σ} {ok : α → σ → Prop}
    {left : σ → Prop} (caught : engine.config.catchPanics = true)
    (meets : Meets action system ok fun abort next => Panics engine abort ∧ left next) :
    Ends action system ok := by
  -- A panic that escapes contradicts the setting.
  refine meets.weaken (fun _ _ holds => holds) fun _ _ early => ?_
  simp [Panics, caught] at early

/-- A report is taken in, and nothing else happens. -/
theorem Hosts.note_run (hosted : stage.Hosts engine) (notice : Notice) (system : σ) :
    engine.note notice system = .ok () (stage.observe notice system) := by
  -- The engine reports to the journal of the system it works on.
  show EStateM.Result.ok () (engine.observe notice system) = _
  rw [hosted.observe]

/-- A computation that starts with a report. -/
theorem Hosts.note_bind {α : Type} (hosted : stage.Hosts engine) (notice : Notice)
    (next : Unit → Action σ α) (system : σ) :
    (engine.note notice >>= next) system = next () (stage.observe notice system) := by
  -- The report is taken in first, and never fails.
  show EStateM.bind (engine.note notice) next system = _
  simp [EStateM.bind, hosted.note_run]

/-- A computation that starts with a report meets what the rest meets after the report. -/
theorem Hosts.note_meets {α : Type} (hosted : stage.Hosts engine) {notice : Notice}
    {next : Unit → Action σ α} {system : σ} {ok : α → σ → Prop} {early : Abort → σ → Prop}
    (rest : Meets (next ()) (stage.observe notice system) ok early) :
    Meets (engine.note notice >>= next) system ok early := by
  -- Both sides run the same rest.
  unfold Meets at rest ⊢
  rw [hosted.note_bind]
  exact rest

/-- Subscriber code is called once, and only a panic that is not caught ends the computation with it. -/
theorem call_leaves (hook : Hook σ) (system : σ) :
    Meets (engine.call hook) system (fun _ next => next = (hook system).2)
      (fun abort next => Panics engine abort ∧ next = (hook system).2) := by
  -- The hook ends in one of three ways, and leaves the same system in each.
  rcases result : hook system with ⟨outcome, next⟩
  unfold Meets Engine.call
  rw [result]
  cases outcome with
  | done => exact rfl
  | failed error => exact rfl
  | panicked payload =>
    cases caught : engine.config.catchPanics with
    | true => simp
    | false => exact ⟨⟨caught, payload, rfl⟩, rfl⟩

/-- Subscriber code that does only what is allowed is called. -/
theorem call_meets {hook : Hook σ} (discreet : stage.Discreet hook) (system : σ) :
    Meets (engine.call hook) system (fun _ next => stage.Onward system next)
      (fun abort next => Panics engine abort ∧ stage.Onward system next) := by
  -- The hook leaves what it is allowed to leave.
  refine (call_leaves hook system).weaken ?_ ?_
  · intro _ next same
    obtain rfl := same
    exact discreet system
  · intro abort next ends
    obtain ⟨uncaught, rfl⟩ := ends
    exact ⟨uncaught, discreet system⟩

/-- Handlers are called in order, and what each of them may do to a system
all of them may do in a row. -/
theorem callAll_moves {moves : σ → σ → Prop} (still : ∀ system, moves system system)
    (onward : ∀ {first second third}, moves first second → moves second third → moves first third)
    {message : Message} (handlers : List (Handler σ))
    (moved : ∀ handler ∈ handlers, ∀ system, moves system (handler message system).2) (system : σ) :
    Meets (engine.callAll message handlers) system (fun _ next => moves system next)
      (fun abort next => Panics engine abort ∧ moves system next) := by
  -- Each handler moves the system on, and the rest goes on from there.
  induction handlers generalizing system with
  | nil => exact still system
  | cons handler rest ih =>
    have first : moves system (handler message system).2 := moved handler (by simp) system
    apply Meets.bind ((call_leaves (handler message) system).weaken (fun _ _ same => same)
      fun _ _ early => ⟨early.1, early.2 ▸ first⟩)
    intro result _ same
    obtain rfl := same
    cases result with
    | error error => exact first
    | ok _ =>
      apply (ih (fun other member => moved other (by simp [member])) _).weaken
      · exact fun _ _ further => onward first further
      · exact fun _ _ further => ⟨further.1, onward first further.2⟩

/-- Handing a message to a subscriber does to a system what its handlers may do in a row. -/
theorem handle_moves {moves : σ → σ → Prop} (still : ∀ system, moves system system)
    (onward : ∀ {first second third}, moves first second → moves second third → moves first third)
    {subscriber : Subscriber σ} (moved : ∀ entry ∈ subscriber.handlers, ∀ message system,
      moves system (entry.handle message system).2) (message : Message) (system : σ) :
    Meets (engine.handle subscriber message) system (fun _ next => moves system next)
      (fun abort next => Panics engine abort ∧ moves system next) := by
  -- The handlers for an event type are among the handlers of the subscriber.
  apply callAll_moves still onward
  intro handler member
  obtain ⟨entry, selected, rfl⟩ := List.mem_map.mp member
  exact moved entry (List.mem_filter.mp selected).1 message

/-- Handing a message to a subscriber moves the system on. -/
theorem handle_meets {subscriber : Subscriber σ} (behaves : stage.Behaves subscriber)
    (message : Message) (system : σ) :
    Meets (engine.handle subscriber message) system (fun _ next => stage.Onward system next)
      (fun abort next => Panics engine abort ∧ stage.Onward system next) :=
  handle_moves Onward.refl Onward.trans behaves.handlers message system

/-- The lock of the store makes no difference to a computation. -/
theorem Hosts.guarded_eq {α : Type} (hosted : stage.Hosts engine) (body : Action σ α) :
    engine.store.guarded body = body := by
  -- Nobody else wants the lock of a store in memory, and it starts the computation once.
  funext system
  simp only [hosted.store, SubscriptionStore.memory, SubscriptionStore.guarded, Lock.hold, Lock.free,
    Lock.inside]
  cases body system with
  | ok value next => rfl
  | error abort next => cases abort <;> rfl

/-- A computation in the store's lock meets what it meets without. -/
theorem Hosts.guarded_meets {α : Type} (hosted : stage.Hosts engine) {body : Action σ α}
    {system : σ} {ok : α → σ → Prop} {early : Abort → σ → Prop} (meets : Meets body system ok early) :
    Meets (engine.store.guarded body) system ok early := by
  rwa [hosted.guarded_eq]

end Stage

end EventFeed
