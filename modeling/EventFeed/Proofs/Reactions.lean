import EventFeed.Proofs.Stage

/-! Subscribers whose code depends on nothing but the calls they receive: how each call ends, and
what a message comes to. -/

namespace EventFeed

open EventFeed.Action

variable {σ : Type}

/-- The calls of one subscriber. -/
def callsOf (id : String) (calls : List CallNote) : List CallNote := calls.filter fun note => note.name == id

@[simp] theorem callsOf_append (id : String) (front back : List CallNote) :
    callsOf id (front ++ back) = callsOf id front ++ callsOf id back := List.filter_append ..

/-- Calls of a subscriber are all its own. -/
theorem callsOf_own {id : String} {calls : List CallNote} (own : ∀ note ∈ calls, note.name = id) :
    callsOf id calls = calls := List.filter_eq_self.mpr fun note member => by simpa using own note member

/-- Among calls of another subscriber there are none of its own. -/
theorem callsOf_other {id other : String} {calls : List CallNote} (own : ∀ note ∈ calls, note.name = other)
    (different : other ≠ id) : callsOf id calls = [] :=
  List.filter_eq_nil_iff.mpr fun note member => by simpa [own note member] using different

/-- The note of a handler's call. -/
def handlerNote (id : String) (message : Message) (place : Nat) : CallNote :=
  { name := id, hook := .handler place, message := some message }

/-- The error that a call ends with, if it does not succeed; a panic counts as an error. -/
def HandlerOutcome.error? : HandlerOutcome → Option HandlerError
  | done => none
  | failed error => some error
  | panicked payload => some (.ofPanic payload)

/-- How a call ends for its caller. -/
def resultOf : Option HandlerError → Except HandlerError Unit
  | none => .ok ()
  | some error => .error error

/-- What a message comes to: the handlers in some places are called up to the first error. -/
def respond (judge : List CallNote → HandlerOutcome) (id : String) (message : Message) :
    List Nat → List CallNote → List CallNote × Option HandlerError
  | [], _ => ([], none)
  | place :: rest, own =>
    let note := handlerNote id message place
    match (judge (own ++ [note])).error? with
    | some error => ([note], some error)
    | none =>
      let (made, error) := respond judge id message rest (own ++ [note])
      (note :: made, error)

/-- The places of a subscriber's handlers for an event type. -/
def Subscriber.places (subscriber : Subscriber σ) (eventType : String) : List Nat :=
  (subscriber.handlers.zipIdx.filter fun entry =>
    entry.1.eventType.all fun own => own == eventType).map Prod.snd

/-- What a message comes to for a subscriber that has received some calls: further calls, and an
error or none. -/
def answer (judge : List CallNote → HandlerOutcome) (subscriber : Subscriber σ) (message : Message)
    (own : List CallNote) : List CallNote × Option HandlerError :=
  respond judge subscriber.id message (subscriber.places message.eventType) own

/-- A subscriber is called under its own id. -/
theorem respond_names {judge : List CallNote → HandlerOutcome} {id : String} {message : Message}
    {places : List Nat} {own : List CallNote} :
    ∀ note ∈ (respond judge id message places own).1, note.name = id := by
  -- Each call is noted under the id before the next one is made.
  induction places generalizing own with
  | nil => simp [respond]
  | cons place rest ih =>
    simp only [respond]
    split
    · simp [handlerNote]
    · intro note member
      rcases List.mem_cons.mp member with rfl | later
      · rfl
      · exact ih note later

namespace Stage

variable {stage : Stage σ} {engine : Engine σ} {judge : List CallNote → HandlerOutcome}

/-- Code that notes its call, and whose outcome depends on the calls of its subscriber only. -/
structure Noted (stage : Stage σ) (judge : List CallNote → HandlerOutcome) (note : CallNote)
    (hook : Hook σ) : Prop where
  outcome : ∀ system, (hook system).1 = judge (callsOf note.name (stage.calls system) ++ [note])
  calls : ∀ system, stage.calls (hook system).2 = stage.calls system ++ [note]
  onward : stage.Discreet hook

/-- A subscriber whose outcomes depend on its own calls only. -/
structure SelfContained (stage : Stage σ) (judge : List CallNote → HandlerOutcome)
    (subscriber : Subscriber σ) : Prop where
  setup : ∀ hook, subscriber.setup = some hook →
    stage.Noted judge { name := subscriber.id, hook := .setup } hook
  teardown : ∀ hook, subscriber.teardown = some hook →
    stage.Noted judge { name := subscriber.id, hook := .teardown } hook
  handlers : ∀ entry ∈ subscriber.handlers.zipIdx, ∀ message,
    stage.Noted judge (handlerNote subscriber.id message entry.2) (entry.1.handle message)

/-- Such a subscriber does only what is allowed. -/
theorem SelfContained.behaves {subscriber : Subscriber σ} (contained : stage.SelfContained judge subscriber) :
    stage.Behaves subscriber := by
  -- Every handler has a place.
  refine ⟨fun hook declared => (contained.setup hook declared).onward,
    fun hook declared => (contained.teardown hook declared).onward, fun entry member message => ?_⟩
  obtain ⟨place, within, rfl⟩ := List.mem_iff_getElem.mp member
  have placed : (subscriber.handlers[place], place) ∈ subscriber.handlers.zipIdx := by
    simp [List.mem_zipIdx_iff_getElem?]
  exact (contained.handlers _ placed message).onward

/-- A call of code that depends on its subscriber's calls ends as they say. -/
theorem call_noted {note : CallNote} {hook : Hook σ} (caught : engine.config.catchPanics = true)
    (noted : stage.Noted judge note hook) (system : σ) :
    Ends (engine.call hook) system fun result after => after = (hook system).2 ∧
      result = resultOf (judge (callsOf note.name (stage.calls system) ++ [note])).error? := by
  -- A panic is an error like any other.
  rw [← noted.outcome system]
  rcases result : hook system with ⟨outcome, next⟩
  unfold Ends Meets Engine.call
  rw [result]
  cases outcome with
  | done => exact ⟨rfl, rfl⟩
  | failed error => exact ⟨rfl, rfl⟩
  | panicked payload => simp [caught, HandlerOutcome.error?, resultOf]

/-- What is left of a call: some calls more, perhaps a longer log, and an unchanged one where
nothing is appended. -/
structure Answered (stage : Stage σ) (still : Prop) (made : List CallNote) (before after : σ) : Prop where
  calls : stage.calls after = stage.calls before ++ made
  onward : stage.Onward before after
  log : still → stage.log after = stage.log before

/-- Handlers that depend on their subscriber's calls are called up to the first error. -/
theorem callAll_noted {id : String} {message : Message} (caught : engine.config.catchPanics = true)
    (pairs : List (BoundHandler σ × Nat))
    (noted : ∀ pair ∈ pairs, stage.Noted judge (handlerNote id message pair.2) (pair.1.handle message))
    (system : σ) :
    Ends (engine.callAll message (pairs.map fun pair => pair.1.handle)) system fun result after =>
      result = resultOf
        (respond judge id message (pairs.map Prod.snd) (callsOf id (stage.calls system))).2 ∧
      stage.Answered (∀ pair ∈ pairs, ∀ system, stage.log (pair.1.handle message system).2 = stage.log system)
        (respond judge id message (pairs.map Prod.snd) (callsOf id (stage.calls system))).1 system after := by
  -- The calls of each handler come after those of the handlers before it.
  induction pairs generalizing system with
  | nil => exact Meets.pure ⟨rfl, by simp [respond], .refl system, fun _ => rfl⟩
  | cons pair rest ih =>
    have own := noted pair (by simp)
    apply (call_noted caught own system).bind
    intro result after ends
    obtain ⟨rfl, rfl⟩ := ends
    have named : (handlerNote id message pair.2).name = id := rfl
    rw [named]
    have made := own.calls system
    have onward := own.onward system
    simp only [List.map_cons, respond]
    -- Only where the call succeeds there is a next one.
    cases failed : (judge (callsOf id (stage.calls system) ++ [handlerNote id message pair.2])).error? with
    | some error =>
      exact Meets.pure ⟨rfl, made, onward, fun still => still pair (by simp) system⟩
    | none =>
      -- The next handler sees the calls up to this one.
      have history : callsOf id (stage.calls (pair.1.handle message system).2) =
          callsOf id (stage.calls system) ++ [handlerNote id message pair.2] := by
        have mine : callsOf id [handlerNote id message pair.2] = [handlerNote id message pair.2] :=
          callsOf_own (by simp [handlerNote])
        rw [made, callsOf_append, mine]
      apply (ih (fun other member => noted other (by simp [member])) _).mono
      intro result after ends
      obtain ⟨shape, calls, further, log⟩ := ends
      rw [history] at shape calls
      refine ⟨shape, by simp [calls, made], onward.trans further, fun still => ?_⟩
      rw [log fun other member => still other (by simp [member])]
      exact still pair (by simp) system

/-- A message comes to what the calls of its subscriber say. -/
theorem handle_noted {subscriber : Subscriber σ} (caught : engine.config.catchPanics = true)
    (contained : stage.SelfContained judge subscriber) (message : Message) (system : σ) :
    Ends (engine.handle subscriber message) system fun result after =>
      result = resultOf (answer judge subscriber message (callsOf subscriber.id (stage.calls system))).2 ∧
      stage.Answered (stage.Resting subscriber)
        (answer judge subscriber message (callsOf subscriber.id (stage.calls system))).1 system after := by
  -- The handlers for the event type are found together with their places.
  let pairs := subscriber.handlers.zipIdx.filter fun entry =>
    entry.1.eventType.all fun own => own == message.eventType
  have handlers : subscriber.handlersFor message.eventType = pairs.map fun pair => pair.1.handle := by
    have plain : subscriber.handlers = subscriber.handlers.zipIdx.map Prod.fst := by simp
    rw [Subscriber.handlersFor, plain, List.filter_map, List.map_map]
    simp [pairs, Function.comp_def]
  unfold Engine.handle
  rw [handlers]
  refine (callAll_noted caught pairs
    (fun pair member => contained.handlers pair (List.mem_filter.mp member).1 message) system).mono ?_
  intro result after ends
  obtain ⟨shape, calls, onward, log⟩ := ends
  -- Resting handlers leave the log as it is.
  refine ⟨shape, calls, onward, fun resting => log fun pair member => ?_⟩
  have present : pair.1 ∈ subscriber.handlers := List.fst_mem_of_mem_zipIdx (List.mem_filter.mp member).1
  exact resting.handlers pair.1 present message

end Stage

end EventFeed
