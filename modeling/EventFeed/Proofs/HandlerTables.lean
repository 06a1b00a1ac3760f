import EventFeed.Proofs.Declarations
import EventFeed.Proofs.Reactions
import EventFeed.Proofs.Sequences
import EventFeed.Proofs.World

/-! Handler tables: a message is handed to what was declared for it, in the order of the declarations and up to the
first failure. -/

namespace EventFeed

variable {α ι σ : Type}

namespace Declaration

/-- Whether a declaration is one of a handler for messages of an event type. -/
def isFor (eventType : String) : Declaration ι σ → Bool
  | onKind kind _ => kind.eventType == eventType
  | onType own _ => own == eventType
  | onAll _ => true
  | _ => false

/-- What becomes of a message that is handed to a declared handler: code for one kind of event has nothing to do with an
event of another kind, which is a failure at once. -/
def react (subscriber : ι) : Declaration ι σ → Handler σ
  | onKind kind handler => fun message system =>
    if message.event.kind = kind then handler subscriber message system
    else (.failed (mismatch kind message), system)
  | onType _ handler => handler subscriber
  | onAll handler => handler subscriber
  | _ => fun _ system => (.done, system)

/-- A declaration is for the event types that its row of the handler table is for, if it has one. -/
theorem isFor_eq (declared : Declaration ι σ) (eventType : String) :
    declared.isFor eventType = declared.entry?.any (·.accepts eventType) := by
  cases declared <;> rfl

/-- What a row of a handler table does with a message is what its declaration says. -/
theorem handler_of_row {declared : Declaration ι σ} {entry : HandlerEntry ι σ}
    (row : declared.entry? = some entry) (subscriber : ι) : entry.handler subscriber = declared.react subscriber := by
  cases declared <;> cases row <;> rfl

/-- The rows for an event type are those of the declarations for it. -/
theorem filter_accepts (eventType : String) (declarations : List (Declaration ι σ)) :
    (declarations.filterMap entry?).filter (·.accepts eventType) =
      (declarations.filter (·.isFor eventType)).filterMap entry? := by
  -- Each declaration has its row on both sides or on neither.
  rw [List.filter_filterMap, List.filterMap_filter]
  refine List.filterMap_congr fun declared _ => ?_
  cases row : declared.entry? <;> simp [isFor_eq, row, Option.filter]

/-- The rows of declarations for an event type do what the declarations say, and none is missing. -/
theorem map_handler (eventType : String) (subscriber : ι) (declarations : List (Declaration ι σ)) :
    ((declarations.filter (·.isFor eventType)).filterMap entry?).map (fun entry => entry.handler subscriber) =
      (declarations.filter (·.isFor eventType)).map (react subscriber) := by
  -- Both sides are maps over the declarations that are chosen.
  rw [List.map_filterMap, ← List.filterMap_eq_map]
  refine List.filterMap_congr fun declared member => ?_
  -- A declaration without a row is for no event type.
  have chosen := List.of_mem_filter member
  cases row : declared.entry? with
  | none => simp [isFor_eq, row] at chosen
  | some entry => simp [handler_of_row row]

end Declaration

/-- A subscriber has the same handlers for an event type as its profile, in the same order, bound to it. -/
theorem ProfiledSubscriber.handlersFor_bind (profiled : ProfiledSubscriber ι σ) (eventType : String) :
    profiled.bind.handlersFor eventType =
      (profiled.profile.handlersFor eventType).map fun entry => entry.handler profiled.subscriber := by
  -- Binding changes neither the event types nor the order.
  simp [Subscriber.handlersFor, bind, SubscriberProfile.handlersFor, List.filter_map, Function.comp_def,
    HandlerEntry.accepts]

/-- How a call of a handler fails, if it does, and the system it leaves; a panic is a failure. -/
def attempt (code : α → Handler σ) (message : Message) (what : α) (system : σ) : Option HandlerError × σ :=
  ((code what message system).1.error?, (code what message system).2)

namespace Engine

variable {engine : Engine σ}

/-- Where panics are caught, each call returns, with the failure of the code that was called. -/
theorem call_run (caught : engine.config.catchPanics = true) (hook : Hook σ) (system : σ) :
    engine.call hook system = .ok (resultOf (hook system).1.error?) (hook system).2 := by
  -- A panic that is caught is turned into a failure, and the other ends are what they are.
  rcases run : hook system with ⟨outcome, next⟩
  unfold call
  rw [run]
  cases outcome with
  | done => rfl
  | failed error => rfl
  | panicked payload => simp [caught, HandlerOutcome.error?, resultOf]

/-- Handlers on a list are called in sequence. -/
theorem callAll_in_sequence (caught : engine.config.catchPanics = true) (code : α → Handler σ) (message : Message)
    (listed : List α) (system : σ) :
    ∃ calls failure last, engine.callAll message (listed.map code) system = .ok (resultOf failure) last ∧
      InSequence (attempt code message) listed system calls failure last := by
  -- The calls for the rest of the list follow the call of the first handler, if that one succeeds.
  induction listed generalizing system with
  | nil => exact ⟨[], none, system, rfl, .nil⟩
  | cons what rest ih =>
    have run := call_run caught (code what message) system
    rw [List.map_cons, callAll]
    show ∃ calls failure last, EStateM.bind _ _ _ = _ ∧ _
    unfold EStateM.bind
    rw [run]
    cases failed : (code what message system).1.error? with
    | some error =>
      have first : InSequence (attempt code message) [what] system _ (some error) (code what message system).2 :=
        .single (Prod.ext failed rfl)
      exact ⟨_, some error, _, rfl, first.halted⟩
    | none =>
      have first : InSequence (attempt code message) [what] system _ none (code what message system).2 :=
        .single (Prod.ext failed rfl)
      obtain ⟨calls, failure, last, ends, sequence⟩ := ih (code what message system).2
      exact ⟨_, failure, last, ends, first.append sequence⟩

end Engine

/-- Whatever a type declares, and whatever its handlers do: a message is handed to exactly the handlers that are
declared for its event type, or for all, in the order of their declaration, each once, up to and including the first
that fails or panics, and all is well exactly when each of them succeeds. A handler for events of another kind with the
same name fails, and none of its code is run. The profile and the subscriber choose the same handlers for every event
type, in the same order. -/
theorem SubscriberProfile.dispatches_as_declared {declarations : List (Declaration ι σ)} {typeName : String}
    {profile : SubscriberProfile ι σ}
    (built : (ProfileDraft.ofDeclarations declarations).build typeName = .ok profile) (subscriber : ι) :
    let bound := ProfiledSubscriber.bind { subscriber, profile }
    (∀ engine : Engine σ, engine.config.catchPanics = true → ∀ message system, ∃ calls failure last,
      engine.handle bound message system = .ok (resultOf failure) last ∧
      InSequence (attempt (Declaration.react subscriber) message)
        (declarations.filter (·.isFor message.eventType)) system calls failure last ∧
      ∀ call ∈ calls, ∀ kind handler, call.what = .onKind kind handler → message.event.kind ≠ kind →
        call.failure = some (Declaration.mismatch kind message) ∧ call.after = call.before) ∧
    ∀ eventType,
      profile.handlersFor eventType =
        (declarations.filter (·.isFor eventType)).filterMap Declaration.entry? ∧
      bound.handlersFor eventType =
        (profile.handlersFor eventType).map fun entry => entry.handler subscriber := by
  -- The table of the profile is that of the declarations, and the rest follows from it.
  intro bound
  have table : ∀ eventType, profile.handlersFor eventType =
      (declarations.filter (·.isFor eventType)).filterMap Declaration.entry? := by
    intro eventType
    rw [handlersFor, (ProfileDraft.describes_of_build built).handlers, Declaration.filter_accepts]
  refine ⟨fun engine caught message system => ?handled,
    fun eventType => ⟨table eventType, ProfiledSubscriber.handlersFor_bind _ eventType⟩⟩
  case handled =>
    have handlers : bound.handlersFor message.eventType =
        (declarations.filter (·.isFor message.eventType)).map (Declaration.react subscriber) := by
      rw [ProfiledSubscriber.handlersFor_bind, table, Declaration.map_handler]
    obtain ⟨calls, failure, last, run, sequence⟩ :=
      Engine.callAll_in_sequence caught (Declaration.react subscriber) message _ system
    refine ⟨calls, failure, last, by rw [Engine.handle, handlers, run], sequence, ?_⟩
    -- A call with an event of another kind never gets to the code.
    intro call member kind handler what other
    have made := sequence.made call member
    rw [what] at made
    simp only [attempt, Declaration.react, if_neg other, HandlerOutcome.error?, Prod.mk.injEq] at made
    exact ⟨made.1.symm, made.2.symm⟩

namespace World

/-- A kind of events that have the same name as plain ones. -/
def foreignKind : EventKind := { path := "foreign", name := "foreign", eventType := "plain" }

/-- A handler that notes its call in some place. -/
def noting (place : Nat) (name : String) : Handler World := fun message =>
  react (fun _ => .done) (handlerNote name message place)

/-- What a type declares that takes events of another kind for plain ones. -/
def mixedUp : List (Declaration String World) :=
  [.onAll (noting 0), .id "mail", .onKind (plainMessage "").event.kind (noting 1), .onType "other" (noting 2),
    .onType "plain" (noting 3), .onKind foreignKind (noting 4), .onAll (noting 5)]

/-- The profile that comes of it. -/
def mixedUpProfile : SubscriberProfile String World where
  id := "mail"
  group := "default"
  runMode := .fromBeginning
  setup := none
  teardown := none
  handlers := mixedUp.filterMap Declaration.entry?

/-- A plain message goes to everything that is declared for its name, up to the handler for events of another kind,
the code of which is never run. -/
theorem mixedUp_dispatches :
    (ProfileDraft.ofDeclarations mixedUp).build "Mail" = .ok mixedUpProfile ∧
      let message := plainMessage "a"
      let failure := Declaration.mismatch foreignKind message
      ∃ calls last,
        (feeder [] .never).handle (ProfiledSubscriber.bind ⟨"mail", mixedUpProfile⟩) message {} =
          .ok (.error failure) last ∧
        InSequence (attempt (Declaration.react "mail") message) (mixedUp.filter (·.isFor message.eventType)) {} calls
          (some failure) last ∧
        last.calls.map CallNote.hook = [.handler 0, .handler 1, .handler 3] := by
  -- The profile is built, and the message is handed over.
  have built : (ProfileDraft.ofDeclarations mixedUp).build "Mail" = .ok mixedUpProfile := rfl
  refine ⟨built, ?_⟩
  intro message failure
  obtain ⟨handled, -⟩ := SubscriberProfile.dispatches_as_declared built "mail"
  obtain ⟨calls, ended, last, run, sequence, -⟩ := handled (feeder [] .never) rfl message {}
  -- What it comes to is computed.
  have outcome : (((feeder [] .never).handle (ProfiledSubscriber.bind ⟨"mail", mixedUpProfile⟩) message).outcome {}).1 =
      .ok (.error failure) := by decide +kernel
  have notes : (((feeder [] .never).handle (ProfiledSubscriber.bind ⟨"mail", mixedUpProfile⟩) message).outcome
      {}).2.calls.map CallNote.hook = [.handler 0, .handler 1, .handler 3] := by decide +kernel
  simp only [Action.outcome, run] at outcome notes
  cases ended with
  | none => cases outcome
  | some error =>
    obtain rfl : error = failure := by simpa [resultOf] using outcome
    exact ⟨calls, last, run, sequence, notes⟩

end World

end EventFeed
