import EventFeed.Subscriber.Basic

/-! What a subscriber type declares about itself, one thing after another, and
the profile that it amounts to. -/

namespace EventFeed

/-- One thing that a subscriber type declares. -/
inductive Declaration (ι σ : Type) where
  /-- Its id; the last one counts. -/
  | id (name : String)
  /-- Its group; the last one counts. -/
  | group (name : String)
  /-- Its run mode; the last one counts. -/
  | runMode (mode : RunMode)
  /-- Its setup hook, which may be declared once. -/
  | setup (hook : ι → Hook σ)
  /-- Its teardown hook, which may be declared once. -/
  | teardown (hook : ι → Hook σ)
  /-- A handler for the events of one kind. -/
  | onKind (kind : EventKind) (handler : ι → Handler σ)
  /-- A handler for every message of an event type. -/
  | onType (eventType : String) (handler : ι → Handler σ)
  /-- A handler for every message. -/
  | onAll (handler : ι → Handler σ)

variable {ι σ : Type}

namespace Declaration

/-- The failure of a handler for one kind that is handed an event of another kind. -/
def mismatch (kind : EventKind) (message : Message) : HandlerError :=
  HandlerError.ofMessage
    ("message of type " ++ message.eventType ++ " does not carry a " ++ kind.path)

/-- Calls a handler only with events of its kind. -/
def guardKind (kind : EventKind) (handler : ι → Handler σ) (subscriber : ι) : Handler σ :=
  fun message system =>
    if message.event.kind = kind then handler subscriber message system
    else (.failed (mismatch kind message), system)

/-- The id in a declaration. -/
def id? : Declaration ι σ → Option String
  | id name => some name
  | _ => none

/-- The group in a declaration. -/
def group? : Declaration ι σ → Option String
  | group name => some name
  | _ => none

/-- The run mode in a declaration. -/
def runMode? : Declaration ι σ → Option RunMode
  | runMode mode => some mode
  | _ => none

/-- The setup hook in a declaration. -/
def setup? : Declaration ι σ → Option (ι → Hook σ)
  | setup hook => some hook
  | _ => none

/-- The teardown hook in a declaration. -/
def teardown? : Declaration ι σ → Option (ι → Hook σ)
  | teardown hook => some hook
  | _ => none

/-- The row of the handler table in a declaration. -/
def entry? : Declaration ι σ → Option (HandlerEntry ι σ)
  | onKind kind handler => some ⟨some kind.eventType, guardKind kind handler⟩
  | onType eventType handler => some ⟨some eventType, handler⟩
  | onAll handler => some ⟨none, handler⟩
  | _ => none

end Declaration

/-- What has been declared so far. -/
structure ProfileDraft (ι σ : Type) where
  id : Option String := none
  group : Option String := none
  runMode : RunMode := .fromBeginning
  setup : Option (ι → Hook σ) := none
  teardown : Option (ι → Hook σ) := none
  duplicateSetup : Bool := false
  duplicateTeardown : Bool := false
  handlers : List (HandlerEntry ι σ) := []

namespace ProfileDraft

/-- Takes in one declaration. -/
def declare (draft : ProfileDraft ι σ) : Declaration ι σ → ProfileDraft ι σ
  | .id name => { draft with id := some name }
  | .group name => { draft with group := some name }
  | .runMode mode => { draft with runMode := mode }
  | .setup hook =>
    { draft with setup := some hook, duplicateSetup := draft.duplicateSetup || draft.setup.isSome }
  | .teardown hook =>
    { draft with
      teardown := some hook, duplicateTeardown := draft.duplicateTeardown || draft.teardown.isSome }
  | .onKind kind handler =>
    { draft with
      handlers := draft.handlers ++ [⟨some kind.eventType, Declaration.guardKind kind handler⟩] }
  | .onType eventType handler =>
    { draft with handlers := draft.handlers ++ [⟨some eventType, handler⟩] }
  | .onAll handler => { draft with handlers := draft.handlers ++ [⟨none, handler⟩] }

/-- The draft after a list of declarations. -/
def ofDeclarations (declarations : List (Declaration ι σ)) : ProfileDraft ι σ :=
  declarations.foldl declare {}

/-- A missing id is reported first, then a second setup hook, then a second teardown hook. -/
def build (typeName : String) (draft : ProfileDraft ι σ) :
    Except EngineError (SubscriberProfile ι σ) :=
  match draft.id with
  | none => .error (.missingSubscriberId typeName)
  | some id =>
    if draft.duplicateSetup then .error (.duplicateSetup id)
    else if draft.duplicateTeardown then .error (.duplicateTeardown id)
    else .ok {
      id
      group := draft.group.getD "default"
      runMode := draft.runMode
      setup := draft.setup
      teardown := draft.teardown
      handlers := draft.handlers }

end ProfileDraft

end EventFeed
