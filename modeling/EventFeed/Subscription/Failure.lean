import EventFeed.Subscription.Status

/-! Failures of subscriber code, as they are raised, as they are captured and
as a subscription keeps them. -/

namespace EventFeed

/-- The text of an error and the texts of the errors that led to it, the nearest first. -/
structure ErrorChain where
  message : String
  sources : List String := []
deriving DecidableEq

/-- An error that a hook or a handler returns. -/
structure HandlerError where
  error : ErrorChain
  /-- A short name for the kind of failure. -/
  code : Option String := none
  /-- Where the error was raised. -/
  location : Option String := none
  /-- The calls that led there. -/
  trace : Option String := none
deriving DecidableEq

/-- What subscriber code leaves behind when it panics. -/
inductive PanicPayload where
  | text (message : String)
  | other
deriving DecidableEq

namespace HandlerError

/-- The place given for errors that are raised by the code at hand. -/
def here : String := "here"

/-- An error with its causes, raised here. -/
def raise (error : ErrorChain) : HandlerError := { error, location := some here }

/-- An error that consists of a message alone, raised here. -/
def ofMessage (message : String) : HandlerError := raise { message }

/-- Names the kind of failure. -/
def withCode (error : HandlerError) (code : String) : HandlerError := { error with code := some code }

/-- A panic as an error: it has the code `panic` and no place. -/
def ofPanic : PanicPayload → HandlerError
  | .text message => { error := { message := "handler panicked: " ++ message }, code := some "panic" }
  | .other => { error := { message := "handler panicked" }, code := some "panic" }

/-- The text of an error leaves its causes out. -/
def text (error : HandlerError) : String := error.error.message

/-- The debugging text of an error made from a message, up to the code. -/
def debugHead (error : HandlerError) : String :=
  "HandlerError \x7b error: MessageError(" ++ quoted error.text ++ "), code: " ++
    optionText quoted error.code

end HandlerError

/-- One error of a captured chain. -/
structure ErrorLevel where
  message : String
  code : Option String := none
  location : Option String := none
  trace : Option String := none
deriving DecidableEq

/-- An error as plain data, with the error that caused it, if there is one. -/
inductive CapturedError where
  | root (level : ErrorLevel)
  | caused (level : ErrorLevel) (cause : CapturedError)
deriving DecidableEq

namespace CapturedError

/-- The outermost error. -/
def level : CapturedError → ErrorLevel
  | root level => level
  | caused level _ => level

def message (error : CapturedError) : String := error.level.message

/-- Puts another level in the outermost place. -/
def withLevel (level : ErrorLevel) : CapturedError → CapturedError
  | root _ => root level
  | caused _ cause => caused level cause

/-- The errors from the outermost one to the last cause. -/
def chain : CapturedError → List ErrorLevel
  | root level => [level]
  | caused level cause => level :: cause.chain

/-- The messages from the outermost one to the last cause, with colons between them. -/
def text : CapturedError → String
  | root level => level.message
  | caused level cause => level.message ++ ": " ++ cause.text

/-- Captures a chain of messages. -/
def ofMessages (message : String) : List String → CapturedError
  | [] => root { message }
  | source :: rest => caused { message } (ofMessages source rest)

/-- Captures an error without code, place or trace. -/
def ofError (error : ErrorChain) : CapturedError := ofMessages error.message error.sources

/-- Captures the error of a hook or handler; code, place and trace belong to the outermost level. -/
def ofHandler (error : HandlerError) : CapturedError :=
  (ofError error.error).withLevel
    { message := error.error.message
      code := error.code
      location := error.location
      trace := error.trace }

/-- The fields of a captured error, in order. -/
def fieldNames : List String := ["message", "code", "location", "trace", "cause"]

/-- The fields of one level, apart from the cause. -/
def levelFields (level : ErrorLevel) : List (String × Document) :=
  [("message", .text level.message), ("code", .ofOption .text level.code),
    ("location", .ofOption .text level.location), ("trace", .ofOption .text level.trace)]

/-- A captured error as a record whose last field holds the cause. -/
def toDocument (layout : Layout) : CapturedError → Document
  | root level => Document.record layout (levelFields level ++ [("cause", .null)])
  | caused level cause =>
    Document.record layout (levelFields level ++ [("cause", cause.toDocument layout)])

/-- Reads a captured error from a document of at most the given depth. -/
def ofDepth? : (depth : Nat) → Document → Option CapturedError
  | 0, _ => none
  | depth + 1, document => do
    let [message, code, location, trace, cause] ← document.fields? fieldNames | none
    let level : ErrorLevel :=
      { message := ← Document.required Document.text? message
        code := ← Document.optional Document.text? code
        location := ← Document.optional Document.text? location
        trace := ← Document.optional Document.text? trace }
    match ← Document.optional (ofDepth? depth) cause with
    | none => return root level
    | some cause => return caused level cause

def ofDocument? (document : Document) : Option CapturedError := ofDepth? document.depth document

end CapturedError

/-- The failure that a subscription stopped on. -/
structure SubscriptionError where
  message : String
  /-- The status to go back to. -/
  previous : Status
  context : Option CapturedError := none
deriving DecidableEq

namespace SubscriptionError

/-- Keeps a captured error with its own message. -/
def ofCaptured (previous : Status) (error : CapturedError) : SubscriptionError where
  message := error.message
  previous := previous
  context := some error

/-- The fields of a kept failure, in order. -/
def fieldNames : List String := ["error_message", "previous_status", "error_context"]

/-- A kept failure as a record. -/
def toDocument (layout : Layout) (error : SubscriptionError) : Document :=
  Document.record layout
    [("error_message", .text error.message), ("previous_status", error.previous.toDocument),
      ("error_context", .ofOption (CapturedError.toDocument layout) error.context)]

def ofDocument? (document : Document) : Option SubscriptionError := do
  let [message, previous, context] ← document.fields? fieldNames | none
  return {
    message := ← Document.required Document.text? message
    previous := ← Document.required Status.ofDocument? previous
    context := ← Document.optional CapturedError.ofDocument? context }

end SubscriptionError

end EventFeed
