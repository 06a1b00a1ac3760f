import EventFeed.Document.Record
import EventFeed.Time.Timestamp

/-! Messages of the log: an event of some kind, and the headers around it. -/

namespace EventFeed

/-- A kind of event; two kinds may share the event type they are published under. -/
structure EventKind where
  /-- The full name of the kind, which tells it apart from every other one. -/
  path : String
  name : String
  /-- The name its events are published under. -/
  eventType : String
deriving DecidableEq

/-- An event: its kind and what it carries. -/
structure Event where
  kind : EventKind
  data : String
deriving DecidableEq

/-- What is known about a message besides its event. -/
structure Headers where
  /-- What sort of aggregate the event belongs to. -/
  aggregateName : Option String := none
  /-- Which aggregate the event belongs to. -/
  aggregateId : Option String := none
  /-- The place of the event among those of its aggregate. -/
  playhead : Option Nat := none
  /-- When the message was recorded. -/
  recordedOn : Option Timestamp := none
  /-- Whether the event is kept for the record only. -/
  archived : Bool := false
  /-- Further headers, in the order of their names. -/
  custom : List (String × Document) := []
deriving BEq

namespace Headers

/-- Puts a header in its place among the others; it replaces one of the same name. -/
def insertSorted (name : String) (value : Document) : List (String × Document) → List (String × Document)
  | [] => [(name, value)]
  | (other, held) :: rest =>
    if name = other then (name, value) :: rest
    else if name < other then (name, value) :: (other, held) :: rest
    else (other, held) :: insertSorted name value rest

/-- The fields of the headers, in order. -/
def fieldNames : List String :=
  ["aggregate_name", "aggregate_id", "playhead", "recorded_on", "archived", "custom"]

/-- The headers as a record. -/
def toDocument (layout : Layout) (headers : Headers) : Document :=
  Document.record layout
    [("aggregate_name", .ofOption .text headers.aggregateName),
      ("aggregate_id", .ofOption .text headers.aggregateId),
      ("playhead", .ofOption .natural headers.playhead),
      ("recorded_on", .ofOption (fun point => .ofInt point.micros.toInt) headers.recordedOn),
      ("archived", .bool headers.archived),
      ("custom", Document.named headers.custom)]

/-- Reads entries under names; a later entry replaces an earlier one of the same name. -/
def custom? : Document → Option (List (String × Document))
  | .entries items =>
    items.foldlM (fun found (key, value) =>
      match key with
      | .name name => some (insertSorted name value found)
      | _ => none) []
  | _ => none

def ofDocument? (document : Document) : Option Headers := do
  let [aggregateName, aggregateId, playhead, recordedOn, archived, custom] ←
    document.fields? fieldNames | none
  return {
    aggregateName := ← Document.optional Document.text? aggregateName
    aggregateId := ← Document.optional Document.text? aggregateId
    playhead := ← Document.optional (Document.naturalBelow? UInt64.size) playhead
    recordedOn := (← Document.optional Document.int64? recordedOn).map Timestamp.mk
    archived := ← Document.required Document.bool? archived
    custom := ← Document.required custom? custom }

/-- The debugging text of the headers. -/
def debugText (headers : Headers) : String :=
  recordText "Headers"
    [("aggregate_name", optionText quoted headers.aggregateName),
      ("aggregate_id", optionText quoted headers.aggregateId),
      ("playhead", optionText toString headers.playhead),
      ("recorded_on", optionText Timestamp.debugText headers.recordedOn),
      ("archived", toString headers.archived),
      ("custom", "\x7b" ++ ", ".intercalate
        (headers.custom.map fun (name, value) => quoted name ++ ": " ++ value.debugText) ++ "\x7d")]

end Headers

/-- An event with its headers. -/
structure Message where
  event : Event
  headers : Headers := {}

namespace Message

/-- The name the event is published under. -/
def eventType (message : Message) : String := message.event.kind.eventType

/-- What the event carries, when it is of the given kind. -/
def data? (message : Message) (kind : EventKind) : Option String :=
  if message.event.kind = kind then some message.event.data else none

/-- Says which aggregate the event belongs to, and where among its events it stands. -/
def withAggregate (message : Message) (name id : String) (playhead : Nat) : Message :=
  { message with headers :=
    { message.headers with aggregateName := some name, aggregateId := some id, playhead := some playhead } }

/-- Sets when the message was recorded. -/
def withRecordedOn (message : Message) (point : Timestamp) : Message :=
  { message with headers := { message.headers with recordedOn := some point } }

/-- Sets whether the event is kept for the record only. -/
def withArchived (message : Message) (archived : Bool) : Message :=
  { message with headers := { message.headers with archived := archived } }

/-- Sets one further header. -/
def withHeader (message : Message) (name : String) (value : Document) : Message :=
  { message with headers :=
    { message.headers with custom := Headers.insertSorted name value message.headers.custom } }

/-- Sets when the message was recorded, unless that is known. -/
def stamp (message : Message) (now : Timestamp) : Message :=
  match message.headers.recordedOn with
  | some _ => message
  | none => message.withRecordedOn now

/-- The debugging text of a message. -/
def debugText (message : Message) : String :=
  recordText "Message"
    [("event_type", quoted message.eventType),
      ("event", recordText message.event.kind.name [("data", quoted message.event.data)]),
      ("headers", message.headers.debugText)]

end Message

end EventFeed
