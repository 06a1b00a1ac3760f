import EventFeed.Log.Criteria

/-! A log of messages in memory; the first message has the index 1 and each next one the next index. -/

namespace EventFeed

/-- Messages in the order in which they were appended. -/
structure EventLog where
  messages : List Message := []

namespace EventLog

/-- How many messages there are, which is also the greatest index. -/
def size (log : EventLog) : Nat := log.messages.length

def isEmpty (log : EventLog) : Bool := log.messages.isEmpty

/-- The messages with their indices. -/
def entries (log : EventLog) : List (Nat × Message) :=
  (log.messages.zipIdx 1).map fun (message, index) => (index, message)

/-- Appends messages, stamped with the time where they have no stamp. -/
def append (log : EventLog) (now : Timestamp) (messages : List Message) : EventLog :=
  ⟨log.messages ++ messages.map (·.stamp now)⟩

/-- The indices that the next messages get. -/
def nextIndices (log : EventLog) (messages : List Message) : List Nat :=
  List.range' (log.size + 1) messages.length

/-- The messages that are meant, in order. -/
def select (log : EventLog) (criteria : LogCriteria) : List (Nat × Message) :=
  log.entries.filter fun (index, message) => criteria.admits index message

/-- A part of the messages that are meant. -/
def load (log : EventLog) (criteria : LogCriteria) (options : LoadOptions) : List (Nat × Message) :=
  options.page (log.select criteria)

def count (log : EventLog) (criteria : LogCriteria) : Nat := (log.select criteria).length

/-- Whether a message is live, belongs to an aggregate, and has a playhead below a bound. -/
def archivable (name id : String) (bound : Nat) (message : Message) : Bool :=
  !message.headers.archived && message.headers.aggregateName == some name &&
    message.headers.aggregateId == some id &&
    message.headers.playhead.any fun playhead => decide (playhead < bound)

/-- Archives the live messages of an aggregate with a playhead below a bound. -/
def archive (log : EventLog) (name id : String) (bound : Nat) : EventLog :=
  ⟨log.messages.map fun message =>
    if archivable name id bound message then message.withArchived true else message⟩

/-- How many messages an archiving changes. -/
def archivableCount (log : EventLog) (name id : String) (bound : Nat) : Nat :=
  log.messages.countP (archivable name id bound)

end EventLog

end EventFeed
