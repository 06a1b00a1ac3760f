import EventFeed.Document.Record

/-! The states that a subscription goes through, and the three ways it can treat history. -/

namespace EventFeed

/-- Where a subscription stands. -/
inductive Status where
  /-- Known, and not set up yet. -/
  | new
  /-- Set up, and catching up with the log. -/
  | booting
  /-- Caught up, and fed with new messages. -/
  | active
  /-- Stopped on request. -/
  | paused
  /-- Done for good. -/
  | finished
  /-- Without a subscriber. -/
  | outdated
  /-- Stopped by a failure. -/
  | error
deriving DecidableEq

/-- The statuses with their names, in order. -/
def Status.choices : List (String × Status) :=
  [("new", .new), ("booting", .booting), ("active", .active), ("paused", .paused),
    ("finished", .finished), ("outdated", .outdated), ("error", .error)]

/-- The name of a status. -/
def Status.text : Status → String
  | .new => "new"
  | .booting => "booting"
  | .active => "active"
  | .paused => "paused"
  | .finished => "finished"
  | .outdated => "outdated"
  | .error => "error"

/-- How a subscription treats the messages that are there when it starts. -/
inductive RunMode where
  /-- It is fed with all of them, and with every later one. -/
  | fromBeginning
  /-- It is fed with later ones only. -/
  | fromNow
  /-- It is fed with all of them, and ends there. -/
  | once
deriving DecidableEq

/-- The run modes with their names, in order. -/
def RunMode.choices : List (String × RunMode) :=
  [("from_beginning", .fromBeginning), ("from_now", .fromNow), ("once", .once)]

/-- The name of a run mode. -/
def RunMode.text : RunMode → String
  | .fromBeginning => "from_beginning"
  | .fromNow => "from_now"
  | .once => "once"

/-- The debugging text of a run mode. -/
def RunMode.debugText : RunMode → String
  | .fromBeginning => "FromBeginning"
  | .fromNow => "FromNow"
  | .once => "Once"

def Status.toDocument (status : Status) : Document := .text status.text

def Status.ofDocument? : Document → Option Status := Document.choice? Status.choices

def RunMode.toDocument (mode : RunMode) : Document := .text mode.text

def RunMode.ofDocument? : Document → Option RunMode := Document.choice? RunMode.choices

end EventFeed
