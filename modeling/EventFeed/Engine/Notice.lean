import EventFeed.Error
import EventFeed.Subscription.Basic

/-! What an engine reports while it works, and how each report reads in a trace. -/

namespace EventFeed

/-- A report of an engine, a bus or a worker. -/
inductive Notice where
  /-- A subscriber without a subscription was found. -/
  | discovered (id group : String)
  /-- It is too early or too late to retry. -/
  | retryDeferred (id : String) (attempt : Nat)
  /-- There is nothing to go back to. -/
  | retryImpossible (id : String) (error : EngineError)
  /-- A failed subscription goes back to work. -/
  | retrying (id : String) (status : Status) (attempt : Nat)
  /-- A subscription has lost its subscriber. -/
  | detached (id : String) (status : Status)
  | setupDone (id : String)
  /-- A subscription starts after the last message. -/
  | activeFromNow (id : String) (position : Nat)
  | booting (id : String)
  /-- Nobody is catching up. -/
  | nothingToBoot
  /-- Nobody is active. -/
  | nothingActive
  /-- Messages are loaded for some subscriptions. -/
  | loading (start targets : Nat)
  /-- A subscription has handled a message before. -/
  | alreadyHandled (id : String) (index position : Nat)
  /-- A message is handed to a subscriber. -/
  | dispatching (id : String) (index : Nat) (eventType : String)
  /-- A subscriber has handled a message; a trace leaves this out. -/
  | handled (id : String) (index : Nat)
  | failed (id : String) (status : Status) (position : Nat) (error : CapturedError)
  | active (id : String) (position : Nat)
  | finished (id : String) (position : Nat)
  /-- Nobody is left to be torn down. -/
  | teardownOrphan (id : String)
  | teardownAbsent (id : String)
  | teardownDone (id : String)
  | teardownFailed (id : String) (error : CapturedError)
  | removed (id : String) (status : Status)
  /-- Nobody is left to be reactivated. -/
  | reactivateOrphan (id : String)
  /-- A subscription goes back to work on request. -/
  | reactivated (id : String) (former status : Status)
  | paused (id : String)
  | dispatched (messages processed : Nat)
  /-- A subscription failed while a bus ran the engine. -/
  | failedInDispatch (id : String) (error : CapturedError)
  /-- A worker has fed subscriptions that were catching up. -/
  | workerBooted (processed failures : Nat)
  | workerIdle (wait : Duration)
  | workerStopped (iterations processed failures : Nat)
deriving DecidableEq

/-- How much a trace event matters. -/
inductive TraceLevel where
  | debug
  | info
  | warn
  | error
deriving DecidableEq

/-- What a field of a trace event holds. -/
inductive TraceValue where
  | text (value : String)
  | number (value : Nat)
deriving DecidableEq

/-- A report as it stands in a trace. -/
structure TraceEvent where
  level : TraceLevel
  text : String
  fields : List (String × TraceValue) := []
deriving DecidableEq

/-- The name of a level. -/
def TraceLevel.text : TraceLevel → String
  | debug => "DEBUG"
  | info => "INFO"
  | warn => "WARN"
  | error => "ERROR"

namespace Notice

/-- The field that names a subscription. -/
def idField (id : String) : String × TraceValue := ("subscription_id", .text id)

def statusField (status : Status) : String × TraceValue := ("status", .text status.text)

/-- The trace event of a report, if it has one. -/
def trace? : Notice → Option TraceEvent
  | discovered id group =>
    some { level := .info, text := "new subscription discovered"
           fields := [idField id, ("group", .text group)] }
  | retryDeferred id attempt =>
    some { level := .debug, text := "retry deferred"
           fields := [idField id, ("retry_attempt", .number attempt)] }
  | retryImpossible id error =>
    some { level := .warn, text := "cannot retry subscription"
           fields := [idField id, ("error", .text error.message)] }
  | retrying id status attempt =>
    some { level := .info, text := "retrying subscription"
           fields := [idField id, statusField status, ("retry_attempt", .number attempt)] }
  | detached id status =>
    some { level := .warn, text := "subscriber not found, subscription outdated"
           fields := [idField id, statusField status] }
  | setupDone id => some { level := .debug, text := "setup done", fields := [idField id] }
  | activeFromNow id position =>
    some { level := .info, text := "subscription active from now"
           fields := [idField id, ("position", .number position)] }
  | booting id => some { level := .info, text := "subscription booting", fields := [idField id] }
  | nothingToBoot => some { level := .debug, text := "no subscriptions to boot" }
  | nothingActive => some { level := .debug, text := "no active subscriptions" }
  | loading start targets =>
    some { level := .debug, text := "loading messages"
           fields := [("from_index", .number start), ("targets", .number targets)] }
  | alreadyHandled id index position =>
    some { level := .debug, text := "message already processed"
           fields := [idField id, ("index", .number index), ("position", .number position)] }
  | dispatching id index eventType =>
    some { level := .debug, text := "dispatching message"
           fields := [idField id, ("index", .number index), ("event_type", .text eventType)] }
  | handled _ _ => none
  | failed id status position error =>
    some { level := .error, text := "subscription failed"
           fields := [idField id, statusField status, ("position", .number position),
             ("error", .text error.text)] }
  | active id position =>
    some { level := .info, text := "subscription active"
           fields := [idField id, ("position", .number position)] }
  | finished id position =>
    some { level := .info, text := "subscription finished"
           fields := [idField id, ("position", .number position)] }
  | teardownOrphan id =>
    some { level := .warn, text := "subscriber not found, skipping teardown", fields := [idField id] }
  | teardownAbsent id => some { level := .debug, text := "no teardown hook", fields := [idField id] }
  | teardownDone id => some { level := .info, text := "teardown done", fields := [idField id] }
  | teardownFailed id error =>
    some { level := .warn, text := "teardown failed"
           fields := [idField id, ("error", .text error.text)] }
  | removed id status =>
    some { level := .info, text := "subscription removed", fields := [idField id, statusField status] }
  | reactivateOrphan id =>
    some { level := .debug, text := "subscriber not found, not reactivating", fields := [idField id] }
  | reactivated id former status =>
    some { level := .info, text := "subscription reactivated"
           fields := [idField id, ("from", .text former.text), statusField status] }
  | paused id => some { level := .info, text := "subscription paused", fields := [idField id] }
  | dispatched messages processed =>
    some { level := .debug, text := "engine run after dispatch"
           fields := [("dispatched", .number messages), ("processed", .number processed)] }
  | failedInDispatch id error =>
    some { level := .warn, text := "subscription failed during dispatch"
           fields := [idField id, ("error", .text error.text)] }
  | workerBooted processed failures =>
    some { level := .info, text := "worker booted subscriptions"
           fields := [("processed", .number processed), ("failures", .number failures)] }
  | workerIdle wait =>
    some { level := .debug, text := "worker idle", fields := [("wait", .text wait.text)] }
  | workerStopped iterations processed failures =>
    some { level := .info, text := "worker stopped"
           fields := [("iterations", .number iterations), ("processed", .number processed),
             ("failures", .number failures)] }

end Notice

end EventFeed
