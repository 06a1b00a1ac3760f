import EventFeed.Proofs.Operations

/-! What an engine is seen to do, report by report: every change of a subscription with all reports of it,
and with the reasons that an operation has for it. -/

namespace EventFeed

open Subscription (unstamped)

/-- Whether a report goes with no change of a subscription, of the log, or of what has been read of it. -/
def Notice.idle : Notice → Bool
  | retryDeferred .. | retryImpossible .. | nothingToBoot | nothingActive | alreadyHandled ..
  | teardownOrphan .. | teardownAbsent .. | teardownDone .. | teardownFailed .. | reactivateOrphan .. => true
  | _ => false

/-- Such a report has no bearing on messages. -/
theorem Notice.quiet_of_idle {notice : Notice} (idle : notice.idle = true) : notice.quiet = true := by
  cases notice <;> first | rfl | cases idle

/-- What is reported of the setup by a subscriber, once it went well. -/
def Subscriber.setupReports {σ : Type} (subscriber : Subscriber σ) (id : String) : List Notice :=
  if subscriber.setup.isSome then [.setupDone id] else []

namespace Subscription

variable {row next : Subscription}

/-- The status that a subscription is in, or the one that it failed in. -/
def resumes (row : Subscription) : Status := row.statusBefore row.status

/-- A subscription that has not failed resumes where it is. -/
theorem resumes_of_started (started : row.status ≠ .error) : row.resumes = row.status := by
  -- Only a failed subscription goes back to an earlier status.
  unfold resumes statusBefore
  split
  · exact absurd ‹_› started
  · rfl

@[simp] theorem resumes_settle (row : Subscription) (status : Status) : (row.settle status).resumes = status := rfl

@[simp] theorem resumes_pause (row : Subscription) : row.pause.resumes = .paused :=
  resumes_of_started (by simp [pause])

/-- A failure does not change what is resumed after it. -/
@[simp] theorem resumes_fail (row : Subscription) (error : CapturedError) : (row.fail error).resumes = row.resumes :=
  rfl

@[simp] theorem resumes_changePosition (row : Subscription) (index : Nat) :
    (row.changePosition index).resumes = row.resumes := rfl

@[simp] theorem resumes_resetRetryAttempt (row : Subscription) : row.resetRetryAttempt.resumes = row.resumes := rfl

/-- A subscription that is fed has not failed. -/
theorem started_of_fed {operation : Operation} (fed : operation.fed = some row.status) : row.status ≠ .error := by
  rcases Operation.fed_cases fed with works | works <;> simp [works]

/-- A retry resumes what was failed in. -/
theorem resumes_retry (status : row.status = .error) (retried : row.retry = .ok next) :
    next.resumes = row.resumes := by
  -- The failure keeps the status that a retry goes back to.
  obtain ⟨error, failure, rfl⟩ := retry_ok retried
  simp [resumes, statusBefore, status, failure]

end Subscription

variable {σ : Type}

@[simp] theorem Subscriber.mem_setupReports {subscriber : Subscriber σ} {id : String} {notice : Notice} :
    notice ∈ subscriber.setupReports id ↔ subscriber.setup.isSome = true ∧ notice = .setupDone id := by
  -- There is one such report if there is a hook, and none otherwise.
  unfold setupReports
  split <;> simp_all

/-- Everything that an operation can do to one subscription, with all reports of it. The messages have been
loaded up to the end that the log had then. -/
inductive Deed (engine : Engine σ) (operation : Operation) (log : List (Nat × Message)) (loaded : List Nat) :
    List Notice → Subscription → Subscription → Prop
  /-- A failed subscription goes back to the status it failed in. -/
  | retry {row next : Subscription} (status : row.status = .error)
    (admitted : ∀ error, row.error = some error → error.previous ∈ operation.retried)
    (approved : ∃ system, engine.retries system row = true) (retried : row.retry = .ok next) :
    Deed engine operation log loaded [.retrying row.id next.status next.retryAttempt] row next
  /-- A subscription without a subscriber is outdated. -/
  | detach {row : Subscription} (status : row.status ∈ operation.detached)
    (gone : engine.registry.knows row.id = false) :
    Deed engine operation log loaded [.detached row.id row.status] row row.outdated
  /-- A subscription stops on request. -/
  | pause {row : Subscription} (asked : operation = .pause operation.criteria)
    (status : row.status ∈ [.new, .booting, .active, .error]) :
    Deed engine operation log loaded [.paused row.id] row row.pause
  /-- A subscription goes back to work on request. -/
  | reactivate {row : Subscription} (asked : operation = .reactivate operation.criteria)
    (status : row.status ∈ [.error, .outdated, .paused, .finished])
    (known : engine.registry.knows row.id = true) :
    Deed engine operation log loaded [.reactivated row.id row.status row.reactivate.status] row row.reactivate
  /-- A subscription is set up, and starts to catch up. -/
  | boot {row : Subscription} {subscriber : Subscriber σ} (asked : operation.fed = some .booting)
    (status : row.status = .new) (found : engine.registry.get? row.id = some subscriber)
    (mode : row.runMode ≠ .fromNow) :
    Deed engine operation log loaded (subscriber.setupReports row.id ++ [.booting row.id]) row row.booting
  /-- A subscription is set up, and starts at the end of the log. -/
  | startNow {row : Subscription} {subscriber : Subscriber σ} {index : Nat}
    (asked : operation.fed = some .booting) (status : row.status = .new)
    (found : engine.registry.get? row.id = some subscriber) (mode : row.runMode = .fromNow)
    (present : index = 0 ∨ index ∈ log.map Prod.fst) :
    Deed engine operation log loaded (subscriber.setupReports row.id ++ [.activeFromNow row.id index]) row
      (row.changePosition index).active
  /-- A setup hook fails. -/
  | failSetup {row : Subscription} {subscriber : Subscriber σ} (asked : operation.fed = some .booting)
    (status : row.status = .new) (found : engine.registry.get? row.id = some subscriber)
    (hook : subscriber.setup.isSome = true) (error : CapturedError) :
    Deed engine operation log loaded [.failed row.id row.status row.position error] row (row.fail error)
  /-- A subscriber handles its next message. -/
  | handle {row : Subscription} {subscriber : Subscriber σ} {index : Nat}
    (status : operation.fed = some row.status) (found : engine.registry.get? row.id = some subscriber)
    (next : Awaits log row index) (read : index ∈ loaded) (eventType : String) :
    Deed engine operation log loaded [.dispatching row.id index eventType, .handled row.id index] row
      (row.changePosition index)
  /-- A subscriber fails on its next message. -/
  | failHandle {row : Subscription} {subscriber : Subscriber σ} {index : Nat}
    (status : operation.fed = some row.status) (found : engine.registry.get? row.id = some subscriber)
    (next : Awaits log row index) (read : index ∈ loaded) (eventType : String) (error : CapturedError) :
    Deed engine operation log loaded
      [.dispatching row.id index eventType, .failed row.id row.status row.position error] row (row.fail error)
  /-- A subscriber panics on its next message, and nobody catches it. -/
  | breakOff {row : Subscription} {subscriber : Subscriber σ} {index : Nat}
    (status : operation.fed = some row.status) (found : engine.registry.get? row.id = some subscriber)
    (next : Awaits log row index) (read : index ∈ loaded) (eventType : String)
    (uncaught : engine.config.catchPanics = false) :
    Deed engine operation log loaded [.dispatching row.id index eventType] row row
  /-- A subscription that is past all that was loaded has caught up. -/
  | activate {row : Subscription} (fed : operation.fed = some .booting) (status : row.status = .booting)
    (mode : row.runMode ≠ .once) (through : ∀ index ∈ loaded, index ≤ row.position) :
    Deed engine operation log loaded [.active row.id row.position] row row.active
  /-- A subscription that is past all that was loaded is done with the log. -/
  | finish {row : Subscription} (fed : operation.fed = some row.status) (mode : row.runMode = .once)
    (through : ∀ index ∈ loaded, index ≤ row.position) :
    Deed engine operation log loaded [.finished row.id row.position] row row.finished
  /-- A subscription that kept up with all that was loaded forgets its retries. -/
  | recover {row : Subscription} (fed : operation.fed = some .active) (status : row.status = .active)
    (mode : row.runMode ≠ .once) (through : ∀ index ∈ loaded, index ≤ row.position) :
    Deed engine operation log loaded [] row row.resetRetryAttempt

/-- Whether a report says that the subscription of an id was found, set up, started at the end of the log, handed a
message, or that it failed or was retried. -/
def Notice.tells (id : String) : Notice → Bool
  | discovered own _ | setupDone own | activeFromNow own _ | dispatching own .. | failed own .. | retrying own .. =>
    own == id
  | _ => false

/-- Reports that say nothing of that kind about an id. -/
def Silent (id : String) (notices : List Notice) : Prop := ∀ notice ∈ notices, notice.tells id = false

/-- A report that goes with no change says nothing about anybody. -/
theorem silent_of_idle {notice : Notice} (idle : notice.idle = true) (id : String) : Silent id [notice] := by
  -- Reports about a subscription are not idle.
  simp only [Silent, List.mem_singleton, forall_eq]
  cases notice <;> first | rfl | cases idle

/-- Subscriptions that are found are not known. -/
theorem silent_of_known {known : List Subscription} {notices : List Notice} {id : String}
    (reports : ∀ notice ∈ notices, ∃ id group, notice = .discovered id group ∧ id ∉ Rows.ids known)
    (listed : id ∈ Rows.ids known) : Silent id notices := by
  -- Whoever is listed has another id than all that are found.
  intro notice member
  obtain ⟨own, group, rfl, absent⟩ := reports notice member
  simpa [Notice.tells] using fun same : own = id => absent (same ▸ listed)

namespace Deed

variable {engine : Engine σ} {operation : Operation} {log : List (Nat × Message)} {loaded : List Nat}
  {notices : List Notice} {row next : Subscription}

/-- Nothing that is done to a subscription changes its id, its group or its stamp. -/
theorem named (done : Deed engine operation log loaded notices row next) :
    next.id = row.id ∧ next.group = row.group ∧ next.lastSavedAt = row.lastSavedAt := by
  -- Only going back from a failure can go wrong, and it keeps them where it does not.
  cases done with
  | retry _ _ _ retried =>
    obtain ⟨error, -, rfl⟩ := Subscription.retry_ok retried
    exact ⟨rfl, rfl, rfl⟩
  | _ => exact ⟨rfl, rfl, rfl⟩

/-- What is done to one subscription says nothing about the others. -/
theorem silent (done : Deed engine operation log loaded notices row next) {id : String} (other : row.id ≠ id) :
    Silent id notices := by
  -- Every report of a deed has the id of its subscription.
  cases done <;> simp +contextual [Silent, Notice.tells, other, or_imp]

/-- A deed is a move, once the reports are left out that have no bearing on messages. -/
theorem moves (done : Deed engine operation log loaded notices row next) :
    ∃ remarks moved, notices = remarks ++ moved ∧ (∀ notice ∈ remarks, notice.quiet = true) ∧
      Move log moved row next := by
  -- The reports of each deed are split where those begin that messages have a part in.
  cases done with
  | retry status _ _ retried => exact ⟨[_], [], rfl, by simp [Notice.quiet], .retry status retried⟩
  | detach status =>
    refine ⟨[_], [], rfl, by simp [Notice.quiet], .detach ?_⟩
    cases operation <;> simp only [Operation.detached, List.mem_cons, List.not_mem_nil, or_false] at status ⊢ <;>
      tauto
  | pause _ status => exact ⟨[_], [], rfl, by simp [Notice.quiet], .pause status⟩
  | reactivate _ status => exact ⟨[_], [], rfl, by simp [Notice.quiet], .reactivate status⟩
  | boot _ status _ mode =>
    exact ⟨_, [], (List.append_nil _).symm, by simp +contextual [Notice.quiet, or_imp], .boot status mode⟩
  | startNow _ status _ mode present =>
    exact ⟨_, [_], rfl, by simp +contextual [Notice.quiet], .startNow status mode present⟩
  | failSetup _ status => exact ⟨[], _, rfl, by simp, .failSetup status _⟩
  | handle fed _ awaits => exact ⟨[], _, rfl, by simp, .handle (Operation.fed_cases fed) awaits _⟩
  | failHandle fed _ awaits => exact ⟨[], _, rfl, by simp, .failHandle (Operation.fed_cases fed) awaits _ _⟩
  | breakOff fed _ awaits => exact ⟨[], _, rfl, by simp, .breakOff (Operation.fed_cases fed) awaits _⟩
  | activate _ status mode => exact ⟨[_], [], rfl, by simp [Notice.quiet], .activate status mode⟩
  | finish fed mode => exact ⟨[_], [], rfl, by simp [Notice.quiet], .finish (Operation.fed_cases fed) mode⟩
  | recover _ status mode => exact ⟨[], [], rfl, by simp, .recover status mode⟩

/-- No deed is a discovery. -/
theorem discovers_none (done : Deed engine operation log loaded notices row next) (id group : String) :
    .discovered id group ∉ notices := by
  cases done <;> simp

/-- A deed that hands over a message reports that first and once. The subscription is one of those that are fed, and
the message is its next one and was read. -/
theorem dispatching (done : Deed engine operation log loaded notices row next) {id eventType : String} {index : Nat}
    (member : .dispatching id index eventType ∈ notices) :
    id = row.id ∧ operation.fed = some row.status ∧ Awaits log row index ∧ index ∈ loaded ∧
      ∃ rest, notices = .dispatching id index eventType :: rest ∧
        ∀ id index eventType, .dispatching id index eventType ∉ rest := by
  -- Three deeds hand over a message, and no other one reports a dispatch.
  cases done with
  | handle fed _ awaits read | failHandle fed _ awaits read | breakOff fed _ awaits read =>
    simp only [List.mem_cons, Notice.dispatching.injEq, reduceCtorEq, List.not_mem_nil, or_false] at member
    obtain ⟨rfl, rfl, rfl⟩ := member
    exact ⟨rfl, fed, awaits, read, _, rfl, by simp⟩
  | _ => simp at member

end Deed

/-- What can be followed of an engine at work, report by report: besides reports, log, stored rows and the rows
it has in hand, the indices that the log had when it was loaded. -/
structure Chronicle where
  journal : List Notice
  log : List (Nat × Message)
  loaded : List Nat
  stored : List Subscription
  /-- The subscriptions as the engine knows them, whether it has stored them or not. -/
  known : List Subscription

namespace Chronicle

/-- One small step of an engine that performs an operation, or of its surroundings. -/
inductive Step (engine : Engine σ) (operation : Operation) : Chronicle → Chronicle → Prop
  /-- Something is reported that goes with no change. -/
  | remark {chronicle : Chronicle} {notice : Notice} (idle : notice.idle = true) :
    Step engine operation chronicle { chronicle with journal := chronicle.journal ++ [notice] }
  /-- A window of messages is loaded, up to the end of the log. -/
  | load {chronicle : Chronicle} (start targets : Nat) :
    Step engine operation chronicle { chronicle with
      journal := chronicle.journal ++ [.loading start targets], loaded := chronicle.log.map Prod.fst }
  /-- Messages are appended to the log. -/
  | grow {chronicle : Chronicle} {log : List (Nat × Message)} (longer : chronicle.log <+: log)
    (ascending : (log.map Prod.fst).Pairwise (· < ·)) : Step engine operation chronicle { chronicle with log }
  /-- Subscriptions of newly found subscribers are added. -/
  | enroll {chronicle : Chronicle} {notices : List Notice} {fresh : List Subscription}
    (reports : ∀ notice ∈ notices, ∃ id group, notice = .discovered id group ∧
      id ∉ Rows.ids chronicle.known)
    (new : ∀ row ∈ fresh, row = { id := row.id, group := row.group, runMode := row.runMode } ∧
      .discovered row.id row.group ∈ notices)
    (distinct : (Rows.ids fresh).Nodup) :
    Step engine operation chronicle { chronicle with
      journal := chronicle.journal ++ notices, known := chronicle.known ++ fresh }
  /-- Something is done to one subscription that is meant. -/
  | deed {chronicle : Chronicle} {notices : List Notice} {row next : Subscription}
    (member : row ∈ chronicle.known) (meant : operation.criteria.admits row.id row.group = true)
    (done : Deed engine operation chronicle.log chronicle.loaded notices row next) :
    Step engine operation chronicle { chronicle with
      journal := chronicle.journal ++ notices, known := Rows.put next chronicle.known }
  /-- What is known is stored under new stamps, and is known under others; a row that is stored as it is known stays
  as it is. -/
  | save {chronicle : Chronicle} {stored known : List Subscription}
    (written : stored.map unstamped = chronicle.known.map unstamped)
    (same : known.map unstamped = chronicle.known.map unstamped)
    (spared : ∀ row ∈ chronicle.known, row ∈ chronicle.stored → row ∈ stored ∧ row ∈ known) :
    Step engine operation chronicle { chronicle with stored, known }
  /-- A subscription that is meant is deleted. -/
  | remove {chronicle : Chronicle} {row : Subscription} (asked : operation = .remove operation.criteria)
    (member : row ∈ chronicle.known) (meant : operation.criteria.admits row.id row.group = true) :
    Step engine operation chronicle { chronicle with
      journal := chronicle.journal ++ [.removed row.id row.status]
      stored := Rows.remove chronicle.stored row.id
      known := Rows.remove chronicle.known row.id }

/-- Reports are added only. -/
theorem Step.journal {engine : Engine σ} {operation : Operation} {one two : Chronicle}
    (step : Step engine operation one two) : ∃ notices, two.journal = one.journal ++ notices := by
  -- Each small step either reports something or does not.
  cases step with
  | grow | save => exact ⟨[], by simp⟩
  | _ => exact ⟨_, rfl⟩

/-- What a step comes to for each id it comes to for all of them, since its reports are the same for all. -/
theorem Step.each {engine : Engine σ} {operation : Operation} {one two : Chronicle}
    {holds : String → List Notice → Chronicle → Prop} {journal : List Notice} (step : Step engine operation one two)
    (comes : ∀ id, ∃ notices, two.journal = one.journal ++ notices ∧ holds id (journal ++ notices) two) :
    ∃ notices, two.journal = one.journal ++ notices ∧ ∀ id, holds id (journal ++ notices) two := by
  -- The journal decides what was reported, so it cannot be one thing for one id and another for the next.
  obtain ⟨notices, further⟩ := step.journal
  refine ⟨notices, further, fun id => ?_⟩
  obtain ⟨own, shape, there⟩ := comes id
  rwa [List.append_cancel_left (further.symm.trans shape)]

/-- What one small step is to the subscription of an id. -/
inductive Bears (engine : Engine σ) (operation : Operation) (id : String) (one two : Chronicle) : Prop
  /-- Nothing is said of it or done to it, but it may be stored as it is known, and more may be read of the log. -/
  | aside (notices : List Notice) (journal : two.journal = one.journal ++ notices) (quiet : Silent id notices)
    (listed : id ∈ Rows.ids two.known ↔ id ∈ Rows.ids one.known)
    (known : ∀ row ∈ two.known, row.id = id → ∃ old ∈ one.known, old.unstamped = row.unstamped)
    (stored : ∀ row ∈ two.stored, row.id = id → row ∈ one.stored ∨ ∃ old ∈ one.known, old.unstamped = row.unstamped)
    (read : ∀ index ∈ one.loaded, index ∈ one.log.map Prod.fst → index ∈ two.loaded ∧ index ∈ two.log.map Prod.fst)
    (spared : ∀ row ∈ one.known, row ∈ one.stored → row.id = id → row ∈ two.stored ∧ row ∈ two.known)
  /-- It is found, unless it is not one of those that are. -/
  | found (notices : List Notice) (fresh : List Subscription) (absent : id ∉ Rows.ids one.known)
    (reports : ∀ notice ∈ notices, ∃ id group, notice = .discovered id group)
    (new : ∀ row ∈ fresh, row = { id := row.id, group := row.group, runMode := row.runMode } ∧
      .discovered row.id row.group ∈ notices)
    (shape : two = { one with journal := one.journal ++ notices, known := one.known ++ fresh })
  /-- Something is done to it. -/
  | own (notices : List Notice) (row next : Subscription) (same : row.id = id) (member : row ∈ one.known)
    (meant : operation.criteria.admits row.id row.group = true)
    (done : Deed engine operation one.log one.loaded notices row next)
    (shape : two = { one with journal := one.journal ++ notices, known := Rows.put next one.known })
  /-- It is deleted. -/
  | removed (row : Subscription) (same : row.id = id) (asked : operation = .remove operation.criteria)
    (member : row ∈ one.known) (meant : operation.criteria.admits row.id row.group = true)
    (shape : two = { one with
      journal := one.journal ++ [.removed row.id row.status]
      stored := Rows.remove one.stored row.id
      known := Rows.remove one.known row.id })

/-- Every small step concerns the subscription of an id in one of four ways. -/
theorem Step.bears {engine : Engine σ} {operation : Operation} {one two : Chronicle}
    (step : Step engine operation one two) (id : String) : Bears engine operation id one two := by
  -- Most steps leave the rows under the id alone, and these facts serve all of them.
  have stays : ∀ row ∈ one.known, row.id = id → ∃ old ∈ one.known, old.unstamped = row.unstamped :=
    fun row member _ => ⟨row, member, rfl⟩
  have stored : ∀ row ∈ one.stored, row.id = id → row ∈ one.stored ∨ ∃ old ∈ one.known, old.unstamped = row.unstamped :=
    fun row member _ => Or.inl member
  have spared : ∀ row ∈ one.known, row ∈ one.stored → row.id = id → row ∈ one.stored ∧ row ∈ one.known :=
    fun row known present _ => ⟨present, known⟩
  have read : ∀ index ∈ one.loaded, index ∈ one.log.map Prod.fst →
      index ∈ one.loaded ∧ index ∈ one.log.map Prod.fst := fun index loaded present => ⟨loaded, present⟩
  cases step with
  | remark idle => exact .aside _ rfl (silent_of_idle idle id) Iff.rfl stays stored read spared
  | load =>
    exact .aside _ rfl (by simp [Silent, Notice.tells]) Iff.rfl stays stored (fun _ _ present => ⟨present, present⟩)
      spared
  | grow longer =>
    exact .aside [] (by simp) (by simp [Silent]) Iff.rfl stays stored
      (fun index loaded present => ⟨loaded, (longer.map Prod.fst).subset present⟩) spared
  | save written same kept =>
    exact .aside [] (by simp) (by simp [Silent]) (by rw [Rows.ids_of_unstamped same])
      (fun row member _ => Rows.source same member) (fun row member _ => Or.inr (Rows.source written member)) read
      fun row known present _ => kept row known present
  | @enroll notices fresh reports new distinct =>
    by_cases present : id ∈ Rows.ids one.known
    · -- A subscription that is known is not found again.
      refine .aside _ rfl (silent_of_known reports present) (by simp [present]) (fun row member same => ?_) stored read
        fun row known stored _ => ⟨stored, List.mem_append_left _ known⟩
      rcases List.mem_append.mp member with old | added
      · exact stays row old same
      · obtain ⟨own, group, shape, absent⟩ := reports _ (new row added).2
        cases shape
        exact absurd (same ▸ present) absent
    · refine .found notices fresh present (fun notice member => ?_) new rfl
      obtain ⟨own, group, shape, -⟩ := reports notice member
      exact ⟨own, group, shape⟩
  | @deed notices row next member meant done =>
    by_cases same : row.id = id
    · exact .own notices row next same member meant done rfl
    · -- What is done to another one leaves it where it is.
      refine .aside _ rfl (done.silent same) (by simp) (fun other present own => ?_) stored read
        fun other known present own => ⟨present, Rows.mem_put_of_ne known fun equal => same ?_⟩
      rotate_left
      · rw [← done.named.1, ← equal, own]
      rcases Rows.mem_put present with rfl | ⟨old, -⟩
      · exact absurd (done.named.1.symm.trans own) same
      · exact stays other old own
  | @remove row asked member meant =>
    by_cases same : row.id = id
    · exact .removed row same asked member meant rfl
    · exact .aside _ rfl (by simp [Silent, Notice.tells]) (by simp [Ne.symm same])
        (fun other present own => stays other (List.mem_filter.mp present).1 own)
        (fun other present _ => Or.inl (List.mem_filter.mp present).1) read
        fun other known present own => ⟨Rows.mem_remove_of_ne present (own ▸ Ne.symm same),
          Rows.mem_remove_of_ne known (own ▸ Ne.symm same)⟩

/-- What a ledger shows of it: how far messages have been read is left out. -/
def ledger (chronicle : Chronicle) : Ledger :=
  ⟨chronicle.journal, chronicle.log, chronicle.stored, chronicle.known⟩

/-- A small step can be followed in the ledger. -/
theorem Step.follows {engine : Engine σ} {operation : Operation} {one two : Chronicle} {first : Ledger}
    (step : Step engine operation one two) (follows : Ledger.Follows first one.ledger) :
    Ledger.Follows first two.ledger := by
  -- Each small step is one of the ledger, or is made up of a few.
  cases step with
  | remark idle => exact follows.step (.remark (Notice.quiet_of_idle idle))
  | load start targets => exact follows.step (.load start targets)
  | grow longer ascending => exact follows.step (.grow longer ascending)
  | enroll reports new distinct =>
    exact follows.step (.enroll reports (fun row member => ⟨(new row member).1, _, (new row member).2⟩) distinct)
  | deed member meant done =>
    -- The remarks come first, and then the move.
    obtain ⟨remarks, moved, rfl, quiet, move⟩ := done.moves
    have step := (follows.remarks remarks quiet).step (.move member move)
    simpa [ledger] using step
  | save written same =>
    -- The rows get their new stamps, are stored, and give way to what is known next.
    exact ((follows.step (.restamp written)).step .save).step (.restamp (same.trans written.symm))
  | @remove row => exact follows.step (.remove row.id row.status)

/-- Any number of small steps. -/
def Leads (engine : Engine σ) (operation : Operation) : Chronicle → Chronicle → Prop :=
  Relation.ReflTransGen (Step engine operation)

/-- One more step. -/
theorem Leads.step {engine : Engine σ} {operation : Operation} {first second third : Chronicle}
    (one : Leads engine operation first second) (last : Step engine operation second third) :
    Leads engine operation first third := .tail one last

/-- What each step keeps, any number of steps keeps. -/
theorem Leads.keeps {engine : Engine σ} {operation : Operation} {holds : Chronicle → Prop}
    (steps : ∀ {one two}, holds one → Step engine operation one two → holds two)
    {first last : Chronicle} (leads : Leads engine operation first last) (start : holds first) : holds last := by
  -- The steps are taken one after another.
  induction leads with
  | refl => exact start
  | tail _ step ih => exact steps ih step

/-- What each step keeps of the reports and of the moment that they lead to holds of all reports of any number of
steps. -/
theorem Leads.tells {engine : Engine σ} {operation : Operation} {holds : List Notice → Chronicle → Prop}
    (steps : ∀ {notices one two}, holds notices one → Step engine operation one two →
      ∃ more, two.journal = one.journal ++ more ∧ holds (notices ++ more) two)
    {first last : Chronicle} (leads : Leads engine operation first last) (start : holds [] first) :
    ∃ notices, last.journal = first.journal ++ notices ∧ holds notices last := by
  -- The reports of a step come after those of the steps before it.
  induction leads with
  | refl => exact ⟨[], by simp, start⟩
  | tail _ step ih =>
    obtain ⟨notices, journal, here⟩ := ih
    obtain ⟨more, further, there⟩ := steps here step
    exact ⟨notices ++ more, by rw [further, journal, List.append_assoc], there⟩

/-- Any number of small steps can be followed in the ledger. -/
theorem Leads.follows {engine : Engine σ} {operation : Operation} {first last : Chronicle}
    (leads : Leads engine operation first last) : Ledger.Follows first.ledger last.ledger :=
  leads.keeps (fun follows step => step.follows follows) (.refl _)

end Chronicle

namespace Stage

variable {stage : Stage σ} {engine : Engine σ} {operation : Operation} {first : Chronicle} {loaded : List Nat}
  {known : List Subscription} {before after : σ}

/-- What can be followed of a system while its engine knows some rows, and has loaded some indices. -/
def chronicle (stage : Stage σ) (loaded : List Nat) (known : List Subscription) (system : σ) : Chronicle :=
  ⟨stage.journal system, stage.log system, loaded, stage.rows.read system, known⟩

/-- Small steps of an operation lead to a system while its engine knows some rows. -/
def Recorded (stage : Stage σ) (engine : Engine σ) (operation : Operation) (first : Chronicle)
    (loaded : List Nat) (known : List Subscription) (system : σ) : Prop :=
  Chronicle.Leads engine operation first (stage.chronicle loaded known system)

/-- A report that goes with no change is recorded. -/
theorem Recorded.observe {notice : Notice} (recorded : stage.Recorded engine operation first loaded known before)
    (idle : notice.idle = true) :
    stage.Recorded engine operation first loaded known (stage.observe notice before) := by
  -- The report is a small step of its own.
  have step := Chronicle.Leads.step recorded (.remark idle)
  simpa [Recorded, chronicle] using step

/-- What subscriber code does is recorded. -/
theorem Recorded.onward (recorded : stage.Recorded engine operation first loaded known before)
    (onward : stage.Onward before after) : stage.Recorded engine operation first loaded known after := by
  -- Rows and reports stay, and the log gets longer.
  have step := Chronicle.Leads.step recorded (.grow onward.log (stage.ascending after))
  simpa [Recorded, chronicle, onward.rows, onward.journal] using step

/-- What is done to one subscription is recorded. -/
theorem Recorded.deed {notices : List Notice} {row next : Subscription}
    (recorded : stage.Recorded engine operation first loaded known before) (member : row ∈ known)
    (meant : operation.criteria.admits row.id row.group = true)
    (done : Deed engine operation (stage.log before) loaded notices row next)
    (rows : stage.rows.read after = stage.rows.read before) (log : stage.log after = stage.log before)
    (journal : stage.journal after = stage.journal before ++ notices) :
    stage.Recorded engine operation first loaded (Rows.put next known) after := by
  -- The reports of the deed are the reports between the two systems.
  have step := Chronicle.Leads.step recorded (.deed member meant done)
  simpa [Recorded, chronicle, rows, log, journal] using step

/-- Storing what is known is recorded, and so is going on with it under other stamps. -/
theorem Recorded.saved {next : List Subscription}
    (recorded : stage.Recorded engine operation first loaded known before) (aside : stage.Aside before after)
    (fields : (stage.rows.read after).map unstamped = known.map unstamped)
    (nextFields : next.map unstamped = known.map unstamped)
    (spared : ∀ row ∈ known, row ∈ stage.rows.read before → row ∈ stage.rows.read after ∧ row ∈ next) :
    stage.Recorded engine operation first loaded next after := by
  -- The write is a small step of its own.
  have step := Chronicle.Leads.step recorded (.save fields nextFields spared)
  simpa [Recorded, chronicle, aside.log, aside.journal] using step

/-- Storing all that is known is recorded, when what is stored is what is known next. -/
theorem Recorded.flushed (recorded : stage.Recorded engine operation first loaded known before)
    (aside : stage.Aside before after) (fields : (stage.rows.read after).map unstamped = known.map unstamped)
    (spared : ∀ row ∈ known, row ∈ stage.rows.read before → row ∈ stage.rows.read after) :
    stage.Recorded engine operation first loaded (stage.rows.read after) after :=
  recorded.saved aside fields fields fun row member stored =>
    ⟨spared row member stored, spared row member stored⟩

/-- A system that small steps of an operation lead to, with distinct ids. -/
structure Entered (stage : Stage σ) (engine : Engine σ) (operation : Operation) (first : Chronicle)
    (loaded : List Nat) (system : σ) : Prop where
  distinct : (Rows.ids (stage.rows.read system)).Nodup
  recorded : stage.Recorded engine operation first loaded (stage.rows.read system) system

/-- What holds after a panic that nobody caught. -/
def Severed (stage : Stage σ) (engine : Engine σ) (operation : Operation) (first : Chronicle) (abort : Abort)
    (after : σ) : Prop :=
  Panics engine abort ∧ ∃ loaded known, stage.Recorded engine operation first loaded known after

/-- A report that goes with no change leaves everything where it is. -/
theorem Entered.observe {notice : Notice} (entered : stage.Entered engine operation first loaded before)
    (idle : notice.idle = true) :
    stage.Entered engine operation first loaded (stage.observe notice before) := by
  -- A report touches no row.
  refine ⟨by simpa using entered.distinct, ?_⟩
  rw [stage.read_observe]
  exact entered.recorded.observe idle

/-- What subscriber code does on its own leaves the rows where they are. -/
theorem Entered.onward (entered : stage.Entered engine operation first loaded before)
    (onward : stage.Onward before after) : stage.Entered engine operation first loaded after := by
  -- The rows are what they were, and so are their ids.
  refine ⟨onward.rows.symm ▸ entered.distinct, ?_⟩
  rw [onward.rows]
  exact entered.recorded.onward onward

end Stage

end EventFeed
