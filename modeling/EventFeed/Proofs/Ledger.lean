import EventFeed.Proofs.Stage
import EventFeed.Proofs.Rows
import Mathlib.Logic.Relation
import Mathlib.Order.Bounds.Basic

/-! What an engine can do to its subscriptions, one small step after another, with the reports that
go with each step. -/

namespace EventFeed

open Subscription (unstamped)

/-- A subscription goes back from a failure that it keeps, to the status it failed in. -/
theorem Subscription.retry_ok {row next : Subscription} (retried : row.retry = .ok next) :
    ∃ error, row.error = some error ∧ next = { row with
      status := error.previous, error := none, retryAttempt := row.retryAttempt + 1 } := by
  -- Without a failure there is nothing to go back to.
  unfold Subscription.retry at retried
  split at retried
  · cases retried
  · rename_i error failed
    exact ⟨error, failed, by simpa using retried.symm⟩

/-- Whether a report has no bearing on which messages have been handled. -/
def Notice.quiet : Notice → Bool
  | discovered .. | activeFromNow .. | dispatching .. | handled .. | failed .. | removed .. | loading .. =>
    false
  | _ => true

/-- The next message of a subscription: the lowest index of the log above its position. -/
def Awaits (log : List (Nat × Message)) (row : Subscription) (index : Nat) : Prop :=
  IsLeast {other | other ∈ log.map Prod.fst ∧ row.position < other} index

/-- Everything that can happen to one subscription, with the reports of it that are not quiet. -/
inductive Move (log : List (Nat × Message)) : List Notice → Subscription → Subscription → Prop
  /-- A failed subscription goes back to the status it failed in. -/
  | retry {row next : Subscription} (status : row.status = .error) (retried : row.retry = .ok next) :
    Move log [] row next
  /-- A subscription without a subscriber is outdated. -/
  | detach {row : Subscription} (status : row.status ∈ [.new, .booting, .active, .paused, .error]) :
    Move log [] row row.outdated
  /-- A subscription stops on request. -/
  | pause {row : Subscription} (status : row.status ∈ [.new, .booting, .active, .error]) :
    Move log [] row row.pause
  /-- A subscription goes back to work on request. -/
  | reactivate {row : Subscription} (status : row.status ∈ [.error, .outdated, .paused, .finished]) :
    Move log [] row row.reactivate
  /-- A subscription that is set up starts to catch up. -/
  | boot {row : Subscription} (status : row.status = .new) (mode : row.runMode ≠ .fromNow) :
    Move log [] row row.booting
  /-- A subscription that is set up starts at the end of the log. -/
  | startNow {row : Subscription} {index : Nat} (status : row.status = .new) (mode : row.runMode = .fromNow)
    (present : index = 0 ∨ index ∈ log.map Prod.fst) :
    Move log [.activeFromNow row.id index] row (row.changePosition index).active
  /-- A setup hook fails. -/
  | failSetup {row : Subscription} (status : row.status = .new) (error : CapturedError) :
    Move log [.failed row.id row.status row.position error] row (row.fail error)
  /-- A subscriber handles its next message. -/
  | handle {row : Subscription} {index : Nat} (status : row.status = .booting ∨ row.status = .active)
    (next : Awaits log row index) (eventType : String) :
    Move log [.dispatching row.id index eventType, .handled row.id index] row (row.changePosition index)
  /-- A subscriber fails on its next message. -/
  | failHandle {row : Subscription} {index : Nat} (status : row.status = .booting ∨ row.status = .active)
    (next : Awaits log row index) (eventType : String) (error : CapturedError) :
    Move log [.dispatching row.id index eventType, .failed row.id row.status row.position error]
      row (row.fail error)
  /-- A subscriber panics on its next message, and nobody catches it. -/
  | breakOff {row : Subscription} {index : Nat} (status : row.status = .booting ∨ row.status = .active)
    (next : Awaits log row index) (eventType : String) :
    Move log [.dispatching row.id index eventType] row row
  /-- A subscription has caught up. -/
  | activate {row : Subscription} (status : row.status = .booting) (mode : row.runMode ≠ .once) :
    Move log [] row row.active
  /-- A subscription is done with the log. -/
  | finish {row : Subscription} (status : row.status = .booting ∨ row.status = .active)
    (mode : row.runMode = .once) : Move log [] row row.finished
  /-- A subscription that kept up forgets its retries. -/
  | recover {row : Subscription} (status : row.status = .active) (mode : row.runMode ≠ .once) :
    Move log [] row row.resetRetryAttempt

/-- What can be followed of an engine at work: reports, log, stored rows,
and the rows it has in hand. -/
structure Ledger where
  journal : List Notice
  log : List (Nat × Message)
  stored : List Subscription
  /-- The subscriptions as the engine knows them, whether it has stored them or not. -/
  known : List Subscription

namespace Ledger

/-- One small step of an engine or of its surroundings. -/
inductive Step : Ledger → Ledger → Prop
  /-- Something is reported that has no bearing on messages. -/
  | remark {ledger : Ledger} {notice : Notice} (quiet : notice.quiet = true) :
    Step ledger { ledger with journal := ledger.journal ++ [notice] }
  /-- A window of messages is loaded. -/
  | load {ledger : Ledger} (start targets : Nat) :
    Step ledger { ledger with journal := ledger.journal ++ [.loading start targets] }
  /-- Messages are appended to the log. -/
  | grow {ledger : Ledger} {log : List (Nat × Message)} (longer : ledger.log <+: log)
    (ascending : (log.map Prod.fst).Pairwise (· < ·)) : Step ledger { ledger with log }
  /-- Subscriptions of newly found subscribers are added. -/
  | enroll {ledger : Ledger} {notices : List Notice} {fresh : List Subscription}
    (reports : ∀ notice ∈ notices, ∃ id group, notice = .discovered id group ∧
      id ∉ Rows.ids ledger.known)
    (new : ∀ row ∈ fresh, row = { id := row.id, group := row.group, runMode := row.runMode } ∧
      ∃ group, .discovered row.id group ∈ notices)
    (distinct : (Rows.ids fresh).Nodup) :
    Step ledger { ledger with journal := ledger.journal ++ notices, known := ledger.known ++ fresh }
  /-- Something happens to one subscription. -/
  | move {ledger : Ledger} {notices : List Notice} {row next : Subscription} (member : row ∈ ledger.known)
    (moved : Move ledger.log notices row next) :
    Step ledger { ledger with
      journal := ledger.journal ++ notices, known := Rows.put next ledger.known }
  /-- Stamps change. -/
  | restamp {ledger : Ledger} {known : List Subscription}
    (same : known.map unstamped = ledger.known.map unstamped) : Step ledger { ledger with known }
  /-- What is known is stored. -/
  | save {ledger : Ledger} : Step ledger { ledger with stored := ledger.known }
  /-- A subscription is deleted. -/
  | remove {ledger : Ledger} (id : String) (status : Status) :
    Step ledger { ledger with
      journal := ledger.journal ++ [.removed id status]
      stored := Rows.remove ledger.stored id
      known := Rows.remove ledger.known id }

/-- Any number of small steps. -/
def Follows : Ledger → Ledger → Prop := Relation.ReflTransGen Step

/-- No step at all. -/
theorem Follows.refl (ledger : Ledger) : Follows ledger ledger := Relation.ReflTransGen.refl

/-- One more step. -/
theorem Follows.step {first second third : Ledger} (one : Follows first second)
    (last : Step second third) : Follows first third := .tail one last

/-- What each step keeps, any number of steps keeps. -/
theorem Follows.keeps {holds : Ledger → Prop} (steps : ∀ {one two}, holds one → Step one two → holds two)
    {first last : Ledger} (follows : Follows first last) (start : holds first) : holds last := by
  -- The steps are taken one after another.
  induction follows with
  | refl => exact start
  | tail _ step ih => exact steps ih step

end Ledger

/-- Nothing that happens to a subscription changes its id. -/
theorem Move.id_eq {log : List (Nat × Message)} {notices : List Notice} {row next : Subscription}
    (moved : Move log notices row next) : next.id = row.id := by
  -- Only going back from a failure can go wrong, and it keeps the id where it does not.
  cases moved with
  | retry _ retried =>
    obtain ⟨error, -, rfl⟩ := Subscription.retry_ok retried
    rfl
  | _ => rfl

/-- A quiet report follows. -/
theorem Ledger.Follows.remarks {first : Ledger} {ledger : Ledger} (follows : Follows first ledger)
    (notices : List Notice) (quiet : ∀ notice ∈ notices, notice.quiet = true) :
    Follows first { ledger with journal := ledger.journal ++ notices } := by
  -- The reports are taken in one after another.
  induction notices generalizing ledger with
  | nil => simpa using follows
  | cons notice rest ih =>
    have next := ih (follows.step (.remark (quiet notice (by simp))))
      fun other member => quiet other (by simp [member])
    simpa using next

namespace Stage

variable {σ : Type} {stage : Stage σ}

/-- What can be followed of a system while its engine knows some rows. -/
def ledger (stage : Stage σ) (known : List Subscription) (system : σ) : Ledger :=
  ⟨stage.journal system, stage.log system, stage.rows.read system, known⟩

/-- Between two systems nothing happened that bears on messages. -/
structure Quietly (stage : Stage σ) (before after : σ) : Prop where
  log : stage.log after = stage.log before
  calls : stage.calls after = stage.calls before
  journal : ∃ notices, stage.journal after = stage.journal before ++ notices ∧
    ∀ notice ∈ notices, notice.quiet = true

/-- Nothing happens between a system and itself. -/
theorem Quietly.refl (system : σ) : stage.Quietly system system :=
  ⟨rfl, rfl, [], by simp, by simp⟩

/-- Nothing and nothing is nothing. -/
theorem Quietly.trans {first second third : σ} (one : stage.Quietly first second)
    (two : stage.Quietly second third) : stage.Quietly first third := by
  -- The reports are put together.
  obtain ⟨notices, journal, quiet⟩ := one.journal
  obtain ⟨more, journalMore, quietMore⟩ := two.journal
  refine ⟨two.log.trans one.log, two.calls.trans one.calls, notices ++ more, ?_, ?_⟩
  · rw [journalMore, journal, List.append_assoc]
  · intro notice member
    rcases List.mem_append.mp member with early | late
    · exact quiet notice early
    · exact quietMore notice late

/-- A quiet report is nothing that bears on messages. -/
theorem quietly_observe {notice : Notice} (quiet : notice.quiet = true) (system : σ) :
    stage.Quietly system (stage.observe notice system) :=
  ⟨by simp, by simp, [notice], by simp, by simpa using quiet⟩

/-- What happens quietly, with the rows left alone, follows. -/
theorem Quietly.follows {first : Ledger} {known : List Subscription} {before after : σ}
    (quietly : stage.Quietly before after) (rows : stage.rows.read after = stage.rows.read before)
    (follows : Ledger.Follows first (stage.ledger known before)) :
    Ledger.Follows first (stage.ledger known after) := by
  -- Only reports were added, and all of them are quiet.
  obtain ⟨notices, journal, quiet⟩ := quietly.journal
  have next := follows.remarks notices quiet
  simpa [ledger, journal, rows, quietly.log] using next

/-- What subscriber code does follows. -/
theorem Onward.follows {first : Ledger} {known : List Subscription} {before after : σ}
    (onward : stage.Onward before after)
    (follows : Ledger.Follows first (stage.ledger known before)) :
    Ledger.Follows first (stage.ledger known after) := by
  -- Rows and reports stay, and the log gets longer.
  have next := follows.step (.grow onward.log (stage.ascending after))
  simpa [ledger, onward.rows, onward.journal] using next

/-- A move of one subscription follows. -/
theorem follows_move {first : Ledger} {known : List Subscription} {row next : Subscription}
    {notices : List Notice} {before after : σ}
    (follows : Ledger.Follows first (stage.ledger known before)) (member : row ∈ known)
    (moved : Move (stage.log before) notices row next)
    (rows : stage.rows.read after = stage.rows.read before) (log : stage.log after = stage.log before)
    (journal : stage.journal after = stage.journal before ++ notices) :
    Ledger.Follows first (stage.ledger (Rows.put next known) after) := by
  -- The reports of the move are the reports between the two systems.
  have step := follows.step (.move member moved)
  simpa [ledger, rows, log, journal] using step

/-- Storing what is known follows, and so does going on with it under other stamps. -/
theorem Quietly.saved {first : Ledger} {known next : List Subscription} {before after : σ}
    (quietly : stage.Quietly before after)
    (follows : Ledger.Follows first (stage.ledger known before))
    (fields : (stage.rows.read after).map unstamped = known.map unstamped)
    (nextFields : next.map unstamped = known.map unstamped) :
    Ledger.Follows first (stage.ledger next after) := by
  -- The rows get their new stamps, are stored, and give way to what is known next.
  obtain ⟨notices, journal, quiet⟩ := quietly.journal
  have reported := follows.remarks notices quiet
  have stamped := reported.step (.restamp fields)
  have saved := stamped.step .save
  have last := saved.step (.restamp (nextFields.trans fields.symm))
  simpa [ledger, quietly.log, journal] using last

end Stage

end EventFeed
