import EventFeed.Proofs.History
import EventFeed.Proofs.World

/-! Well-formed subscriptions: the status, the failure, the position and the retries of every stored row
go together, whatever was asked of engines and wherever an operation broke off. -/

namespace EventFeed

open EventFeed.Action
open Subscription (unstamped)

namespace Subscription

/-- A subscription whose fields go together. -/
structure WellFormed (row : Subscription) : Prop where
  /-- In error there is a failure. -/
  failed : row.status = .error → row.error ≠ none
  /-- A failure is kept in error and in a pause only. -/
  stopped : row.error ≠ none → row.status = .error ∨ row.status = .paused
  /-- A subscription fails while it is new, booting or active. -/
  previous : ∀ error, row.error = some error → error.previous ∈ [.new, .booting, .active]
  /-- What is kept of a failure has its message. -/
  context : ∀ error, row.error = some error →
    ∃ context, error.context = some context ∧ context.message = error.message
  new : row.status = .new → row.position = 0
  /-- Nothing is left of the retries of a subscription that is done. -/
  done : row.status = .finished ∨ row.status = .outdated → row.retryAttempt = 0

/-- A well-formed subscription that would not be new again at a later position. -/
structure Sound (row : Subscription) : Prop extends row.WellFormed where
  unstarted : row.status = .error → ∀ error, row.error = some error → error.previous = .new → row.position = 0

/-- A subscription without a failure that is neither in error nor new is sound, if it is done with its
retries where it is done. -/
theorem sound_of_running {row : Subscription} (clear : row.error = none) (started : row.status ≠ .error)
    (new : row.status = .new → row.position = 0)
    (done : row.status = .finished ∨ row.status = .outdated → row.retryAttempt = 0) : row.Sound := by
  -- Only what is said of a failure and of its status remains, and there is no failure.
  refine ⟨⟨fun status => absurd status started, fun kept => absurd clear kept, ?_, ?_, new, done⟩,
    fun status => absurd status started⟩
  · intro error kept
    rw [clear] at kept
    cases kept
  · intro error kept
    rw [clear] at kept
    cases kept

/-- Nothing but the stamp differs, and stamps are not looked at. -/
theorem Sound.restamp {row next : Subscription} (sound : row.Sound) (same : next.unstamped = row.unstamped) :
    next.Sound := by
  -- The row is the same one with another stamp.
  rw [eq_of_unstamped same]
  exact ⟨⟨sound.failed, sound.stopped, sound.previous, sound.context, sound.new, sound.done⟩, sound.unstarted⟩

/-- A subscription that goes to a status with a clean slate is sound. -/
theorem sound_settle {row : Subscription} {status : Status} (started : status ≠ .error)
    (new : status = .new → row.position = 0) : (row.settle status).Sound :=
  sound_of_running rfl started new fun _ => rfl

/-- A subscription that has not failed before keeps the status in which it fails. -/
theorem fail_error {row : Subscription} (started : row.status ≠ .error) (error : CapturedError) :
    (row.fail error).error = some (.ofCaptured row.status error) := by
  -- Only a failed row has another status to go back to.
  have before : row.statusBefore row.status = row.status := by
    unfold statusBefore
    split
    · exact absurd ‹_› started
    · rfl
  simp [fail, before]

/-- A subscription that fails in one of the statuses in which it can fail is sound, if it is at the
beginning where it is new. -/
theorem sound_fail {row : Subscription} {error : CapturedError} (status : row.status ∈ [.new, .booting, .active])
    (new : row.status = .new → row.position = 0) : (row.fail error).Sound := by
  -- It did not fail before, so the status to go back to is its own.
  have started : row.status ≠ .error := fun current => by simp [current] at status
  have failure := fail_error started error
  refine ⟨⟨fun _ => by simp [failure], fun _ => Or.inl rfl, ?_, ?_, Status.noConfusion, by simp [fail]⟩, ?_⟩ <;>
    simp only [failure, SubscriptionError.ofCaptured, Option.some.injEq, forall_eq']
  · exact status
  · exact ⟨error, rfl, rfl⟩
  · exact fun _ => new

/-- Whatever happens to a sound subscription, it is sound afterwards. -/
theorem Sound.move {log : List (Nat × Message)} {notices : List Notice} {row next : Subscription}
    (sound : row.Sound) (moved : Move log notices row next) : next.Sound := by
  -- Most moves settle the subscription in a status, or leave everything but position and retries.
  cases moved with
  | retry status retried =>
    -- The status it goes back to is one of those in which it can fail.
    obtain ⟨error, failed, rfl⟩ := Subscription.retry_ok retried
    have previous := sound.previous error failed
    refine sound_of_running rfl (fun again => ?_) (sound.unstarted status error failed) fun again => ?_
    · have same : error.previous = .error := again
      simp [same] at previous
    · have same : error.previous = .finished ∨ error.previous = .outdated := again
      rcases same with same | same <;> simp [same] at previous
  | detach => exact sound_settle (by simp) (by simp)
  | pause =>
    exact ⟨⟨by simp [pause], fun _ => Or.inr rfl, sound.previous, sound.context, by simp [pause], by simp [pause]⟩,
      by simp [pause]⟩
  | reactivate status =>
    refine sound_settle ?_ ?_
    · intro again
      unfold statusBefore at again
      split at again
      · rename_i error failed _
        simpa [again] using sound.previous error failed
      · cases again
    · intro again
      unfold statusBefore at again
      split at again
      · rename_i error failed current
        exact sound.unstarted current error failed again
      · cases again
  | boot => exact sound_settle (by simp) (by simp)
  | startNow => exact sound_settle (by simp) (by simp)
  | failSetup status error => exact sound_fail (by simp [status]) fun new => sound.new new
  | @handle row index status _ _ =>
    -- Neither booting nor active subscriptions have a failure, a beginning or an end.
    refine ⟨⟨sound.failed, sound.stopped, sound.previous, sound.context, fun new => ?_, sound.done⟩, fun failed => ?_⟩
    · have same : row.status = .new := new
      rcases status with status | status <;> simp [status] at same
    · have same : row.status = .error := failed
      rcases status with status | status <;> simp [status] at same
  | failHandle status => exact sound_fail (by rcases status with status | status <;> simp [status]) sound.new
  | breakOff => exact sound
  | activate => exact sound_settle (by simp) (by simp)
  | finish => exact sound_settle (by simp) (by simp)
  | recover status =>
    refine ⟨⟨sound.failed, sound.stopped, sound.previous, sound.context, sound.new, fun _ => rfl⟩, sound.unstarted⟩

/-- A subscription that was just added is sound. -/
theorem sound_fresh {row : Subscription} (fresh : row = { id := row.id, group := row.group, runMode := row.runMode }) :
    row.Sound := by
  -- It is new, at the start, and without a failure.
  rw [fresh]
  exact sound_of_running rfl (by simp) (by simp) (by simp)

end Subscription

namespace Ledger

/-- Every row, stored or known, is sound. -/
structure Sound (ledger : Ledger) : Prop where
  stored : ∀ row ∈ ledger.stored, row.Sound
  known : ∀ row ∈ ledger.known, row.Sound

/-- Rows are sound at every moment. -/
theorem Sound.turn {ledger next : Ledger} (sound : Sound ledger) (turn : Turn ledger next) : Sound next := by
  -- The turns are gone through, and only the steps that change a row need more than what holds before.
  obtain ⟨stored, known⟩ := sound
  cases turn with
  | forget => exact ⟨stored, stored⟩
  | @write row member =>
    refine ⟨fun other present => ?_, known⟩
    rcases Rows.mem_enlist present with rfl | old
    · exact known other member
    · exact stored other old
  | step step =>
    cases step with
    | remark | load | grow => exact ⟨stored, known⟩
    | enroll _ new _ =>
      refine ⟨stored, fun row member => ?_⟩
      rcases List.mem_append.mp member with old | added
      · exact known row old
      · exact Subscription.sound_fresh (new row added).1
    | move member happened =>
      refine ⟨stored, fun row present => ?_⟩
      rcases Rows.mem_put present with rfl | ⟨old, -⟩
      · exact (known _ member).move happened
      · exact known row old
    | restamp same =>
      refine ⟨stored, fun row member => ?_⟩
      obtain ⟨old, present, stamped⟩ := Rows.source same member
      exact (known old present).restamp stamped.symm
    | save => exact ⟨known, known⟩
    | remove id status =>
      exact ⟨fun row member => stored row (List.mem_filter.mp member).1,
        fun row member => known row (List.mem_filter.mp member).1⟩

end Ledger

namespace Stage

variable {σ : Type} {stage : Stage σ}

/-- A system without rows is sound, and so are its later moments. -/
theorem sound_turns {first : σ} {ledger : Ledger} (empty : stage.rows.read first = [])
    (turns : Ledger.Turns (stage.outside first) ledger) : ledger.Sound := by
  refine turns.keeps (fun before turn => before.turn turn) ⟨?_, ?_⟩ <;> simp [outside, Stage.ledger, empty]

/-- Whatever was asked of engines on an empty store, and wherever an operation broke off, every stored row is
well formed, and no two rows have one id. -/
theorem History.wellFormed {first last : σ} (history : stage.History first last)
    (empty : stage.rows.read first = []) :
    (∀ row ∈ stage.rows.read last, row.WellFormed) ∧ (Rows.ids (stage.rows.read last)).Nodup := by
  -- A history is a sequence of turns, each of which keeps its rows sound.
  have distinct : (Rows.ids (stage.rows.read first)).Nodup := by simp [empty]
  obtain ⟨turns, distinct⟩ := history.turns distinct
  exact ⟨fun row member => ((sound_turns empty turns).stored row member).toWellFormed, distinct⟩

end Stage

namespace World

/-- How calls of a brittle subscriber end: from its second message on, each in a panic. -/
def brittle (calls : List CallNote) : HandlerOutcome :=
  if 2 ≤ (calls.filter fun note => decide (note.hook = .handler 0)).length then .panicked (.text "torn")
  else .done

/-- A steady subscriber and a brittle one. -/
def uneven : List (Subscriber World) :=
  [reacting "steady" fun _ => .done, reacting "brittle" brittle]

/-- Neither of them touches rows or reports. -/
theorem uneven_behaves : ∀ subscriber ∈ uneven, stage.Behaves subscriber := by
  -- Both of them are contained, which is more.
  intro subscriber member
  rcases List.mem_pair.mp member with rfl | rfl <;> exact (reacting_contained ..).behaves

/-- Two messages to be caught up with. -/
def blank : World := telling ["a", "b"]

/-- An engine that writes after every message and catches no panic. -/
def careless : Engine World := feeder uneven .never { flushInterval := some 1, catchPanics := false }

/-- The boot of a careless engine breaks off at the second message. -/
def torn : World := (((Operation.boot {} none).perform careless).outcome blank).2

/-- After it, an engine that catches panics boots. -/
def mended : World := (((Operation.boot {} none).perform (feeder uneven .never)).outcome torn).2

/-- The one operation comes after the other. -/
theorem mended_history : stage.History blank torn ∧ stage.History torn mended :=
  ⟨.operate .start (hosts ..) uneven_behaves _, .operate .start (hosts ..) uneven_behaves _⟩

/-- After an operation that broke off and one in which a subscriber failed, all rows are well formed. -/
theorem mended_wellFormed :
    (((Operation.boot {} none).perform careless).outcome blank).1 = .error (.panicked (.text "torn")) ∧
      (stage.rows.read mended).map (fun row => (row.id, row.status, row.position)) =
        [("steady", .active, 2), ("brittle", .error, 1)] ∧
      (∀ row ∈ stage.rows.read mended, row.WellFormed) ∧ (Rows.ids (stage.rows.read mended)).Nodup := by
  -- The boot of the second engine continues the history of the first one.
  have history : stage.History blank mended :=
    .operate mended_history.1 (hosts ..) uneven_behaves (.boot {} none)
  exact ⟨by decide +kernel, by decide +kernel, history.wellFormed rfl⟩

end World

end EventFeed
