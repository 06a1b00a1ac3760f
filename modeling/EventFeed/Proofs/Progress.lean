import EventFeed.Proofs.Operations
import Mathlib.Data.List.Sort

/-! Progress: what the reports say of one subscriber's messages, and why none is left out, repeated
or out of order. -/

namespace EventFeed

open EventFeed.Action
open Subscription (unstamped)

/-- Whether a report is of the start of a subscription. -/
def Notice.restarts : Notice → Bool
  | discovered .. | activeFromNow .. => true
  | _ => false

/-- What reports say of one subscription since it was added. -/
structure Tally where
  /-- Where the subscription started: the end of the log, if it was recorded, and zero if not. -/
  start : Nat := 0
  /-- The indices of the messages that were handled without a failure, in
  the order of their handling. -/
  completed : List Nat := []
  /-- The index of the message that was handed over last. -/
  offered : Nat := 0
  /-- The indices of the messages that failed, each with the position that the subscription had then. -/
  failures : List (Nat × Nat) := []

namespace Tally

/-- Takes one more report into account; a failed setup has no message. -/
def note (id : String) (tally : Tally) : Notice → Tally
  | .discovered other _ => if other = id then {} else tally
  | .activeFromNow other index => if other = id then { tally with start := index } else tally
  | .dispatching other index _ => if other = id then { tally with offered := index } else tally
  | .handled other index =>
    if other = id then { tally with completed := tally.completed ++ [index] } else tally
  | .failed other status position _ =>
    if other = id ∧ status ≠ .new then
      { tally with failures := tally.failures ++ [(tally.offered, position)] }
    else tally
  | _ => tally

/-- Takes more reports into account, one after another. -/
def noteAll (id : String) (tally : Tally) (notices : List Notice) : Tally := notices.foldl (note id) tally

@[simp] theorem noteAll_nil (id : String) (tally : Tally) : tally.noteAll id [] = tally := rfl

@[simp] theorem noteAll_cons (id : String) (tally : Tally) (notice : Notice) (rest : List Notice) :
    tally.noteAll id (notice :: rest) = (tally.note id notice).noteAll id rest := rfl

@[simp] theorem noteAll_append (id : String) (tally : Tally) (front back : List Notice) :
    tally.noteAll id (front ++ back) = (tally.noteAll id front).noteAll id back := List.foldl_append

/-- A quiet report is of no account. -/
theorem note_quiet {notice : Notice} (quiet : notice.quiet = true) (id : String) (tally : Tally) :
    tally.note id notice = tally := by
  -- The reports that are of account are those that are not quiet.
  cases notice <;> first | rfl | cases quiet

/-- Quiet reports are of no account. -/
theorem noteAll_quiet {notices : List Notice} (quiet : ∀ notice ∈ notices, notice.quiet = true) (id : String)
    (tally : Tally) : tally.noteAll id notices = tally := by
  -- Each of them leaves the tally to the next one.
  induction notices with
  | nil => rfl
  | cons notice rest ih =>
    rw [noteAll_cons, note_quiet (quiet notice (by simp))]
    exact ih fun other member => quiet other (by simp [member])

/-- A report that is not of a start leaves the start of the tally. -/
theorem note_start {notice : Notice} (running : notice.restarts = false) (id : String) (tally : Tally) :
    (tally.note id notice).start = tally.start := by
  -- The reports that change the start are those of a start.
  cases notice <;> first | rfl | (cases running; done) | (unfold note; simp only; split <;> rfl)

/-- Reports of other new subscriptions are of no account. -/
theorem noteAll_of_others {id : String} {notices : List Notice}
    (others : ∀ notice ∈ notices, ∃ other group, notice = .discovered other group ∧ other ≠ id)
    (tally : Tally) : tally.noteAll id notices = tally := by
  -- None of the reports names the subscription.
  induction notices with
  | nil => rfl
  | cons notice rest ih =>
    obtain ⟨other, group, rfl, different⟩ := others notice (by simp)
    have here : tally.note id (.discovered other group) = tally := by simp [note, different]
    rw [noteAll_cons, here]
    exact ih fun notice member => others notice (by simp [member])

/-- An empty tally stays empty while subscriptions are added. -/
theorem noteAll_empty {notices : List Notice}
    (reports : ∀ notice ∈ notices, ∃ other group, notice = .discovered other group) (id : String) :
    ({} : Tally).noteAll id notices = {} := by
  -- Each report leaves it alone or starts it anew.
  induction notices with
  | nil => rfl
  | cons notice rest ih =>
    obtain ⟨other, group, rfl⟩ := reports notice (by simp)
    have here : ({} : Tally).note id (.discovered other group) = {} := by simp [note]
    rw [noteAll_cons, here]
    exact ih fun notice member => reports notice (by simp [member])

/-- The tally of a subscription that is added starts anew. -/
theorem noteAll_of_added {id group : String} {notices : List Notice}
    (reports : ∀ notice ∈ notices, ∃ other group, notice = .discovered other group)
    (added : .discovered id group ∈ notices) (tally : Tally) : tally.noteAll id notices = {} := by
  -- What comes before the report does not matter, and what comes after it adds nothing.
  obtain ⟨front, back, rfl⟩ := List.append_of_mem added
  have anew : (tally.noteAll id front).note id (.discovered id group) = {} := by simp [note]
  rw [noteAll_append, noteAll_cons, anew]
  exact noteAll_empty (fun notice member => reports notice (by simp [member])) id

/-- What happens to one subscription is of no account for the others. -/
theorem noteAll_move {log : List (Nat × Message)} {notices : List Notice} {row next : Subscription}
    (moved : Move log notices row next) {id : String} (other : row.id ≠ id) (tally : Tally) :
    tally.noteAll id notices = tally := by
  -- Every report of a move names its subscription.
  cases moved <;> simp [note, other]

end Tally

/-- The indices of a log that lie after a start, up to an end. -/
def between (log : List (Nat × Message)) (start last : Nat) : List Nat :=
  (log.map Prod.fst).filter fun index => decide (start < index ∧ index ≤ last)

/-- Nothing lies between an index and itself. -/
@[simp] theorem between_self (log : List (Nat × Message)) (index : Nat) : between log index index = [] := by
  -- No index is both above and at most the same number.
  refine List.filter_eq_nil_iff.mpr fun other _ => ?_
  simp

/-- Up to the next index there is one index more. -/
theorem between_next {log : List (Nat × Message)} (ascending : (log.map Prod.fst).Pairwise (· < ·))
    {start index : Nat} {row : Subscription} (next : Awaits log row index) (ordered : start ≤ row.position) :
    between log start index = between log start row.position ++ [index] := by
  -- Both lists are in order, so it is enough that they have the same members.
  obtain ⟨⟨present, behind⟩, least⟩ := next
  refine List.Pairwise.eq_of_mem_iff (r := (· < ·)) (ascending.filter _) ?_ fun other => ?_
  · refine List.pairwise_append.mpr ⟨ascending.filter _, List.pairwise_singleton _ _, ?_⟩
    intro other member last isLast
    rw [List.mem_singleton] at isLast
    have bounded : start < other ∧ other ≤ row.position := by simpa using (List.mem_filter.mp member).2
    omega
  · simp only [between, List.mem_append, List.mem_singleton, List.mem_filter, decide_eq_true_eq]
    constructor
    · intro inside
      obtain ⟨logged, after, upTo⟩ := inside
      -- An index up to the next one is reached already, or it is the next one.
      by_cases reached : other ≤ row.position
      · exact Or.inl ⟨logged, after, reached⟩
      · have further := least ⟨logged, Nat.lt_of_not_le reached⟩
        exact Or.inr (Nat.le_antisymm upTo further)
    · rintro (⟨logged, after, upTo⟩ | rfl)
      · exact ⟨logged, after, by omega⟩
      · exact ⟨present, by omega, Nat.le_refl _⟩

/-- What is appended to a log comes after each of its indices. -/
theorem after_prefix {log longer : List (Nat × Message)} (grown : log <+: longer)
    (ascending : (longer.map Prod.fst).Pairwise (· < ·)) {index other : Nat}
    (present : index ∈ log.map Prod.fst) (member : other ∈ longer.map Prod.fst) :
    other ∈ log.map Prod.fst ∨ index < other := by
  -- The appended entries stand behind all others.
  obtain ⟨fresh, rfl⟩ := grown
  rw [List.map_append, List.mem_append] at member
  rw [List.map_append, List.pairwise_append] at ascending
  exact member.imp id fun new => ascending.2.2 index present other new

/-- A log that grows keeps what lies up to one of its indices. -/
theorem between_grow {log longer : List (Nat × Message)} (grown : log <+: longer)
    (ascending : (longer.map Prod.fst).Pairwise (· < ·)) {start last : Nat}
    (reached : last = start ∨ last ∈ log.map Prod.fst) : between longer start last = between log start last := by
  -- Either nothing lies in between, or the last index is in the log and the appended ones are above it.
  rcases reached with rfl | present
  · simp
  · obtain ⟨fresh, rfl⟩ := grown
    -- No appended index is at or before the last one.
    have later : ∀ index ∈ fresh.map Prod.fst, last < index := by
      rw [List.map_append, List.pairwise_append] at ascending
      exact ascending.2.2 last present
    have nothing : (fresh.map Prod.fst).filter (fun index => decide (start < index ∧ index ≤ last)) = [] := by
      refine List.filter_eq_nil_iff.mpr fun index member => ?_
      have := later index member
      simp only [decide_eq_true_eq]
      omega
    rw [between, List.map_append, List.filter_append, nothing, List.append_nil]
    rfl

/-- What was reported of a subscription fits where it stands in the log. -/
structure Fits (log : List (Nat × Message)) (tally : Tally) (row : Subscription) : Prop where
  start : tally.start ≤ row.position
  reached : row.position = tally.start ∨ row.position ∈ log.map Prod.fst
  completed : tally.completed = between log tally.start row.position
  failures : ∀ failure ∈ tally.failures,
    IsLeast {index | index ∈ log.map Prod.fst ∧ failure.2 < index} failure.1
  /-- A subscription that has not been set up yet, or will be set up again, stands at the beginning. -/
  unstarted : row.status = .new ∨ row.status = .error ∧ (∃ error, row.error = some error ∧ error.previous = .new) →
    row.position = 0

namespace Fits

variable {log longer : List (Nat × Message)} {tally : Tally} {row next : Subscription}

/-- A new subscription fits an empty tally. -/
theorem fresh (untouched : row.position = 0) : Fits log {} row := by
  -- Nothing was handled, and nothing lies up to the beginning.
  refine ⟨Nat.zero_le _, Or.inl untouched, ?_, by simp, fun _ => untouched⟩
  rw [untouched, between_self]

/-- What fits a log fits it when it has grown. -/
theorem grow (fits : Fits log tally row) (grown : log <+: longer)
    (ascending : (longer.map Prod.fst).Pairwise (· < ·)) : Fits longer tally row := by
  -- The appended indices are greater than all that have been handled or have failed.
  obtain ⟨start, reached, completed, failures, unstarted⟩ := fits
  have kept : ∀ {index}, index ∈ log.map Prod.fst → index ∈ longer.map Prod.fst :=
    fun present => (grown.map Prod.fst).subset present
  refine ⟨start, reached.imp id kept, completed.trans (between_grow grown ascending reached).symm, ?_, unstarted⟩
  intro failure member
  obtain ⟨⟨present, further⟩, least⟩ := failures failure member
  refine ⟨⟨kept present, further⟩, fun other ⟨logged, above⟩ => ?_⟩
  rcases after_prefix grown ascending present logged with old | new
  · exact least ⟨old, above⟩
  · exact Nat.le_of_lt new

/-- What fits a subscription fits it wherever it has the same position, and no setup ahead that it
had not before. -/
theorem stay (fits : Fits log tally row) (position : next.position = row.position)
    (unstarted : next.status = .new ∨
      next.status = .error ∧ (∃ error, next.error = some error ∧ error.previous = .new) →
      row.position = 0) : Fits log tally next :=
  ⟨position ▸ fits.start, position ▸ fits.reached, position ▸ fits.completed, fits.failures,
    fun early => position.trans (unstarted early)⟩

/-- What fits a subscription fits it under another stamp. -/
theorem restamp (fits : Fits log tally row) (same : next.unstamped = row.unstamped) : Fits log tally next := by
  -- Stamps are not looked at.
  rw [Subscription.eq_of_unstamped same]
  exact fits.stay rfl fits.unstarted

/-- Going back to the status of a failure does not start a subscription. -/
theorem back {error : SubscriptionError} (fits : Fits log tally row) (status : row.status = .error)
    (failed : row.error = some error) (previous : error.previous = .new) : row.position = 0 :=
  fits.unstarted (Or.inr ⟨status, error, failed, previous⟩)

/-- A subscription that starts at the end of the log starts after everything that was there before. -/
theorem startNow {index : Nat} (fits : Fits log tally row) (status : row.status = .new) :
    Fits log { tally with start := index } (row.changePosition index).active := by
  -- It stood at the beginning, so nothing has been handled.
  have untouched : row.position = 0 := fits.unstarted (Or.inl status)
  have position : (row.changePosition index).active.position = index := by
    simp [Subscription.changePosition, Subscription.active, Subscription.settle, untouched]
  have nothing : tally.completed = [] := by
    have first : tally.start = 0 := Nat.le_zero.mp (untouched ▸ fits.start)
    rw [fits.completed, first, untouched, between_self]
  refine ⟨Nat.le_of_eq position.symm, Or.inl position, ?_, fits.failures, fun early => ?_⟩
  · rw [position, between_self]
    exact nothing
  · rcases early with new | ⟨error, -⟩
    · cases new
    · cases error

/-- A subscription that handles its next message is one message further. -/
theorem handle {index offered : Nat} (ascending : (log.map Prod.fst).Pairwise (· < ·))
    (fits : Fits log tally row) (status : row.status = .booting ∨ row.status = .active)
    (awaits : Awaits log row index) :
    Fits log { tally with offered, completed := tally.completed ++ [index] } (row.changePosition index) := by
  -- The next message is the only one between the old position and the new one.
  have further := between_next ascending awaits fits.start
  obtain ⟨⟨present, behind⟩, -⟩ := awaits
  have behind : row.position < index := behind
  have position : (row.changePosition index).position = index := Nat.max_eq_right (Nat.le_of_lt behind)
  refine ⟨?_, Or.inr (by rw [position]; exact present), ?_, fits.failures, fun early => ?_⟩
  · rw [position]
    exact Nat.le_trans fits.start (Nat.le_of_lt behind)
  · rw [position, further, fits.completed]
  · have same : (row.changePosition index).status = row.status := rfl
    rw [same] at early
    rcases status with status | status <;> simp [status] at early

/-- A subscription that fails on its next message stays where it is. -/
theorem failHandle {index : Nat} {error : CapturedError} (fits : Fits log tally row)
    (status : row.status = .booting ∨ row.status = .active) (awaits : Awaits log row index) :
    Fits log { tally with offered := index, failures := tally.failures ++ [(index, row.position)] }
      (row.fail error) := by
  -- The failure goes back to a status that comes after the setup.
  refine ⟨fits.start, fits.reached, fits.completed, fun failure member => ?_, fun early => ?_⟩
  · rcases List.mem_append.mp member with old | new
    · exact fits.failures failure old
    · rw [List.mem_singleton] at new
      subst new
      exact awaits
  · rcases status with status | status <;>
      simp [Subscription.fail, Subscription.statusBefore, SubscriptionError.ofCaptured, status] at early

/-- Whatever happens to a subscription, what is reported of it fits. -/
theorem move {notices : List Notice} (ascending : (log.map Prod.fst).Pairwise (· < ·))
    (fits : Fits log tally row) (moved : Move log notices row next) :
    Fits log (tally.noteAll row.id notices) next := by
  -- Each way to move changes the position and the reports together, or neither.
  cases moved with
  | retry status retried =>
    -- A subscription that goes back stands where it failed.
    obtain ⟨error, failed, rfl⟩ := Subscription.retry_ok retried
    refine fits.stay rfl fun early => ?_
    rcases early with new | ⟨-, other, kept, -⟩
    · exact fits.back status failed new
    · cases kept
  | detach status => exact fits.stay rfl (by simp [Subscription.outdated, Subscription.settle])
  | pause status => exact fits.stay rfl (by simp [Subscription.pause])
  | reactivate status =>
    refine fits.stay rfl fun early => ?_
    rcases early with new | ⟨-, other, kept, -⟩
    · -- Only a subscription that failed before it was set up is new again.
      simp only [Subscription.reactivate, Subscription.settle, Subscription.statusBefore] at new
      split at new
      · rename_i error failed current
        exact fits.back current failed new
      · cases new
    · cases kept
  | boot status mode => exact fits.stay rfl (by simp [Subscription.booting, Subscription.settle])
  | startNow status mode present => simpa [Tally.note] using fits.startNow status
  | failSetup status error =>
    -- A failed setup has no message, and so it is no failure of one.
    have ignored : tally.noteAll row.id [.failed row.id row.status row.position error] = tally := by
      simp [Tally.note, status]
    rw [ignored]
    exact fits.stay rfl fun _ => fits.unstarted (Or.inl status)
  | handle status awaits eventType => simpa [Tally.note] using fits.handle ascending status awaits
  | failHandle status awaits eventType error =>
    -- A failed message counts, since the subscription has been set up.
    have started : row.status ≠ .new := by rcases status with status | status <;> simp [status]
    simpa [Tally.note, started] using fits.failHandle status awaits
  | @breakOff row index status awaits eventType =>
    -- A message that broke off was offered, and nothing else came of it.
    have offered : Fits log { tally with offered := index } row :=
      ⟨fits.start, fits.reached, fits.completed, fits.failures, fits.unstarted⟩
    simpa [Tally.note] using offered
  | activate status mode => exact fits.stay rfl (by simp [Subscription.active, Subscription.settle])
  | finish status mode => exact fits.stay rfl (by simp [Subscription.finished, Subscription.settle])
  | recover status mode =>
    refine fits.stay rfl fun early => ?_
    simp [Subscription.resetRetryAttempt, status] at early

end Fits

/-- Every subscription that is known fits what was reported since some point, on
top of the tally it had then. -/
structure Progressing (base : String → Tally) (past : List Notice) (ledger : Ledger) : Prop where
  ascending : (ledger.log.map Prod.fst).Pairwise (· < ·)
  fits : ∃ notices, ledger.journal = past ++ notices ∧
    ∀ row ∈ ledger.known, Fits ledger.log ((base row.id).noteAll row.id notices) row

/-- Whatever happens, the subscriptions that are known keep fitting what was reported of them. -/
theorem Progressing.step {base : String → Tally} {past : List Notice} {ledger next : Ledger}
    (progressing : Progressing base past ledger) (step : Ledger.Step ledger next) :
    Progressing base past next := by
  -- The steps of a ledger are gone through; only a report that is not quiet adds to a tally.
  obtain ⟨ascending, notices, journal, fits⟩ := progressing
  cases step with
  | @remark notice quiet =>
    refine ⟨ascending, notices ++ [notice], by simp [journal], fun row member => ?_⟩
    -- Quiet reports are of no account.
    simpa [Tally.note_quiet quiet] using fits row member
  | load start targets =>
    refine ⟨ascending, notices ++ [.loading start targets], by simp [journal], fun row member => ?_⟩
    simpa [Tally.note] using fits row member
  | grow longer ascendingLonger =>
    exact ⟨ascendingLonger, notices, journal, fun row member =>
      (fits row member).grow longer ascendingLonger⟩
  | @enroll reported fresh reports new distinct =>
    refine ⟨ascending, notices ++ reported, by simp [journal], fun row member => ?_⟩
    rw [Tally.noteAll_append]
    rcases List.mem_append.mp member with old | added
    · -- The reports are about ids that nobody had.
      rw [Tally.noteAll_of_others fun notice report => ?_]
      · exact fits row old
      · obtain ⟨id, group, shape, absent⟩ := reports notice report
        exact ⟨id, group, shape, fun same => absent (same ▸ Rows.id_mem_ids old)⟩
    · -- A row that is added starts anew, with an empty tally.
      obtain ⟨shape, group, report⟩ := new row added
      rw [Tally.noteAll_of_added (fun notice report => ?_) report]
      · exact Fits.fresh (by rw [shape])
      · obtain ⟨id, group, shape, -⟩ := reports notice report
        exact ⟨id, group, shape⟩
  | @move reported row moved member happened =>
    refine ⟨ascending, notices ++ reported, by simp [journal], fun other present => ?_⟩
    rw [Tally.noteAll_append]
    rcases Rows.mem_put present with rfl | ⟨old, different⟩
    · -- The row that has moved fits what is reported of the move.
      rw [happened.id_eq]
      exact (fits row member).move ascending happened
    · -- The reports of the move are of no account for the others.
      rw [Tally.noteAll_move happened fun same => different (same.symm.trans happened.id_eq.symm)]
      exact fits other old
  | @restamp known same =>
    refine ⟨ascending, notices, journal, fun row member => ?_⟩
    -- A row under another stamp has the id that it had before.
    have stamped : row.unstamped ∈ ledger.known.map unstamped := same ▸ List.mem_map_of_mem member
    obtain ⟨old, present, equal⟩ := List.mem_map.mp stamped
    have id : old.id = row.id := Subscription.id_of_unstamped equal
    exact id ▸ (fits old present).restamp equal.symm
  | save => exact ⟨ascending, notices, journal, fits⟩
  | remove id status =>
    refine ⟨ascending, notices ++ [.removed id status], by simp [journal], fun row member => ?_⟩
    simpa [Tally.note] using fits row (List.mem_filter.mp member).1

/-- Whatever happens in a row, the subscriptions that are known keep fitting
what was reported of them. -/
theorem Progressing.follows {base : String → Tally} {past : List Notice} {first last : Ledger}
    (progressing : Progressing base past first) (follows : Ledger.Follows first last) :
    Progressing base past last := follows.keeps (fun before step => before.step step) progressing

end EventFeed
