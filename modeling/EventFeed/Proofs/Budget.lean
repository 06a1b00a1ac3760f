import EventFeed.Proofs.Spells
import EventFeed.Proofs.WellFormed
import EventFeed.Retry

/-! The budget of retries: how often a message that is never handled is handed over, and a setup hook that never
succeeds is called, where retries are limited in number. -/

namespace EventFeed

open EventFeed.Action
open Subscription (unstamped)

/-- Retries are due only while some are left. -/
theorem Backoff.left_of_isDue {backoff : Backoff} {now : Timestamp} {row : Subscription}
    (due : backoff.isDue now row = true) : row.retryAttempt < backoff.maxAttempts := by
  -- One of the two ways to be due is closed when the attempts are used up.
  unfold isDue at due
  split at due
  · cases due
  · rename_i left
    exact Nat.lt_of_not_le left

/-- Whether a report says that a message is handed to the subscriber of an id. -/
def Notice.hands (id : String) (index : Nat) : Notice → Bool
  | dispatching own next _ => own == id && next == index
  | _ => false

/-- How often a message was handed to the subscriber of an id. -/
def handouts (id : String) (index : Nat) (notices : List Notice) : Nat := notices.countP (Notice.hands id index)

/-- Whether a report says how a call of the setup hook of an id ended. -/
def Notice.endsSetup (id : String) : Notice → Bool
  | setupDone own | failed own .new .. => own == id
  | _ => false

/-- How often the setup hook of an id was called. -/
def setupCalls (id : String) (notices : List Notice) : Nat := notices.countP (Notice.endsSetup id)

@[simp] theorem handouts_append (id : String) (index : Nat) (front back : List Notice) :
    handouts id index (front ++ back) = handouts id index front + handouts id index back := List.countP_append ..

@[simp] theorem setupCalls_append (id : String) (front back : List Notice) :
    setupCalls id (front ++ back) = setupCalls id front + setupCalls id back := List.countP_append ..

/-- No call of a subscriber is reported. -/
def Uncalled (id : String) (notices : List Notice) : Prop :=
  setupCalls id notices = 0 ∧ ∀ index, handouts id index notices = 0

/-- Without a call before and without one after there is none. -/
theorem Uncalled.append {id : String} {front back : List Notice} (before : Uncalled id front)
    (after : Uncalled id back) : Uncalled id (front ++ back) :=
  ⟨by simp [before.1, after.1], fun index => by simp [before.2, after.2]⟩

/-- Where nothing is said of a subscriber, it was not called. -/
theorem Silent.uncalled {id : String} {notices : List Notice} (quiet : Silent id notices) : Uncalled id notices := by
  -- Both counts are of reports that name the subscriber.
  refine ⟨List.countP_eq_zero.mpr fun notice member ends => ?_, fun index =>
    List.countP_eq_zero.mpr fun notice member hands => ?_⟩
  · have silent := quiet notice member
    unfold Notice.endsSetup at ends
    split at ends <;> simp_all [Notice.tells]
  · have silent := quiet notice member
    unfold Notice.hands at hands
    split at hands <;> simp_all [Notice.tells]

/-- Nobody is called while subscriptions are found. -/
theorem uncalled_of_discoveries {notices : List Notice}
    (reports : ∀ notice ∈ notices, ∃ id group, notice = .discovered id group) (id : String) :
    Uncalled id notices := by
  -- Neither count takes a discovery into account.
  refine ⟨List.countP_eq_zero.mpr fun notice member => ?_, fun index =>
    List.countP_eq_zero.mpr fun notice member => ?_⟩ <;>
  · obtain ⟨own, group, rfl⟩ := reports notice member
    simp [Notice.endsSetup, Notice.hands]

/-- What was handed over at all is reported. -/
theorem exists_of_handouts {id : String} {index : Nat} {notices : List Notice}
    (handed : handouts id index notices ≠ 0) : ∃ eventType, .dispatching id index eventType ∈ notices := by
  -- A count that is not zero has something to count.
  obtain ⟨notice, member, hands⟩ := List.countP_pos_iff.mp (Nat.pos_of_ne_zero handed)
  unfold Notice.hands at hands
  split at hands
  · obtain ⟨rfl, rfl⟩ : _ ∧ _ := by simpa using hands
    exact ⟨_, member⟩
  · cases hands

namespace Subscription

variable {row next : Subscription} {budget : Nat}

/-- The tries of a subscription since it last got on: those that were retries, and the one that failed last. -/
def tries (row : Subscription) : Nat :=
  if row.status = .error then row.retryAttempt + 1 else row.retryAttempt

/-- How often the setup hook of a subscription may have been called by now without success. -/
def setupAllowance (budget : Nat) (row : Subscription) : Nat :=
  if row.resumes = .new then row.tries else budget + 1

/-- How often a message that lies ahead of a subscription may have been handed to it by now. -/
def handoutAllowance (budget : Nat) (row : Subscription) : Nat :=
  match row.resumes with
  | .new => 0
  | .booting | .active => row.tries
  | _ => budget + 1

/-- A subscription that is past its setup may have used up all calls. -/
theorem setupAllowance_of_begun (begun : row.resumes ≠ .new) : row.setupAllowance budget = budget + 1 := if_neg begun

@[simp] theorem handoutAllowance_changePosition (budget : Nat) (row : Subscription) (index : Nat) :
    (row.changePosition index).handoutAllowance budget = row.handoutAllowance budget := rfl

/-- A subscription that is new was never handed a message. -/
theorem handoutAllowance_of_new (fresh : row.resumes = .new) : row.handoutAllowance budget = 0 := by
  simp [handoutAllowance, fresh]

/-- A subscription that catches up or keeps up was handed a message as often as it tried. -/
theorem handoutAllowance_of_working (works : row.resumes = .booting ∨ row.resumes = .active) :
    row.handoutAllowance budget = row.tries := by
  rcases works with works | works <;> simp [handoutAllowance, works]

/-- More tries at the same point are allowed more. -/
theorem handoutAllowance_mono (same : next.resumes = row.resumes) (tries : row.tries ≤ next.tries) :
    row.handoutAllowance budget ≤ next.handoutAllowance budget := by
  -- What is allowed depends on where the subscription goes on, and that is the same.
  simp only [handoutAllowance, same]
  split
  · exact Nat.le_refl _
  · exact tries
  · exact tries
  · exact Nat.le_refl _

/-- With no more retries than the budget there is one more try. -/
theorem tries_le (within : row.retryAttempt ≤ budget) : row.tries ≤ budget + 1 := by
  -- A failed row has made its try already, and any other one has it ahead.
  unfold tries
  split <;> omega

/-- A subscription that has not failed has tried as often as it was retried. -/
theorem tries_of_started (started : row.status ≠ .error) : row.tries = row.retryAttempt := if_neg started

@[simp] theorem tries_fail (row : Subscription) (error : CapturedError) :
    (row.fail error).tries = row.retryAttempt + 1 := if_pos rfl

/-- No setup hook is allowed more calls than the budget has retries, and one. -/
theorem setupAllowance_le (within : row.retryAttempt ≤ budget) : row.setupAllowance budget ≤ budget + 1 := by
  -- Once a subscription is past its setup, all is allowed that the budget has.
  unfold setupAllowance
  split
  · exact tries_le within
  · exact Nat.le_refl _

/-- No message is allowed to be handed over more often than the budget has retries, and once. -/
theorem handoutAllowance_le (within : row.retryAttempt ≤ budget) : row.handoutAllowance budget ≤ budget + 1 := by
  -- What is allowed depends on where the subscription goes on.
  unfold handoutAllowance
  split
  · exact Nat.zero_le _
  · exact tries_le within
  · exact tries_le within
  · exact Nat.le_refl _

/-- A retry is not a try of its own. -/
theorem tries_retry (status : row.status = .error) (retried : row.retry = .ok next) : row.tries ≤ next.tries := by
  -- The count goes up by the one try that the failed row does not have any more.
  obtain ⟨error, -, rfl⟩ := retry_ok retried
  rw [tries, if_pos status, tries]
  split <;> simp

end Subscription

variable {σ : Type} {engine : Engine σ} {operation : Operation} {log : List (Nat × Message)} {loaded : List Nat}
  {notices journal : List Notice} {row next : Subscription} {id group : String} {budget : Nat}

/-- A setup that went well with no hook was not reported. -/
theorem Subscriber.setupReports_of_never {subscriber : Subscriber σ}
    (never : .setupDone id ∉ subscriber.setupReports id) : subscriber.setupReports id = [] :=
  List.eq_nil_iff_forall_not_mem.mpr fun _ member => never ((mem_setupReports.mp member).2 ▸ member)

/-- What is asked of an engine with a budget: it catches panics, retries wait for a clock and are limited in number,
and the subscription of an id and a group is neither put back to work on request nor removed. -/
structure Frugal (id group : String) (budget : Nat) (engine : Engine σ) (operation : Operation) : Prop where
  caught : engine.config.catchPanics = true
  delayed : ∃ (backoff : Backoff) (clock : σ → Timestamp), backoff.maxAttempts = budget ∧
    engine.retries = fun system => (RetryStrategy.delayed backoff).approves (clock system)
  spared : operation = .reactivate operation.criteria ∨ operation = .remove operation.criteria →
    operation.criteria.admits id group = false

/-- With such an engine a retry is approved only within the budget. -/
theorem Frugal.left (frugal : Frugal id group budget engine operation)
    (approved : ∃ system, engine.retries system row = true) : row.retryAttempt < budget := by
  -- The strategy of the engine is one with a maximum of attempts.
  obtain ⟨backoff, clock, limit, strategy⟩ := frugal.delayed
  obtain ⟨system, approves⟩ := approved
  rw [strategy] at approves
  exact limit ▸ Backoff.left_of_isDue approves

/-- No deed exceeds the budget. -/
theorem Deed.retryAttempt_le (done : Deed engine operation log loaded notices row next)
    (frugal : Frugal id group budget engine operation) (within : row.retryAttempt ≤ budget) :
    next.retryAttempt ≤ budget ∧ ∀ status attempt, .retrying row.id status attempt ∈ notices → attempt ≤ budget := by
  -- Deeds either count up by a retry, start the count anew, or leave it alone.
  cases done with
  | retry _ _ approved retried =>
    -- A retry is the only deed that counts one.
    have left := frugal.left approved
    obtain ⟨error, -, rfl⟩ := Subscription.retry_ok retried
    refine ⟨left, fun status attempt member => ?_⟩
    obtain ⟨-, rfl⟩ : status = error.previous ∧ attempt = row.retryAttempt + 1 := by simpa using member
    exact left
  | boot | startNow | detach | reactivate | activate | finish | recover => exact ⟨Nat.zero_le _, by simp⟩
  | pause | failSetup | handle | failHandle | breakOff => exact ⟨within, by simp⟩

/-- A call of the setup hook that fails uses up a call that was allowed, and a subscription that is past its setup is
not set up again. -/
theorem Deed.setupCalls_le (done : Deed engine operation log loaded notices row next)
    (frugal : Frugal row.id row.group budget engine operation)
    (meant : operation.criteria.admits row.id row.group = true) (within : row.retryAttempt ≤ budget)
    (never : .setupDone row.id ∉ notices) :
    row.setupAllowance budget + setupCalls row.id notices ≤ next.setupAllowance budget := by
  -- Only two deeds are about a setup that is still ahead; all others are past it, or call nobody.
  have past : setupCalls row.id notices = 0 → next.resumes ≠ .new →
      row.setupAllowance budget + setupCalls row.id notices ≤ next.setupAllowance budget := fun none begun => by
    rw [none, Subscription.setupAllowance_of_begun begun]
    exact Subscription.setupAllowance_le within
  cases done with
  | retry status _ _ retried =>
    have tries := Subscription.tries_retry status retried
    simp only [Subscription.setupAllowance, Subscription.resumes_retry status retried]
    split
    · exact tries
    · exact Nat.le_refl _
  | failSetup _ status =>
    -- The next try is the one that failed.
    have fresh : row.resumes = .new := (Subscription.resumes_of_started (by simp [status])).trans status
    have tries : row.tries = row.retryAttempt := Subscription.tries_of_started (by simp [status])
    simp [Subscription.setupAllowance, fresh, tries, setupCalls, Notice.endsSetup, status]
  | reactivate asked => exact absurd meant (by simp [frugal.spared (Or.inl asked)])
  | breakOff _ _ _ _ _ uncaught => exact absurd frugal.caught (by simp [uncaught])
  | boot | startNow =>
    -- Retries are forgotten, but there was no hook, or its success is reported.
    rw [Subscriber.setupReports_of_never fun member => never (List.mem_append_left _ member)] at past ⊢
    exact past rfl (by simp [Subscription.booting, Subscription.active])
  | handle fed | failHandle fed =>
    refine past ?_ ?_
    · rcases Operation.fed_cases fed with works | works <;> simp [setupCalls, Notice.endsSetup, works]
    · have same := Subscription.resumes_of_started (Subscription.started_of_fed fed)
      rcases Operation.fed_cases fed with works | works <;> simp [same, works]
  | recover _ status => exact past rfl (by simp [Subscription.resumes_of_started, status])
  | detach | pause | activate | finish =>
    exact past rfl (by simp [Subscription.outdated, Subscription.active, Subscription.finished])

/-- A message that is handed to a subscription was read, and lies ahead of it. -/
theorem Deed.ahead_of_handouts (done : Deed engine operation log loaded notices row next) {index : Nat}
    (handed : handouts row.id index notices ≠ 0) :
    index ∈ loaded ∧ index ∈ log.map Prod.fst ∧ row.position < index := by
  -- What was handed over at all was dispatched, and a dispatch says where the row stood.
  obtain ⟨eventType, member⟩ := exists_of_handouts handed
  obtain ⟨-, -, awaits, read, -⟩ := done.dispatching member
  exact ⟨read, awaits.1⟩

/-- A handler that fails on a message uses up a try that was allowed, and nobody gets past a message without having
handled it. -/
theorem Deed.handouts_le (done : Deed engine operation log loaded notices row next)
    (frugal : Frugal row.id row.group budget engine operation)
    (meant : operation.criteria.admits row.id row.group = true) (within : row.retryAttempt ≤ budget) {index : Nat}
    (ahead : index ∈ loaded ∧ index ∈ log.map Prod.fst ∧ row.position < index)
    (never : .handled row.id index ∉ notices)
    (positive : row.handoutAllowance budget + handouts row.id index notices ≠ 0) :
    row.handoutAllowance budget + handouts row.id index notices ≤ next.handoutAllowance budget ∧
      next.position < index := by
  obtain ⟨read, present, below⟩ := ahead
  -- Nothing is handed to a subscription before its setup.
  have begun : row.status ≠ .new := fun status => by
    have resumes := (Subscription.resumes_of_started (by simp [status])).trans status
    have handed : handouts row.id index notices ≠ 0 := by
      simpa [Subscription.handoutAllowance_of_new resumes] using positive
    obtain ⟨eventType, member⟩ := exists_of_handouts handed
    rcases Operation.fed_cases (done.dispatching member).2.1 with works | works <;> simp [status] at works
  cases done with
  | retry status _ _ retried =>
    have tries := Subscription.tries_retry status retried
    have resumes := Subscription.resumes_retry status retried
    obtain ⟨error, -, rfl⟩ := Subscription.retry_ok retried
    exact ⟨Subscription.handoutAllowance_mono resumes tries, below⟩
  | reactivate asked => exact absurd meant (by simp [frugal.spared (Or.inl asked)])
  | breakOff _ _ _ _ _ uncaught => exact absurd frugal.caught (by simp [uncaught])
  | boot _ status | startNow _ status | failSetup _ status => exact absurd status begun
  | @handle _ _ handled fed _ awaits =>
    -- The message that was handled is another one, and so it came before.
    have other : handled ≠ index := fun same => never (by simp [same])
    have earlier : handled < index := Nat.lt_of_le_of_ne (awaits.2 ⟨present, below⟩) other
    exact ⟨by simp [handouts, Notice.hands, other], Nat.max_lt.mpr ⟨below, earlier⟩⟩
  | @failHandle _ _ failed fed _ _ _ _ error =>
    have started := Subscription.started_of_fed fed
    have works : row.resumes = .booting ∨ row.resumes = .active := by
      rw [Subscription.resumes_of_started started]
      exact Operation.fed_cases fed
    have back : (row.fail error).resumes = .booting ∨ (row.fail error).resumes = .active := works
    refine ⟨?_, below⟩
    rw [Subscription.handoutAllowance_of_working works, Subscription.handoutAllowance_of_working back,
      Subscription.tries_of_started started, Subscription.tries_fail]
    by_cases same : failed = index <;> simp [handouts, Notice.hands, same]
  | detach | pause =>
    refine ⟨?_, below⟩
    simpa [Subscription.handoutAllowance, Subscription.outdated, handouts, Notice.hands]
      using Subscription.handoutAllowance_le within
  | activate _ _ _ through | finish _ _ through | recover _ _ _ through =>
    -- Retries are forgotten only past everything that was read, and the message was read and is ahead.
    exact absurd (through index read) (Nat.not_le.mpr below)

/-- What the reports tell of a subscription that was found, while it has not run out of its budget. -/
structure Thrifty (budget : Nat) (log : List (Nat × Message)) (loaded : List Nat) (notices : List Notice)
    (row : Subscription) : Prop where
  found : .discovered row.id row.group ∈ notices
  attempts : row.retryAttempt ≤ budget
  setups : .setupDone row.id ∉ notices → setupCalls row.id notices ≤ row.setupAllowance budget
  /-- A message that was handed over and is not handled lies ahead still. -/
  handed : ∀ index, .handled row.id index ∉ notices → handouts row.id index notices ≠ 0 →
    (index ∈ loaded ∧ index ∈ log.map Prod.fst ∧ row.position < index) ∧
      handouts row.id index notices ≤ row.handoutAllowance budget

namespace Thrifty

/-- Nothing of it depends on the stamp. -/
theorem restamp (thrifty : Thrifty budget log loaded notices row) (same : next.unstamped = row.unstamped) :
    Thrifty budget log loaded notices next := by
  -- A stamp is in none of the fields that are counted with.
  obtain ⟨found, attempts, setups, handed⟩ := thrifty
  rw [Subscription.eq_of_unstamped same]
  exact ⟨found, attempts, setups, handed⟩

/-- Nor does it matter what is reported of others. -/
theorem silent (thrifty : Thrifty budget log loaded journal row) (quiet : Silent row.id notices) :
    Thrifty budget log loaded (journal ++ notices) row := by
  -- Reports of others are counted nowhere, and the earlier ones are counted as they were.
  obtain ⟨found, attempts, setups, handed⟩ := thrifty
  refine ⟨List.mem_append_left _ found, attempts, fun never => ?_, fun index never => ?_⟩
  · simpa [quiet.uncalled.1] using setups fun member => never (List.mem_append_left _ member)
  · simpa [quiet.uncalled.2] using handed index fun member => never (List.mem_append_left _ member)

/-- Nor does it matter that more is read, or that the log gets longer. -/
theorem further (thrifty : Thrifty budget log loaded notices row) {longer : List (Nat × Message)} {read : List Nat}
    (kept : ∀ index ∈ loaded, index ∈ log.map Prod.fst → index ∈ read ∧ index ∈ longer.map Prod.fst) :
    Thrifty budget longer read notices row := by
  -- A message that was read and is in the log stays one.
  refine ⟨thrifty.found, thrifty.attempts, thrifty.setups, fun index never positive => ?_⟩
  obtain ⟨⟨before, present, below⟩, within⟩ := thrifty.handed index never positive
  obtain ⟨before, present⟩ := kept index before present
  exact ⟨⟨before, present, below⟩, within⟩

/-- A subscription that was just found has spent nothing. -/
theorem fresh (shape : row = { id := row.id, group := row.group, runMode := row.runMode })
    (uncalled : Uncalled row.id notices) (reported : .discovered row.id row.group ∈ notices) :
    Thrifty budget log loaded notices row := by
  -- Nothing was called yet, so both counts are zero.
  refine ⟨reported, by rw [shape]; exact Nat.zero_le _, fun _ => ?_, fun index _ positive => ?_⟩
  · rw [uncalled.1]
    exact Nat.zero_le _
  · exact absurd (uncalled.2 index) positive

/-- Whatever is done to a subscription in an operation with a budget keeps it within the budget. -/
theorem deed (thrifty : Thrifty budget log loaded journal row)
    (done : Deed engine operation log loaded notices row next)
    (frugal : Frugal row.id row.group budget engine operation)
    (meant : operation.criteria.admits row.id row.group = true) :
    Thrifty budget log loaded (journal ++ notices) next := by
  -- What was spent before and what the deed spends are within the allowance together.
  obtain ⟨found, attempts, setups, handed⟩ := thrifty
  obtain ⟨id, group, -⟩ := done.named
  refine ⟨?_, (done.retryAttempt_le frugal attempts).1, fun never => ?_, fun index never positive => ?_⟩
  · rw [id, group]
    exact List.mem_append_left _ found
  · -- The calls so far and those of the deed are allowed together.
    rw [id] at never ⊢
    obtain ⟨before, now⟩ := not_or.mp (mt List.mem_append.mpr never)
    rw [setupCalls_append]
    exact Nat.le_trans (Nat.add_le_add_right (setups before) _) (done.setupCalls_le frugal meant attempts now)
  · rw [id] at never positive ⊢
    obtain ⟨before, now⟩ := not_or.mp (mt List.mem_append.mpr never)
    rw [handouts_append] at positive ⊢
    -- The message lies ahead, as it was handed over before, or is now.
    have ahead : index ∈ loaded ∧ index ∈ log.map Prod.fst ∧ row.position < index := by
      by_cases first : handouts row.id index journal = 0
      · exact done.ahead_of_handouts (by omega)
      · exact (handed index before first).1
    have allowed : handouts row.id index journal ≤ row.handoutAllowance budget := by
      by_cases first : handouts row.id index journal = 0
      · omega
      · exact (handed index before first).2
    obtain ⟨within, below⟩ := done.handouts_le frugal meant attempts ahead now (by omega)
    exact ⟨⟨ahead.1, ahead.2.1, below⟩, by omega⟩

end Thrifty

/-- What is true of an id and of the reports: its subscriber is not called before its subscription is known, and that
subscription stays within the budget. -/
structure Chronicle.Budgeted (id : String) (budget : Nat) (notices : List Notice) (chronicle : Chronicle) : Prop where
  absent : id ∉ Rows.ids chronicle.known → Uncalled id notices
  retried : ∀ status attempt, .retrying id status attempt ∈ notices → attempt ≤ budget
  known : ∀ row ∈ chronicle.known, row.id = id → Thrifty budget chronicle.log chronicle.loaded notices row

namespace Chronicle.Budgeted

variable {chronicle after : Chronicle}

/-- What is done to the subscription itself stays within the budget. -/
theorem own (budgeted : Budgeted row.id budget journal chronicle) (member : row ∈ chronicle.known)
    (done : Deed engine operation chronicle.log chronicle.loaded notices row next)
    (frugal : Frugal row.id row.group budget engine operation)
    (meant : operation.criteria.admits row.id row.group = true) :
    Budgeted row.id budget (journal ++ notices)
      { chronicle with journal := chronicle.journal ++ notices, known := Rows.put next chronicle.known } := by
  -- Of the rows only this one is changed, and of the reports only its own are new.
  have thrifty := budgeted.known row member rfl
  refine ⟨fun absent => ?_, fun status attempt reported => ?_, fun other present same => ?_⟩
  · exact absurd (by simpa using Rows.id_mem_ids member) absent
  · rcases List.mem_append.mp reported with old | new
    · exact budgeted.retried status attempt old
    · exact (done.retryAttempt_le frugal thrifty.attempts).2 status attempt new
  · rcases Rows.mem_put present with rfl | ⟨-, different⟩
    · exact thrifty.deed done frugal meant
    · exact absurd (same.trans done.named.1.symm) different

/-- Messages that are appended are nothing to it. -/
theorem grow (budgeted : Budgeted id budget journal chronicle) {log : List (Nat × Message)}
    (longer : chronicle.log <+: log) : Budgeted id budget journal { chronicle with log } :=
  ⟨budgeted.absent, budgeted.retried, fun row member same => (budgeted.known row member same).further
    fun _ read present => ⟨read, (longer.map Prod.fst).subset present⟩⟩

/-- Every small step of an operation with a budget stays within it. -/
theorem step (budgeted : Budgeted id budget journal chronicle) (frugal : Frugal id group budget engine operation)
    (single : ∀ other, .discovered id other ∈ journal → other = group)
    (step : Step engine operation chronicle after) :
    ∃ notices, after.journal = chronicle.journal ++ notices ∧ Budgeted id budget (journal ++ notices) after := by
  -- A step concerns the subscription, or others, or finds it, or removes it.
  cases step.bears id with
  | aside notices further quiet listed known stored read =>
    refine ⟨notices, further, fun absent => (budgeted.absent (mt listed.mpr absent)).append quiet.uncalled,
      fun status attempt member => ?_, fun row member same => ?_⟩
    · rcases List.mem_append.mp member with old | new
      · exact budgeted.retried status attempt old
      · exact absurd (quiet _ new) (by simp [Notice.tells])
    · obtain ⟨old, present, stamped⟩ := known row member same
      obtain rfl : old.id = id := (Subscription.id_of_unstamped stamped).trans same
      exact (((budgeted.known old present rfl).silent quiet).further read).restamp stamped.symm
  | found notices fresh absent reports new shape =>
    subst shape
    have uncalled := (budgeted.absent absent).append (uncalled_of_discoveries reports id)
    refine ⟨notices, rfl, fun _ => uncalled, fun status attempt member => ?_, fun row member same => ?_⟩
    · refine budgeted.retried status attempt ((List.mem_append.mp member).resolve_right fun added => ?_)
      obtain ⟨own, group, shape⟩ := reports _ added
      cases shape
    · subst same
      rcases List.mem_append.mp member with old | added
      · exact absurd (Rows.id_mem_ids old) absent
      · obtain ⟨shape, reported⟩ := new row added
        exact .fresh shape uncalled (List.mem_append_right _ reported)
  | own notices row changed same member meant done shape =>
    subst same shape
    obtain rfl := single row.group (budgeted.known row member rfl).found
    exact ⟨notices, rfl, budgeted.own member done frugal meant⟩
  | removed row same asked member meant =>
    -- The subscription is not one of those that are removed.
    subst same
    obtain rfl := single row.group (budgeted.known row member rfl).found
    exact absurd meant (by simp [frugal.spared (Or.inr asked)])

end Chronicle.Budgeted

/-- What a budget of retries means for the subscription of an id, in some reports and in the rows that are stored after
them. -/
structure WithinBudget (id : String) (budget : Nat) (notices : List Notice) (rows : List Subscription) : Prop where
  /-- A message that the handlers never get through is handed over once, and once more with each retry. -/
  handouts : ∀ index, .handled id index ∉ notices → handouts id index notices ≤ budget + 1
  /-- So is the setup hook called, if it never succeeds. -/
  setups : .setupDone id ∉ notices → setupCalls id notices ≤ budget + 1
  /-- No retry is counted that exceeds the budget. -/
  retries : ∀ status attempt, .retrying id status attempt ∈ notices → attempt ≤ budget
  stored : ∀ row ∈ rows, row.id = id → row.retryAttempt ≤ budget

namespace Stage

/-- From before the subscription of an id is found, engines with a budget may do anything but put it back to work on
request or remove it, on any clock and with anything else in the store: it stays within the budget. -/
theorem Spell.within_budget {stage : Stage σ} {first last : σ}
    (spell : stage.Spell (Frugal id group budget) first last) (distinct : (Rows.ids (stage.rows.read first)).Nodup)
    (absent : id ∉ Rows.ids (stage.rows.read first)) :
    ∃ notices, stage.journal last = stage.journal first ++ notices ∧
      ((∀ other, .discovered id other ∈ notices → other = group) →
        WithinBudget id budget notices (stage.rows.read last)) := by
  -- The subscription is one of the group as long as it was found for no other one.
  obtain ⟨notices, journal, loaded, budgeted⟩ := spell.tells (fun notices chronicle =>
      (∀ other, .discovered id other ∈ notices → other = group) → Chronicle.Budgeted id budget notices chronicle)
    (fun {engine operation notices one two} frugal budgeted step => by
      by_cases single : ∀ other, .discovered id other ∈ notices → other = group
      · obtain ⟨more, further, budgeted⟩ := (budgeted single).step frugal single step
        exact ⟨more, further, fun _ => budgeted⟩
      · obtain ⟨more, further⟩ := step.journal
        exact ⟨more, further, fun later => absurd (fun other member => later other (by simp [member])) single⟩)
    (fun budgeted longer single => (budgeted single).grow longer)
    (fun frugal uncaught => absurd frugal.caught (by simp [uncaught])) distinct
    (fun _ => ⟨fun _ => ⟨rfl, fun _ => rfl⟩, by simp, fun row member same =>
      absurd (same ▸ Rows.id_mem_ids member) absent⟩)
  refine ⟨notices, journal, fun single => ?_⟩
  obtain ⟨uncalled, retried, known⟩ := budgeted single
  have within : ∀ row ∈ stage.rows.read last, row.id = id → row.retryAttempt ≤ budget :=
    fun row member same => (known row member same).attempts
  by_cases present : id ∈ Rows.ids (stage.rows.read last)
  · -- What the reports tell of the subscription is within what it is allowed.
    obtain ⟨row, member, rfl⟩ := List.mem_map.mp present
    obtain ⟨-, attempts, setups, handed⟩ := known row member rfl
    refine ⟨fun index never => ?_, fun never => ?_, retried, within⟩
    · by_cases positive : handouts row.id index notices = 0
      · omega
      · exact Nat.le_trans (handed index never positive).2 (Subscription.handoutAllowance_le attempts)
    · exact Nat.le_trans (setups never) (Subscription.setupAllowance_le attempts)
  · -- Without a subscription nobody was called.
    obtain ⟨calls, hands⟩ := uncalled present
    exact ⟨fun index _ => by rw [hands]; exact Nat.zero_le _, fun _ => by rw [calls]; exact Nat.zero_le _, retried, within⟩

end Stage

/-- No point in time is after the last one. -/
theorem Timestamp.notAfter_latest (point : Timestamp) : point.notAfter .latest = true := by
  -- It is the greatest number that a stamp can hold.
  simp only [notAfter, decide_eq_true_eq]
  exact Int64.le_iff_toInt_le.mpr (Int64.toInt_le _)

namespace World

/-- An engine that retries once, at the end of time. -/
def patient : Engine World :=
  { feeder uneven .never with retries := fun _ row => row.lastSavedAt.isSome && decide (row.retryAttempt < 1) }

/-- Its strategy is one with delays, for a clock that has reached the end of time. -/
theorem patient_frugal : Frugal "brittle" "default" 1 patient (.boot {} none) := by
  -- The clock shows the end of time, so a delay never matters, and only the count does.
  refine ⟨rfl, ⟨{ maxAttempts := 1 }, fun _ => .latest, rfl, ?_⟩, by simp⟩
  funext world row
  simp only [patient, RetryStrategy.approves, Backoff.isDue]
  cases row.lastSavedAt with
  | none => simp
  | some saved =>
    rcases Nat.eq_zero_or_pos row.retryAttempt with none | spent
    · simp [none, Timestamp.notAfter_latest]
    · simp [Nat.not_lt.mpr spent, Nat.succ_le_of_lt spent]

/-- A brittle subscriber panics on a message in three boots, the last of which does not retry it. -/
def exhausted : World :=
  let boot := fun world => (((Operation.boot {} none).perform patient).outcome world).2
  boot (boot (boot blank))

/-- The message has been handed over twice then, as often as a budget of one retry allows. -/
theorem exhausted_within_budget :
    handouts "brittle" 2 (stage.journal exhausted) = 2 ∧ .handled "brittle" 2 ∉ stage.journal exhausted ∧
      ∃ notices, stage.journal exhausted = stage.journal blank ++ notices ∧
        ((∀ other, .discovered "brittle" other ∈ notices → other = "default") →
          WithinBudget "brittle" 1 notices (stage.rows.read exhausted)) := by
  -- The three boots make up a spell, and what they leave is computed.
  have hosted : stage.Hosts patient := ⟨fun _ _ _ => rfl, rfl, rfl⟩
  have spell : stage.Spell (Frugal "brittle" "default" 1) blank exhausted :=
    .operate (.operate (.operate .start hosted uneven_behaves patient_frugal) hosted uneven_behaves patient_frugal)
      hosted uneven_behaves patient_frugal
  exact ⟨by decide +kernel, by decide +kernel, spell.within_budget (by decide +kernel) (by decide +kernel)⟩

end World

end EventFeed
