import EventFeed.Proofs.Feeding

/-! Courses: how far a subscription gets in a window, told from the reports of the window. It takes every
message up to the first one that fails. -/

namespace EventFeed

open EventFeed.Action
open Subscription (unstamped)

variable {σ : Type}

/-- Whether a report is about a message that is given to a subscription, or about its failure. -/
def Notice.concerns (id : String) : Notice → Bool
  | dispatching other .. | handled other .. | failed other .. => decide (other = id)
  | _ => false

/-- The account of a subscription: the reports of the messages that are given to it, and of its failures. -/
def account (id : String) (notices : List Notice) : List Notice := notices.filter (Notice.concerns id)

@[simp] theorem account_nil (id : String) : account id [] = [] := rfl

@[simp] theorem account_append (id : String) (front back : List Notice) :
    account id (front ++ back) = account id front ++ account id back := List.filter_append ..

/-- A quiet report is in no account. -/
theorem account_quiet {notices : List Notice} (quiet : ∀ notice ∈ notices, notice.quiet = true) (id : String) :
    account id notices = [] := by
  -- Reports of messages and of failures are not quiet.
  refine List.filter_eq_nil_iff.mpr fun notice member => ?_
  have still := quiet notice member
  cases notice <;> first | exact Bool.false_ne_true | cases still

/-- The account of a subscription that handles some messages, one after another. -/
def handlings (id : String) (entries : List (Nat × Message)) : List Notice :=
  entries.flatMap fun entry => [.dispatching id entry.1 entry.2.eventType, .handled id entry.1]

/-- The messages after an index. -/
def beyond (index : Nat) (entries : List (Nat × Message)) : List (Nat × Message) :=
  entries.filter fun entry => decide (index < entry.1)

/-- The messages before an index. -/
def earlier (index : Nat) (entries : List (Nat × Message)) : List (Nat × Message) :=
  entries.filter fun entry => decide (entry.1 < index)

/-- The messages before an index are not more when a later message is added. -/
theorem earlier_append {index : Nat} {entries : List (Nat × Message)} {entry : Nat × Message}
    (later : index ≤ entry.1) : earlier index (entries ++ [entry]) = earlier index entries := by
  simp [earlier, Nat.not_lt.mpr later]

/-- All messages are before an index that is after each of them. -/
theorem earlier_all {index : Nat} {entries : List (Nat × Message)} (after : ∀ entry ∈ entries, entry.1 < index) :
    earlier index entries = entries :=
  List.filter_eq_self.mpr fun entry member => decide_eq_true (after entry member)

/-- What comes of the offer of a message to a subscription, with the reports of it. -/
inductive Response (status : Status) (entry : Nat × Message) (row : Subscription) : List Notice → Subscription → Prop
  /-- A subscription in another status is passed by. -/
  | other (other : row.status ≠ status) : Response status entry row [] row
  /-- A subscription that is past the message says so. -/
  | past (current : row.status = status) (past : entry.1 ≤ row.position) :
    Response status entry row [.alreadyHandled row.id entry.1 row.position] row
  /-- The message is handled. -/
  | handled (current : row.status = status) (behind : row.position < entry.1) :
    Response status entry row (handlings row.id [entry]) (row.changePosition entry.1)
  /-- The message is not handled, and the subscription stops. -/
  | failed (current : row.status = status) (behind : row.position < entry.1) (error : CapturedError) :
    Response status entry row
      [.dispatching row.id entry.1 entry.2.eventType, .failed row.id status row.position error] (row.fail error)

namespace Response

variable {status : Status} {entry : Nat × Message} {row next : Subscription} {notices : List Notice}

theorem id_eq (response : Response status entry row notices next) : next.id = row.id := by cases response <;> rfl

/-- What is reported of an offer is in no other account. -/
theorem account_foreign (response : Response status entry row notices next) {id : String} (other : row.id ≠ id) :
    account id notices = [] := by
  cases response <;> simp [account, Notice.concerns, handlings, other]

end Response

/-- How far a subscription has got with the messages that were read: past all of them, or up to the first one
that failed. Its account has each of the messages that lay ahead of it, up to that one. -/
inductive Course (status : Status) (read : List (Nat × Message)) (notices : List Notice) (row : Subscription) :
    Subscription → Prop
  | running (told : account row.id notices = handlings row.id (beyond row.position read)) :
    Course status read notices row { row with position := max row.position (newest read) }
  | stopped {entry : Nat × Message} {position : Nat} {error : CapturedError} (present : entry ∈ read)
    (behind : row.position < entry.1)
    (told : account row.id notices = handlings row.id (beyond row.position (earlier entry.1 read)) ++
      [.dispatching row.id entry.1 entry.2.eventType, .failed row.id status position error])
    (reached : position = max row.position (newest (earlier entry.1 read))) :
    Course status read notices row ({ row with position }.fail error)

namespace Course

variable {status : Status} {read : List (Nat × Message)} {notices more : List Notice}
  {row current next : Subscription} {entry : Nat × Message}

/-- Reports that are not in the account of a subscription change nothing. -/
theorem foreign (course : Course status read notices row next) (silent : account row.id more = []) :
    Course status read (notices ++ more) row next := by
  -- A course goes by the account of its own subscription.
  have same : account row.id (notices ++ more) = account row.id notices := by
    rw [account_append, silent, List.append_nil]
  cases course with
  | running told => exact .running (same.trans told)
  | stopped present behind told reached => exact .stopped present behind (same.trans told) reached

/-- At first nothing is read. -/
theorem start (silent : account row.id notices = []) : Course status [] notices row row := by
  -- With nothing read the newest index is zero, which moves no position.
  have own : { row with position := max row.position (newest []) } = row := by simp
  have running : Course status [] notices row { row with position := max row.position (newest []) } := .running silent
  rwa [own] at running

/-- A subscription that is offered the message after those that were read goes on, or stops there. -/
theorem offered (course : Course status read notices row current) (own : row.status = status)
    (fed : status = .booting ∨ status = .active) (after : ∀ other ∈ read, other.1 < entry.1)
    (response : Response status entry current more next) :
    Course status (read ++ [entry]) (notices ++ more) row next := by
  -- A course that stopped earlier is over, and any other one is decided by the response.
  have top := newest_append after
  have kept : newest read ≤ entry.1 := newest_le_iff.mpr fun other member => Nat.le_of_lt (after other member)
  cases course with
  | running told =>
    cases response with
    | other other => exact absurd own other
    | past _ past =>
      -- It has been here before, and stays where it is.
      have past : entry.1 ≤ max row.position (newest read) := past
      have passed : entry.1 ≤ row.position := by
        have last : newest read = 0 ∨ newest read ∈ read.map Prod.fst := newest_mem
        rcases last with none | present
        · omega
        · obtain ⟨other, member, shape⟩ := List.mem_map.mp present
          have before := after other member
          omega
      have same : max row.position (newest read) = max row.position (newest (read ++ [entry])) := by omega
      rw [same]
      refine .running ?_
      rw [account_append, told]
      simp [beyond, account, Notice.concerns, Nat.not_lt.mpr passed]
    | handled _ behind =>
      have behind : max row.position (newest read) < entry.1 := behind
      have ahead : row.position < entry.1 := by omega
      have moved : ({ row with position := max row.position (newest read) } : Subscription).changePosition entry.1 =
          { row with position := max row.position (newest (read ++ [entry])) } := by
        simp only [Subscription.changePosition, Subscription.mk.injEq, true_and, and_true]
        omega
      rw [moved]
      refine .running ?_
      rw [account_append, told]
      simp [beyond, handlings, account, Notice.concerns, ahead]
    | failed _ behind error =>
      -- Everything that was read before lies before this message.
      have behind : max row.position (newest read) < entry.1 := behind
      refine .stopped (show entry ∈ read ++ [entry] by simp) (by omega) ?_ ?_
      · rw [account_append, told, earlier_append (Nat.le_refl _), earlier_all after]
        simp [account, Notice.concerns]
      · rw [earlier_append (Nat.le_refl _), earlier_all after]
  | @stopped failing position error present behind told reached =>
    cases response with
    | other =>
      -- The message that failed lies before this one.
      have shape : earlier failing.1 (read ++ [entry]) = earlier failing.1 read :=
        earlier_append (Nat.le_of_lt (after failing present))
      refine .stopped (List.mem_append_left _ present) behind ?_ (by rw [shape]; exact reached)
      rw [shape, List.append_nil]
      exact told
    | past stopped _ => rcases fed with rfl | rfl <;> cases stopped
    | handled stopped _ => rcases fed with rfl | rfl <;> cases stopped
    | failed stopped _ _ => rcases fed with rfl | rfl <;> cases stopped

/-- Messages at or before the position of a subscription make no difference to its course. -/
theorem whole {log : List (Nat × Message)} {lowest : Nat} (within : lowest ≤ row.position)
    (course : Course status (beyond lowest log) notices row next) : Course status log notices row next := by
  -- What lies beyond the position is the same with and without the messages below it, and so is the newest index.
  have ahead : ∀ entries, beyond row.position (beyond lowest entries) = beyond row.position entries := by
    intro entries
    rw [beyond, beyond, List.filter_filter]
    refine List.filter_congr fun entry _ => ?_
    rw [← Bool.decide_and, decide_eq_decide]
    omega
  have top : ∀ entries, max row.position (newest (beyond lowest entries)) = max row.position (newest entries) := by
    intro entries
    apply Nat.le_antisymm
    · refine Nat.max_le.mpr ⟨Nat.le_max_left _ _, newest_le_iff.mpr fun entry member => ?_⟩
      exact Nat.le_trans (le_newest (List.mem_filter.mp member).1) (Nat.le_max_right _ _)
    · refine Nat.max_le.mpr ⟨Nat.le_max_left _ _, newest_le_iff.mpr fun entry member => ?_⟩
      by_cases above : lowest < entry.1
      · exact Nat.le_trans (le_newest (List.mem_filter.mpr ⟨member, by simpa using above⟩)) (Nat.le_max_right _ _)
      · exact Nat.le_trans (by omega) (Nat.le_max_left _ _)
  have swap : ∀ index, earlier index (beyond lowest log) = beyond lowest (earlier index log) :=
    fun index => List.filter_comm ..
  cases course with
  | running told =>
    rw [ahead] at told
    rw [top]
    exact .running told
  | stopped present behind told reached =>
    rw [swap, ahead] at told
    rw [swap, top] at reached
    exact .stopped (List.mem_of_mem_filter present) behind told reached

end Course

namespace Stage

variable {stage : Stage σ} {engine : Engine σ} {status : Status}

/-- What the offer of a message to a target leaves, where panics are caught. -/
structure Responded (stage : Stage σ) (status : Status) (entry : Nat × Message) (target : Target σ) (before : σ)
    (next : Target σ) (after : σ) : Prop where
  subscriber : next.subscriber = target.subscriber
  rows : stage.rows.read after = stage.rows.read before
  still : stage.Sparing target.subscriber → stage.log after = stage.log before
  journal : ∃ notices, stage.journal after = stage.journal before ++ notices ∧
    Response status entry target.subscription notices next.subscription

/-- What the handlers of a subscriber may change: nothing that an engine looks at, if they append nothing, and otherwise
the log only. -/
structure Confined (stage : Stage σ) (subscriber : Subscriber σ) (before after : σ) : Prop where
  rows : stage.rows.read after = stage.rows.read before
  journal : stage.journal after = stage.journal before
  still : stage.Sparing subscriber → stage.log after = stage.log before

/-- Handing a message to a subscriber that behaves changes no more than its handlers may. -/
theorem handle_confined {subscriber : Subscriber σ} (behaves : stage.Behaves subscriber) (message : Message)
    (system : σ) : Meets (engine.handle subscriber message) system (fun _ next => stage.Confined subscriber system next)
      fun abort next => Panics engine abort ∧ stage.Confined subscriber system next := by
  -- Each handler keeps within these limits, and they add up.
  refine handle_moves (fun system => ⟨rfl, rfl, fun _ => rfl⟩) (fun one two => ?_)
    (fun entry member message system => ?_) message system
  · exact ⟨two.rows.trans one.rows, two.journal.trans one.journal,
      fun sparing => (two.still sparing).trans (one.still sparing)⟩
  · exact ⟨(behaves.handlers entry member message system).rows, (behaves.handlers entry member message system).journal,
      fun sparing => sparing entry member message system⟩

/-- A target responds to the offer of a message, unless a handler panics and nobody catches it. -/
theorem Hosts.offer_answers (hosted : stage.Hosts engine) {target : Target σ}
    (behaves : stage.Behaves target.subscriber) (entry : Nat × Message) (system : σ) :
    Meets (engine.offer status entry.1 entry.2 target) system
      (fun offered after => stage.Responded status entry target system offered.1 after)
      fun abort after => Panics engine abort ∧ stage.rows.read after = stage.rows.read system := by
  -- An offer passes a target by, or hands it the message.
  obtain ⟨index, message⟩ := entry
  unfold Engine.offer
  simp only
  split
  · rename_i other
    -- A target in another status is passed by.
    exact Meets.pure ⟨rfl, rfl, fun _ => rfl, [], by simp, .other other⟩
  rename_i current
  rw [ne_eq, Decidable.not_not] at current
  split
  · rename_i past
    exact hosted.note_meets (Meets.pure ⟨rfl, by simp, by simp, _, by simp, .past current past⟩)
  rename_i behind
  rw [Nat.not_le] at behind
  -- The handlers leave everything as it is, and what came of them is reported.
  apply hosted.note_meets
  refine ((handle_confined behaves message _).weaken (fun _ _ confined => confined) fun _ _ early =>
    ⟨early.1, early.2.rows.trans (stage.read_observe _ _)⟩).bind fun result middle confined => ?_
  obtain ⟨rows, journal, still⟩ := confined
  cases result with
  | ok _ =>
    exact hosted.note_meets (Meets.pure ⟨rfl, by simpa using rows, by simpa using still, _,
      by simp [journal, handlings], .handled current behind⟩)
  | error error =>
    apply Meets.run_bind (hosted.fail_run target.subscription error middle)
    refine Meets.pure ⟨rfl, by simpa using rows, by simpa using still, _, ?_,
      .failed current behind (.ofHandler error)⟩
    simp [journal, current]

/-- Where panics are caught, a target responds to every offer. -/
theorem Hosts.offer_responds (hosted : stage.Hosts engine) (caught : engine.config.catchPanics = true)
    {target : Target σ} (behaves : stage.Behaves target.subscriber) (entry : Nat × Message) (system : σ) :
    Ends (engine.offer status entry.1 entry.2 target) system fun offered after =>
      stage.Responded status entry target system offered.1 after :=
  ends_of_caught caught (hosted.offer_answers behaves entry system)

/-- Every subscription that a window started with is on its course, and nobody else has an account. -/
structure Coursing (stage : Stage σ) (status : Status) (start : List (Target σ)) (begun : σ)
    (read left : List (Nat × Message)) (targets : List (Target σ)) (system : σ) : Prop where
  calm : ∀ target ∈ targets, stage.Behaves target.subscriber ∧ stage.Sparing target.subscriber
  ids : Rows.ids (Target.all targets) = Rows.ids (Target.all start)
  ascending : ((read ++ left).map Prod.fst).Pairwise (· < ·)
  log : stage.log system = stage.log begun
  courses : ∃ notices, stage.journal system = stage.journal begun ++ notices ∧
    (∀ id, id ∉ Rows.ids (Target.all start) → account id notices = []) ∧
    ∀ row ∈ Target.all start, ∀ next ∈ Target.all targets, next.id = row.id →
      Course status read notices row next

/-- In the middle of a round, the targets in front have been offered the message and the others have not. -/
structure Rounding (stage : Stage σ) (status : Status) (start : List (Target σ)) (begun : σ)
    (read : List (Nat × Message)) (entry : Nat × Message) (before : σ) (front back : List (Target σ)) (system : σ) :
    Prop where
  calm : ∀ target ∈ front ++ back, stage.Behaves target.subscriber ∧ stage.Sparing target.subscriber
  ids : Rows.ids (Target.all (front ++ back)) = Rows.ids (Target.all start)
  rows : stage.rows.read system = stage.rows.read before
  log : stage.log system = stage.log begun
  courses : ∃ notices, stage.journal system = stage.journal begun ++ notices ∧
    (∀ id, id ∉ Rows.ids (Target.all start) → account id notices = []) ∧
    ∀ row ∈ Target.all start,
      (∀ next ∈ Target.all front, next.id = row.id →
        Course status (read ++ [entry]) notices row next) ∧
      ∀ next ∈ Target.all back, next.id = row.id → Course status read notices row next

section Windows

variable {start : List (Target σ)} {begun : σ} {read : List (Nat × Message)}
  {entry : Nat × Message}

/-- One more target is offered the message of the round. -/
theorem Rounding.next {before system after : σ} {front back : List (Target σ)} {target next : Target σ}
    (fed : status = .booting ∨ status = .active) (current : ∀ row ∈ Target.all start, row.status = status)
    (fresh : ∀ other ∈ read, other.1 < entry.1)
    (distinct : (Rows.ids (Target.all start)).Nodup)
    (rounding : stage.Rounding status start begun read entry before front (target :: back) system)
    (responded : stage.Responded status entry target system next after) :
    stage.Rounding status start begun read entry before (front ++ [next]) back after := by
  -- The target that responds leaves the back of the round and joins the front.
  obtain ⟨calm, ids, rows, log, notices, journal, silent, courses⟩ := rounding
  obtain ⟨subscriber, sameRows, still, more, further, response⟩ := responded
  have sameLog := still (calm target (by simp)).2
  have id := response.id_eq
  -- No other target has the id of this one.
  have apart : (Rows.ids (Target.all front ++ target.subscription :: Target.all back)).Nodup := by
    have shape : Rows.ids (Target.all front ++ target.subscription :: Target.all back) =
        Rows.ids (Target.all start) := by simpa [Target.all] using ids
    rw [shape]
    exact distinct
  simp only [Rows.ids_append, Rows.ids_cons, List.nodup_append, List.nodup_cons] at apart
  obtain ⟨-, ⟨notBack, -⟩, notFront⟩ := apart
  refine ⟨fun other member => ?_, ?_, sameRows.trans rows, sameLog.trans log, notices ++ more, ?_, ?_, ?_⟩
  · simp only [List.append_assoc, List.mem_append, List.mem_cons, List.not_mem_nil, or_false] at member
    rcases member with inFront | rfl | inBack
    · exact calm other (by simp [inFront])
    · exact subscriber ▸ calm target (by simp)
    · exact calm other (by simp [inBack])
  · rw [← ids]
    simp [Target.all, id]
  · rw [further, journal, List.append_assoc]
  · -- Only targets are reported as failed.
    intro other absent
    have different : target.subscription.id ≠ other := by
      intro same
      refine absent (same ▸ ids ▸ ?_)
      simp [Target.all]
    rw [account_append, silent other absent, response.account_foreign different]
    rfl
  · intro row member
    obtain ⟨offered, waiting⟩ := courses row member
    -- The other targets go on as they were.
    have foreign : ∀ {read : List (Nat × Message)} {other : Subscription}, other.id = row.id →
        target.subscription.id ≠ row.id → Course status read notices row other →
        Course status read (notices ++ more) row other := fun _ different course =>
      course.foreign (response.account_foreign different)
    refine ⟨fun other present same => ?_, fun other present same => ?_⟩
    · rw [Target.all, List.map_append, List.mem_append] at present
      rcases present with inFront | here
      · have different : target.subscription.id ≠ row.id := by
          rw [← same]
          exact fun equal => notFront _ (Rows.id_mem_ids inFront) _ (by simp) equal.symm
        exact foreign same different (offered other inFront same)
      · -- This one takes the message, or stops there.
        obtain rfl := List.mem_singleton.mp here
        exact (waiting target.subscription (by simp [Target.all]) (id.symm.trans same)).offered (current row member)
          fed fresh response
    · have different : target.subscription.id ≠ row.id := by
        rw [← same]
        exact fun equal => notBack (equal ▸ Rows.id_mem_ids present)
      exact foreign same different (waiting other (by simp [Target.all] at present ⊢; exact Or.inr present) same)

/-- A round of offers keeps every target on its course. -/
theorem Hosts.coursing_offers (hosted : stage.Hosts engine) (caught : engine.config.catchPanics = true)
    (fed : status = .booting ∨ status = .active) (current : ∀ row ∈ Target.all start, row.status = status)
    (distinct : (Rows.ids (Target.all start)).Nodup) :
    stage.Offers engine status (fun read left targets _ => stage.Coursing status start begun read left targets)
      fun _ _ => False := by
  -- Rounds are followed target by target.
  intro read entry rest targets errors system _ coursing
  obtain ⟨calm, ids, ascending, log, notices, journal, silent, courses⟩ := coursing
  -- The message of the round comes after all that were read.
  have fresh : ∀ other ∈ read, other.1 < entry.1 := by
    rw [List.map_append, List.pairwise_append] at ascending
    exact fun other member => ascending.2.2 _ (List.mem_map_of_mem member) _ (by simp)
  refine (Meets.mapM (fun done back between =>
    stage.Rounding status start begun read entry system (done.map Prod.fst) back between) ?_ targets [] system
    ⟨calm, ids, rfl, log, notices, journal, silent,
      fun row member => ⟨by simp [Target.all], courses row member⟩⟩).mono ?_
  · intro done target back between rounding
    have calm := rounding.calm target (by simp)
    apply (hosted.offer_responds caught calm.1 entry between).mono
    intro offered after responded
    simpa using rounding.next fed current fresh distinct responded
  · -- In the end everybody has been offered the message.
    intro offered after rounding
    simp only [List.nil_append] at rounding
    obtain ⟨calm, idsAfter, rows, log, notices, journal, silent, courses⟩ := rounding
    rw [List.append_nil] at calm idsAfter
    exact ⟨rows, idsAfter.trans ids.symm, calm, idsAfter, by simpa using ascending, log, notices, journal, silent,
      fun row member => (courses row member).1⟩

/-- Writing the targets changes no course. -/
theorem coursing_saves :
    stage.Saves fun read left targets _ => stage.Coursing status start begun read left targets := by
  -- A write reports nothing and leaves the log.
  intro read rest targets errors system after _ coursing stored
  obtain ⟨calm, ids, ascending, log, notices, journal, silent, courses⟩ := coursing
  exact ⟨calm, ids, ascending, stored.aside.log.trans log, notices, stored.aside.journal.trans journal, silent, courses⟩

end Windows

/-- A subscription that is meant, in a status, and has a subscriber. -/
def Chosen (engine : Engine σ) (criteria : FeedCriteria) (status : Status) (row : Subscription) : Prop :=
  criteria.admits row.id row.group = true ∧ row.status = status ∧ engine.registry.knows row.id = true

/-- The subscriptions of the targets are those that are chosen. -/
theorem mem_all_targetsIn {criteria : FeedCriteria} {rows : List Subscription} {row : Subscription} :
    row ∈ Target.all (targetsIn engine criteria status rows) ↔ row ∈ rows ∧ Chosen engine criteria status row := by
  -- A target is a chosen row with its subscriber, so having the one is having the other.
  constructor
  · intro member
    obtain ⟨target, present, rfl⟩ := List.mem_map.mp member
    obtain ⟨stored, meant, current, known⟩ := mem_targetsIn.mp present
    exact ⟨stored, meant, current, by simp [Registry.knows, known]⟩
  · rintro ⟨stored, meant, current, known⟩
    obtain ⟨subscriber, found⟩ := Option.isSome_iff_exists.mp known
    exact List.mem_map.mpr ⟨⟨row, subscriber⟩, mem_targetsIn.mpr ⟨stored, meant, current, found⟩, rfl⟩

/-- What feeding without a limit leaves: every subscription that is chosen has taken its course through the whole
log and was settled if it was not stopped, and every other one is as it was. -/
structure Coursed (stage : Stage σ) (engine : Engine σ) (criteria : FeedCriteria) (status : Status)
    (settled : Subscription → Subscription) (before after : σ) : Prop where
  distinct : (Rows.ids (stage.rows.read after)).Nodup
  log : stage.log after = stage.log before
  courses : ∃ notices, stage.journal after = stage.journal before ++ notices ∧
    ∀ row ∈ stage.rows.read before, ∃ next ∈ stage.rows.read after, next.id = row.id ∧
      (Chosen engine criteria status row → ∃ last, Course status (stage.log before) notices row last ∧
        next.unstamped = (if last.status = status then settled last else last).unstamped) ∧
      (¬ Chosen engine criteria status row → next.unstamped = row.unstamped ∧ account row.id notices = [])

/-- A settled target is found among the settled targets, under the id that it had. -/
theorem get?_settled {settled : Subscription → Subscription} (named : ∀ row, (settled row).id = row.id)
    {targets : List (Target σ)} {target : Target σ} (member : target ∈ targets)
    (distinct : (Rows.ids (Target.all targets)).Nodup) :
    Rows.get? (Target.all (targets.map (settledTarget status settled))) target.subscription.id =
      some (if target.subscription.status = status then settled target.subscription else target.subscription) := by
  -- Settling changes no id, so the target is found where it was.
  have place : (settledTarget status settled target).subscription =
      if target.subscription.status = status then settled target.subscription else target.subscription := by
    unfold settledTarget
    split <;> rfl
  have id : (settledTarget status settled target).subscription.id = target.subscription.id := by
    rw [place]
    split
    · exact named _
    · rfl
  rw [← place, ← id]
  refine Rows.get?_of_mem ?_ (List.mem_map_of_mem (List.mem_map_of_mem member))
  rw [ids_settled named]
  exact distinct

/-- When a window starts, every target is at the start of its course. -/
theorem InHand.coursing {targets : List (Target σ)} {system : σ} (inHand : stage.InHand targets system)
    (calm : ∀ target ∈ targets, stage.Behaves target.subscriber ∧ stage.Sparing target.subscriber) :
    stage.Coursing status targets system [] (stage.ahead targets system) targets
      (stage.observe (.loading (Engine.lowestPosition targets) targets.length) system) := by
  -- The window has reported its start, which is in nobody's account.
  refine ⟨calm, rfl, ?_, by simp, [_], stage.journal_observe _ _, fun _ _ => rfl,
    fun row member next present same => ?_⟩
  · exact (stage.ascending system).sublist (List.filter_sublist.map Prod.fst)
  · obtain rfl := Rows.eq_of_id inHand.distinct present member same
    exact Course.start rfl

/-- Feeding without a limit takes every chosen subscription through the log, up to its first failure. -/
theorem Hosts.feed_courses (hosted : stage.Hosts engine) (caught : engine.config.catchPanics = true)
    (calm : ∀ subscriber ∈ engine.registry.subscribers, stage.Behaves subscriber ∧ stage.Sparing subscriber)
    {criteria : FeedCriteria} {idle : Notice} {change : Subscription → Action σ Subscription}
    {settled : Subscription → Subscription} {errors : List SubscriptionFailure} {system : σ}
    (fed : status = .booting ∨ status = .active) (quiet : idle.quiet = true) (settles : stage.Settles change settled)
    (named : ∀ row, (settled row).id = row.id) (distinct : (Rows.ids (stage.rows.read system)).Nodup) :
    Ends (engine.feed status none idle change errors (targetsIn engine criteria status (stage.rows.read system))
        (.clean (stage.rows.read system))) system
      fun _ after => stage.Coursed engine criteria status settled system after := by
  -- Without targets there is no window at all, so that case comes first.
  let targets := targetsIn engine criteria status (stage.rows.read system)
  by_cases nobody : targets = []
  · -- Where nobody is fed, nobody is chosen.
    show Ends (engine.feed status none idle change errors targets _) system _
    rw [nobody]
    refine Meets.of_run (hosted.feed_idle system) ⟨by simpa using distinct, by simp, [idle], by simp,
      fun row member => ?_⟩
    have unchosen : ¬ Chosen engine criteria status row := fun chosen => by
      have listed : row ∈ Target.all targets := mem_all_targetsIn.mpr ⟨member, chosen⟩
      simp [nobody, Target.all] at listed
    exact ⟨row, by simpa using member, rfl, fun chosen => absurd chosen unchosen,
      fun _ => ⟨rfl, account_quiet (by simpa using quiet) row.id⟩⟩
  · have inHand : stage.InHand targets system := inHand_targetsIn distinct
    have members : ∀ row ∈ Target.all targets, row ∈ stage.rows.read system ∧ Chosen engine criteria status row :=
      fun row member => mem_all_targetsIn.mp member
    have current : ∀ row ∈ Target.all targets, row.status = status := fun row member => (members row member).2.2.1
    refine Meets.mono (hosted.feed_meets (hosted.coursing_offers caught fed current inHand.distinct)
      coursing_saves settles named inHand nobody
      (inHand.coursing fun target member => calm _ (registered_of_targetsIn target member))) ?_
    intro report after ends
    obtain ⟨finished, -, distinctAfter, final, rest, middle, coursing, -, quietly, ids, agree, fields⟩ := ends
    obtain ⟨-, -, -, log, notices, journal, silent, courses⟩ := coursing
    obtain ⟨more, further, still⟩ := quietly.journal
    have done : report.finished = true := finished
    rw [if_pos done] at fields
    -- What is stored are the rows from before, with the settled targets in their places.
    have settledIds : Rows.ids (Target.all (final.map (settledTarget status settled))) =
        Rows.ids (Target.all targets) := (ids_settled named final).trans ids
    have stored := fields.trans (agree _ settledIds)
    refine ⟨distinctAfter, quietly.log.trans log, notices ++ more, by rw [further, journal, List.append_assoc],
      fun row member => ?_⟩
    obtain ⟨next, present, same⟩ := Rows.source stored.symm (List.mem_map.mpr ⟨row, member, rfl⟩)
    have id : next.id = row.id := (Subscription.id_of_unstamped same).trans (Rows.id_of_get? row)
    refine ⟨next, present, id, fun chosen => ?_, fun unchosen => ?_⟩
    · -- A chosen row is found at the end of its course, and its place is taken by the settled target.
      have listed : row ∈ Target.all targets := mem_all_targetsIn.mpr ⟨member, chosen⟩
      have among : row.id ∈ Rows.ids (Target.all final) := by rw [ids]; exact Rows.id_mem_ids listed
      obtain ⟨last, inFinal, sameId⟩ := List.mem_map.mp among
      obtain ⟨target, isFinal, rfl⟩ := List.mem_map.mp inFinal
      have course := courses row listed _ inFinal sameId
      have lowest : Engine.lowestPosition targets ≤ row.position := by
        obtain ⟨first, isTarget, rfl⟩ := List.mem_map.mp listed
        exact lowestPosition_le isTarget
      rw [← sameId, get?_settled named isFinal (ids ▸ inHand.distinct), Option.getD_some] at same
      exact ⟨_, (course.whole lowest).foreign (account_quiet still row.id), same⟩
    · -- Any other row has kept its place.
      have absent : row.id ∉ Rows.ids (Target.all targets) := by
        intro listed
        obtain ⟨other, isTarget, sameId⟩ := List.mem_map.mp listed
        obtain ⟨isStored, chosen⟩ := members other isTarget
        exact unchosen (Rows.eq_of_id distinct isStored member sameId ▸ chosen)
      rw [Rows.get?_of_not_mem (settledIds ▸ absent)] at same
      refine ⟨same, ?_⟩
      rw [account_append, silent row.id absent, account_quiet still]
      rfl

end Stage

end EventFeed
