import EventFeed.Proofs.CatchUp
import EventFeed.Proofs.SetupFirst

/-! Transitions: which subscriptions an operation changes, in which status they are when they are handed a message, and
that what is reported of statuses agrees with what is stored. -/

namespace EventFeed

open EventFeed.Action
open Subscription (unstamped)

/-- The subscription whose status a report tells, with the status that it has from then on, unless it is deleted. -/
def Notice.status? : Notice → Option (String × Option Status)
  | discovered id _ => some (id, some .new)
  | retrying id status _ | reactivated id _ status => some (id, some status)
  | detached id _ => some (id, some .outdated)
  | booting id => some (id, some .booting)
  | activeFromNow id _ | active id _ => some (id, some .active)
  | failed id .. => some (id, some .error)
  | finished id _ => some (id, some .finished)
  | paused id => some (id, some .paused)
  | removed id _ => some (id, none)
  | _ => none

/-- A report that goes with no change tells no status. -/
theorem Notice.status?_of_idle {notice : Notice} (idle : notice.idle = true) : notice.status? = none := by
  cases notice <;> first | rfl | cases idle

/-- What a report makes of the status of an id. -/
def Notice.takes (id : String) (status : Option Status) (notice : Notice) : Option Status :=
  match notice.status? with
  | some (own, next) => if own = id then next else status
  | none => status

/-- The status that an id has after some reports, from the one that it had before them. -/
def statusAfter (id : String) (before : Option Status) (notices : List Notice) : Option Status :=
  notices.foldl (Notice.takes id) before

/-- The status of the stored subscription of an id. -/
def statusIn (rows : List Subscription) (id : String) : Option Status := (Rows.get? rows id).map Subscription.status

section Reports

variable {id : String} {before : Option Status} {front back notices : List Notice}

@[simp] theorem statusAfter_append :
    statusAfter id before (front ++ back) = statusAfter id (statusAfter id before front) back :=
  List.foldl_append

/-- Reports of the statuses of other subscriptions make no difference. -/
theorem statusAfter_of_others (others : ∀ notice ∈ notices, ∀ next, notice.status? ≠ some (id, next)) :
    statusAfter id before notices = before := by
  -- The induction is on the reports, none of which tells about the subscription.
  induction notices generalizing before with
  | nil => rfl
  | cons notice rest ih =>
    have stays : notice.takes id before = before := by
      unfold Notice.takes
      split
      · rename_i own next tells
        exact if_neg fun same => others notice (by simp) next (by rw [tells, same])
      · rfl
    rw [statusAfter, List.foldl_cons, stays]
    exact ih fun other member => others other (by simp [member])

/-- Among discoveries, that of an id makes it new. -/
theorem statusAfter_of_discovered (reports : ∀ notice ∈ notices, ∃ own group, notice = .discovered own group)
    (found : ∃ group, .discovered id group ∈ notices) : statusAfter id before notices = some .new := by
  -- The induction is on the reports, of which the last one with the id counts.
  induction notices generalizing before with
  | nil => simp at found
  | cons notice rest ih =>
    have further : ∀ notice ∈ rest, ∃ own group, notice = .discovered own group :=
      fun other present => reports other (by simp [present])
    by_cases later : ∃ group, .discovered id group ∈ rest
    · exact ih further later
    · -- This is the last discovery of the id.
      obtain ⟨group, member⟩ := found
      obtain rfl : .discovered id group = notice :=
        (List.mem_cons.mp member).resolve_right fun present => later ⟨group, present⟩
      have none : statusAfter id (some .new) rest = some .new := by
        refine statusAfter_of_others fun other present next tells => ?_
        obtain ⟨own, group, rfl⟩ := further other present
        cases tells
        exact later ⟨group, present⟩
      simpa [statusAfter, Notice.takes, Notice.status?] using none

end Reports

variable {σ : Type} {engine : Engine σ} {operation : Operation} {log : List (Nat × Message)} {loaded : List Nat}
  {journal notices : List Notice} {row next : Subscription}

namespace Deed

/-- The reports of a deed tell the status that its subscription has after it. -/
theorem statusAfter_own (done : Deed engine operation log loaded notices row next) :
    statusAfter row.id (some row.status) notices = some next.status := by
  -- The deeds are gone through, each with its own reports.
  cases done with
  | boot | startNow =>
    -- The report of the setup tells no status.
    simp only [Subscriber.setupReports]
    split <;> simp [statusAfter, Notice.takes, Notice.status?] <;> rfl
  | _ => simp [statusAfter, Notice.takes, Notice.status?] <;> rfl

/-- They tell nothing of the statuses of other subscriptions. -/
theorem statusAfter_other (done : Deed engine operation log loaded notices row next) {id : String} (other : row.id ≠ id)
    (before : Option Status) : statusAfter id before notices = before := by
  -- All reports of a deed carry the id of its row.
  refine statusAfter_of_others fun notice member status tells => ?_
  cases done <;>
    simp only [List.mem_append, Subscriber.mem_setupReports, List.mem_cons, List.not_mem_nil, or_false] at member <;>
    rcases member with ⟨-, rfl⟩ | rfl | rfl <;> simp_all [Notice.status?]

end Deed

/-- Which subscriptions an operation may change, and what a run may make of one that is paused. -/
def Operation.Alters (engine : Engine σ) (row next : Subscription) : Operation → Prop
  | boot .. => row.status ∈ [.new, .booting] ∨
    row.status = .error ∧ ∃ error, row.error = some error ∧ error.previous ∈ [.new, .booting]
  | run .. => row.status ∈ [.active, .error] ∨
    row.status = .paused ∧ engine.registry.knows row.id = false ∧ next.unstamped = row.outdated.unstamped
  | pause _ => row.status ∈ [.new, .booting, .active, .error]
  | reactivate _ => row.status ∈ [.error, .outdated, .paused, .finished] ∧ engine.registry.knows row.id = true
  | teardown _ | remove _ | subscriptions _ => False

/-- Stamps make no difference to that. -/
theorem Operation.Alters.restamp {last : Subscription} (alters : operation.Alters engine row next)
    (same : last.unstamped = next.unstamped) : operation.Alters engine row last := by
  -- Only the change of a run speaks of the whole row.
  cases operation with
  | run => exact alters.imp_right fun gone => ⟨gone.1, gone.2.1, same.trans gone.2.2⟩
  | _ => exact alters

/-- A subscription that is finished or outdated is changed on request only. -/
theorem Operation.Alters.asked (alters : operation.Alters engine row next)
    (still : row.status = .finished ∨ row.status = .outdated) : operation = .reactivate operation.criteria := by
  -- The operations are gone through, and all others leave these two statuses alone.
  cases operation with
  | reactivate => rfl
  | _ => rcases still with status | status <;> simp [Operation.Alters, status] at alters

namespace Deed

/-- What is done to a subscription is allowed by the operation, if it changes anything. -/
theorem alters (done : Deed engine operation log loaded notices row next) :
    next = row ∨ operation.Alters engine row next := by
  -- For each deed the operations that do it are gone through.
  cases done with
  | breakOff => exact Or.inl rfl
  | retry status admitted approved retried =>
    obtain ⟨error, failure, -⟩ := Subscription.retry_ok retried
    have known := admitted error failure
    cases operation with
    | boot => exact Or.inr (Or.inr ⟨status, error, failure, known⟩)
    | run => exact Or.inr (Or.inl (by simp [status]))
    | _ => cases known
  | detach status gone =>
    cases operation with
    | boot => exact Or.inr (Or.inl status)
    | run =>
      simp only [Operation.detached, List.mem_cons, List.not_mem_nil, or_false] at status
      rcases status with active | paused | error
      · exact Or.inr (Or.inl (by simp [active]))
      · exact Or.inr (Or.inr ⟨paused, gone, rfl⟩)
      · exact Or.inr (Or.inl (by simp [error]))
    | _ => cases status
  | pause asked status => exact Or.inr (by rw [asked]; exact status)
  | reactivate asked status known => exact Or.inr (by rw [asked]; exact ⟨status, known⟩)
  | boot fed status | startNow fed status | failSetup fed status =>
    -- Only a boot sets up.
    cases operation <;> cases fed
    exact Or.inr (Or.inl (by simp [status]))
  | handle fed | failHandle fed | finish fed =>
    cases operation with
    | boot =>
      have status : row.status = .booting := (Option.some.inj fed).symm
      exact Or.inr (Or.inl (by simp [status]))
    | run =>
      have status : row.status = .active := (Option.some.inj fed).symm
      exact Or.inr (Or.inl (by simp [status]))
    | _ => cases fed
  | activate fed status | recover fed status =>
    cases operation <;> cases fed
    exact Or.inr (Or.inl (by simp [status]))

/-- What was changed before is still allowed to have changed after one more deed. -/
theorem alters_again {first : Subscription} (done : Deed engine operation log loaded notices row next)
    (alters : operation.Alters engine first row) : operation.Alters engine first next := by
  -- The operations are gone through; only that of a run says more than what the row was.
  cases operation with
  | run criteria limit =>
    refine alters.imp_right fun gone => ?_
    -- Nothing is done in a run to a subscription that is outdated.
    have outdated : row.status = .outdated := (Subscription.alike_of_unstamped gone.2.2).status
    have idle : ∀ {status : Status}, (Operation.run criteria limit).fed = some status → row.status ≠ status := by
      intro status fed
      cases fed
      simp [outdated]
    cases done with
    | retry status | detach status => simp [outdated, Operation.detached] at status
    | pause asked | reactivate asked => cases asked
    | boot fed | startNow fed | failSetup fed | activate fed => cases fed
    | handle fed | failHandle fed | breakOff fed | finish fed => exact absurd rfl (idle fed)
    | recover fed status => simp [outdated] at status
  | _ => exact alters

end Deed

namespace Chronicle

/-- Where a row that was stored at first has got to: it is as it was, with its stamp, or the operation may change it. -/
structure Licit (engine : Engine σ) (operation : Operation) (row : Subscription) (chronicle : Chronicle) : Prop where
  orderly : chronicle.ledger.Orderly
  listed : row.id ∈ Rows.ids chronicle.known
  known : ∀ next ∈ chronicle.known, next.id = row.id →
    next = row ∧ row ∈ chronicle.stored ∨ operation.Alters engine row next
  stored : ∀ next ∈ chronicle.stored, next.id = row.id → next = row ∨ operation.Alters engine row next

variable {first one two : Chronicle}

/-- A row is where it was while its id is stored and known once. -/
theorem licit_start (orderly : first.ledger.Orderly) (same : first.known = first.stored) (member : row ∈ first.stored) :
    Licit engine operation row first := by
  -- Nothing has happened yet, and one row has the id.
  have own : ∀ next ∈ first.stored, next.id = row.id → next = row := fun next present named =>
    Rows.eq_of_id orderly.stored present member named
  refine ⟨orderly, ?_, fun next present named => ?_, fun next present named => Or.inl (own next present named)⟩
  · rw [same]
    exact Rows.id_mem_ids member
  · rw [same] at present
    exact Or.inl ⟨own next present named, member⟩

/-- Every small step of an operation that deletes nothing changes only what the operation may change. -/
theorem Licit.step (licit : Licit engine operation row one) (deletes : operation ≠ .remove operation.criteria)
    (step : Step engine operation one two) : Licit engine operation row two := by
  -- Of the kinds of steps only a deed on the row itself can change more than its stamp.
  have orderly : two.ledger.Orderly := licit.orderly.turns (step.follows (.refl one.ledger)).turns
  cases step.bears row.id with
  | aside notices further quiet listed known stored read spared =>
    -- The row is spared while it is as it was, and what has changed may get another stamp.
    have stays : ∀ old ∈ one.known, ∀ next, old.unstamped = next.unstamped → next.id = row.id →
        (row ∈ two.stored ∧ row ∈ two.known) ∨ operation.Alters engine row next := by
      intro old present next same named
      rcases licit.known old present ((Subscription.id_of_unstamped same).trans named) with ⟨rfl, kept⟩ | alters
      · exact Or.inl (spared old present kept rfl)
      · exact Or.inr (alters.restamp same.symm)
    refine ⟨orderly, listed.mpr licit.listed, fun next present named => ?_, fun next present named => ?_⟩
    · obtain ⟨old, was, same⟩ := known next present named
      exact (stays old was next same named).imp_left fun kept =>
        ⟨Rows.eq_of_id orderly.known present kept.2 named, kept.1⟩
    · rcases stored next present named with before | ⟨old, was, same⟩
      · exact licit.stored next before named
      · exact (stays old was next same named).imp_left fun kept =>
          Rows.eq_of_id orderly.stored present kept.1 named
  | found notices fresh absent => exact absurd licit.listed absent
  | own notices old next same member meant done shape =>
    subst shape
    refine ⟨orderly, by simpa using licit.listed, fun other present named => ?_, licit.stored⟩
    rcases Rows.mem_put present with rfl | ⟨-, different⟩
    · -- What is done goes on from the row as it was, or from what it has become.
      rcases licit.known old member same with ⟨rfl, kept⟩ | alters
      · exact done.alters.imp_left fun still => ⟨still, kept⟩
      · exact Or.inr (done.alters_again alters)
    · exact absurd (named.trans (same.symm.trans done.named.1.symm)) different
  | removed old same asked => exact absurd asked deletes

/-- What is told of statuses since some rows were stored: it agrees with what is known, and messages are handed over
only to subscriptions that are in the status that is fed. -/
structure Told (operation : Operation) (before : List Subscription) (notices : List Notice) (chronicle : Chronicle) :
    Prop where
  known : ∀ row ∈ chronicle.known, statusAfter row.id (statusIn before row.id) notices = some row.status
  handed : ∀ id, Foregoing id (fun front => ∃ status, operation.fed = some status ∧
    statusAfter id (statusIn before id) front = some status) notices

/-- Before anything is reported, the statuses are those of the stored rows. -/
theorem told_start (distinct : (Rows.ids first.known).Nodup) : Told operation first.known [] first := by
  -- There is no report to look at.
  refine ⟨fun row member => ?_, fun id front index eventType back shape => by simp at shape⟩
  simp [statusAfter, statusIn, Rows.get?_of_mem distinct member]

/-- Every small step of an operation tells what becomes of statuses. -/
theorem Told.step {before : List Subscription} (told : Told operation before journal one)
    (step : Step engine operation one two) :
    ∃ notices, two.journal = one.journal ++ notices ∧ Told operation before (journal ++ notices) two := by
  obtain ⟨known, handed⟩ := told
  -- Reports that tell neither a status nor a message leave everything as it is told.
  have quiet : ∀ notice : Notice, notice.status? = none →
      (∀ id index eventType, notice ≠ .dispatching id index eventType) →
      Told operation before (journal ++ [notice]) { one with journal := one.journal ++ [notice] } := by
    intro notice none undispatched
    refine ⟨fun row member => ?_, fun id => (handed id).append_of_none fun index eventType => ?_⟩
    · rw [statusAfter_append, statusAfter_of_others (by simp [none])]
      exact known row member
    · simpa using (undispatched id index eventType).symm
  cases step with
  | @remark notice idle =>
    refine ⟨[notice], rfl, quiet notice (Notice.status?_of_idle idle) fun id index eventType same => ?_⟩
    simp [same, Notice.idle] at idle
  | load start targets =>
    have loads := quiet (.loading start targets) rfl (by simp)
    exact ⟨_, rfl, loads.known, loads.handed⟩
  | grow => exact ⟨[], by simp, by simpa using known, by simpa using handed⟩
  | @enroll notices fresh reports new =>
    refine ⟨notices, rfl, fun row member => ?_, fun id =>
      (handed id).append_of_none fun index eventType dispatched => ?_⟩
    · rw [statusAfter_append]
      rcases List.mem_append.mp member with old | added
      · -- Nobody who is known is found.
        rw [statusAfter_of_others fun notice present next tells => ?_]
        · exact known row old
        · obtain ⟨id, group, rfl, absent⟩ := reports notice present
          cases tells
          exact absent (Rows.id_mem_ids old)
      · obtain ⟨shape, reported⟩ := new row added
        rw [statusAfter_of_discovered (fun notice present => ?_) ⟨row.group, reported⟩, shape]
        obtain ⟨id, group, shape, -⟩ := reports notice present
        exact ⟨id, group, shape⟩
    · obtain ⟨_, _, shape, -⟩ := reports _ dispatched
      cases shape
  | @deed notices row next member meant done =>
    refine ⟨notices, rfl, fun other present => ?_, fun id =>
      (handed id).append fun front index eventType back shape => ?_⟩
    · rw [statusAfter_append]
      rcases Rows.mem_put present with rfl | ⟨old, different⟩
      · rw [done.named.1, known row member]
        exact done.statusAfter_own
      · rw [done.statusAfter_other fun same => different (same.symm.trans done.named.1.symm)]
        exact known other old
    · -- A message is handed over first of all, to a subscription in the status that is fed.
      have dispatched : .dispatching id index eventType ∈ notices := by simp [shape]
      obtain ⟨rfl, fed, -, -, rest, first, single⟩ := done.dispatching dispatched
      cases front with
      | nil => exact ⟨row.status, fed, by simpa using known row member⟩
      | cons notice front =>
        rw [first] at shape
        exact absurd (by simp [(List.cons.inj shape).2]) (single row.id index eventType)
  | save written same =>
    refine ⟨[], by simp, fun row member => ?_, by simpa using handed⟩
    obtain ⟨old, present, stamped⟩ := Rows.source same member
    have alike := Subscription.alike_of_unstamped stamped
    rw [List.append_nil, ← alike.id, ← alike.status]
    exact known old present
  | @remove row asked member =>
    refine ⟨_, rfl, fun other present => ?_, fun id => (handed id).append_of_none (by simp)⟩
    obtain ⟨old, different⟩ := List.mem_filter.mp present
    rw [statusAfter_append, statusAfter_of_others]
    · exact known other old
    · have apart : row.id ≠ other.id := fun same => by simp [same] at different
      simpa [Notice.status?] using fun same : row.id = other.id => absurd same apart

end Chronicle

namespace Stage

variable {stage : Stage σ} {first : Chronicle} {system : σ}

/-- A farewell leaves the rows as they are, whether it returns or not. -/
theorem Hosts.farewell_leaves (hosted : stage.Hosts engine)
    (behaves : ∀ subscriber ∈ engine.registry.subscribers, stage.Behaves subscriber) (row : Subscription) :
    Meets (engine.farewell row) system (fun _ after => stage.rows.read after = stage.rows.read system)
      (fun abort after => Panics engine abort ∧ stage.rows.read after = stage.rows.read system) := by
  -- Only a declared hook is called, and it has to leave the rows alone.
  unfold Engine.farewell
  split
  · exact Meets.pure rfl
  rename_i hook declared
  obtain ⟨subscriber, known, declares⟩ := Option.bind_eq_some_iff.mp declared
  have discreet := (behaves subscriber (List.mem_of_find?_eq_some known)).teardown hook declares
  refine ((call_meets discreet system).weaken (fun _ _ moved => moved.rows) fun _ _ early =>
    ⟨early.1, early.2.rows⟩).bind fun result middle same => ?_
  cases result with
  | ok _ => exact Meets.pure same
  | error error =>
    have reported : Ends (engine.teardownFailure row error) middle
        fun _ after => stage.rows.read after = stage.rows.read system := hosted.note_meets (Meets.pure (by simp [same]))
    exact Meets.bind reported.meets fun failure after rows => Meets.pure rows

/-- What is recorded of an operation that deletes nothing leaves a stored row as it was, or changes it as the operation
may. -/
theorem Recorded.licit {known : List Subscription} {after : σ}
    (distinct : (Rows.ids (stage.rows.read system)).Nodup)
    (recorded : stage.Recorded engine operation (stage.chronicle [] (stage.rows.read system) system) loaded known after)
    (deletes : operation ≠ .remove operation.criteria) (member : row ∈ stage.rows.read system) :
    Chronicle.Licit engine operation row (stage.chronicle loaded known after) :=
  recorded.keeps (fun licit step => licit.step deletes step)
    (Chronicle.licit_start (orderly_outside distinct) rfl member)

/-- Deleting one subscription leaves fewer rows, whether its farewell returns or not. -/
theorem Hosts.removeOne_leaves (hosted : stage.Hosts engine)
    (behaves : ∀ subscriber ∈ engine.registry.subscribers, stage.Behaves subscriber)
    (state : List SubscriptionFailure × WorkUnit) (row : Subscription) :
    Meets (engine.removeOne state row) system
      (fun _ after => ∀ next ∈ stage.rows.read after, next ∈ stage.rows.read system)
      (fun abort after => Panics engine abort ∧ ∀ next ∈ stage.rows.read after, next ∈ stage.rows.read system) := by
  -- The farewell leaves the rows, and the deletion takes one of them.
  refine ((hosted.farewell_leaves behaves row).weaken (fun _ _ same => same) fun abort after early =>
    ⟨early.1, fun next present => early.2 ▸ present⟩).bind fun failures middle same => ?_
  refine Meets.run_bind (hosted.remove_run state.2 row middle) (hosted.note_meets (Meets.pure fun next present => ?_))
  rw [stage.read_observe, stage.read_write] at present
  exact same ▸ (List.mem_filter.mp present).1

/-- Removing subscriptions changes none of those that are left. -/
theorem Hosts.remove_leaves (hosted : stage.Hosts engine)
    (behaves : ∀ subscriber ∈ engine.registry.subscribers, stage.Behaves subscriber) {criteria : FeedCriteria}
    (distinct : (Rows.ids (stage.rows.read system)).Nodup) (member : row ∈ stage.rows.read system) :
    Meets (engine.remove criteria) system (fun _ after => ∀ next ∈ stage.rows.read after, next.id = row.id → next = row)
      (fun abort after => Panics engine abort ∧ ∀ next ∈ stage.rows.read after, next.id = row.id → next = row) := by
  apply hosted.guarded_meets
  -- Discovery is the same as where subscriptions are only looked at.
  have entered : stage.Entered engine (.subscriptions criteria)
      (stage.chronicle [] (stage.rows.read system) system) [] system := ⟨distinct, .refl⟩
  apply Meets.bind (hosted.discover_enters entered).meets
  intro unit middle ends
  obtain ⟨rfl, entered⟩ := ends
  have untouched : ∀ next ∈ stage.rows.read middle, next.id = row.id → next = row := fun next present named =>
    ((entered.recorded.licit distinct (by simp) member).stored next present named).resolve_right id
  -- After that rows are deleted only.
  apply Meets.run_bind (hosted.find_run entered.distinct _)
  refine Meets.bind (Meets.foldlM (fun _ _ between => ∀ next ∈ stage.rows.read between, next.id = row.id → next = row)
    (fun state other rest between fewer => ?_) _ _ _ untouched) fun result after fewer => Meets.pure fewer
  refine (hosted.removeOne_leaves behaves state other).weaken ?_ ?_
  · exact fun state after kept next present => fewer next (kept next present)
  · exact fun abort after early => ⟨early.1, fun next present => fewer next (early.2 next present)⟩

/-- Neither does the whole operation. -/
theorem Hosts.perform_remove_leaves (hosted : stage.Hosts engine)
    (behaves : ∀ subscriber ∈ engine.registry.subscribers, stage.Behaves subscriber) {criteria : FeedCriteria}
    (distinct : (Rows.ids (stage.rows.read system)).Nodup) (member : row ∈ stage.rows.read system) :
    ∀ next ∈ stage.rows.read (((Operation.remove criteria).perform engine).outcome system).2, next.id = row.id →
      next = row := by
  -- What is left of the rows is a part of them, however it ends.
  have left : Meets ((Operation.remove criteria).perform engine) system
      (fun _ after => ∀ next ∈ stage.rows.read after, next.id = row.id → next = row)
      (fun _ after => ∀ next ∈ stage.rows.read after, next.id = row.id → next = row) :=
    Meets.bind ((hosted.remove_leaves behaves distinct member).weaken (fun _ _ left => left)
      fun _ _ early => early.2) fun _ _ left => Meets.pure left
  exact left.outcome

/-- What an operation has done to the stored subscriptions, and to whom it has handed messages. -/
structure Lawful (engine : Engine σ) (operation : Operation) (before after : List Subscription) (notices : List Notice) :
    Prop where
  /-- A row that was stored before is as it was, with its stamp, or the operation may change it. -/
  altered : ∀ row ∈ before, ∀ next ∈ after, next.id = row.id → next = row ∨ operation.Alters engine row next
  /-- A row that is finished or outdated is left as it is, unless it is reactivated or removed. -/
  settled : ∀ row ∈ before, row.status = .finished ∨ row.status = .outdated →
    row ∈ after ∨ operation = .reactivate operation.criteria ∨ operation = .remove operation.criteria
  /-- Whoever is handed a message is in the status that is fed. -/
  handed : ∀ id, Foregoing id (fun front => ∃ status, operation.fed = some status ∧
    statusAfter id (statusIn before id) front = some status) notices

/-- Whatever an engine is asked to do, and whether it returns or breaks off: it changes only the subscriptions that the
operation may change, and hands messages only to those that catch up in a boot or are active in a run. Where it returns,
the statuses that are stored are those that were told. -/
theorem Hosts.perform_lawful (hosted : stage.Hosts engine)
    (behaves : ∀ subscriber ∈ engine.registry.subscribers, stage.Behaves subscriber)
    (distinct : (Rows.ids (stage.rows.read system)).Nodup) (operation : Operation) :
    ∃ notices, stage.journal ((operation.perform engine).outcome system).2 = stage.journal system ++ notices ∧
      Lawful engine operation (stage.rows.read system)
        (stage.rows.read ((operation.perform engine).outcome system).2) notices ∧
      (((operation.perform engine).outcome system).1 = .ok () →
        ∀ row ∈ stage.rows.read ((operation.perform engine).outcome system).2,
          statusAfter row.id (statusIn (stage.rows.read system) row.id) notices = some row.status) := by
  -- What is done is recorded from the stored rows on.
  obtain ⟨loaded, known, recorded, same⟩ := hosted.perform_recorded behaves distinct operation
  obtain ⟨notices, journal, told⟩ := Chronicle.Leads.tells (fun told step => Chronicle.Told.step told step) recorded
    (Chronicle.told_start distinct)
  refine ⟨notices, journal, ⟨fun row member next present named => ?_, fun row member still => ?_, told.handed⟩,
    fun returned row stored => told.known row (same returned ▸ stored)⟩
  · by_cases deletes : operation = .remove operation.criteria
    · -- What is left after a removal has not been changed.
      rw [deletes] at present
      exact Or.inl ((hosted.perform_remove_leaves behaves distinct member) next present named)
    · exact (recorded.licit distinct deletes member).stored next present named
  · by_cases deletes : operation = .remove operation.criteria
    · exact Or.inr (Or.inr deletes)
    · -- The id is known still, and either as it was stored or because the row was reactivated.
      have licit := recorded.licit distinct deletes member
      obtain ⟨next, present, named⟩ := List.mem_map.mp licit.listed
      rcases licit.known next present named with ⟨-, kept⟩ | alters
      · exact Or.inl kept
      · exact Or.inr (Or.inl (alters.asked still))

end Stage

namespace World

/-- Subscriptions in many statuses, and a message that none of them has been handed. -/
def scattered : World :=
  (((Operation.boot {} none).perform (feeder ensemble .never)).outcome torn).2.append [plainMessage "c"]

/-- An engine that retries whatever failed, and has a subscriber for the active subscription only. -/
def selective : Engine World := feeder [reacting "latecomer" fun _ => .done] .always

/-- It changes what it may change in a run, and hands the message to the one subscription that is active. -/
theorem scattered_run_lawful :
    (stage.rows.read scattered).map (fun row => (row.id, row.status, row.position)) =
      [("steady", .outdated, 1), ("brittle", .error, 1), ("clumsy", .error, 0), ("latecomer", .active, 2),
        ("single", .finished, 2)] ∧
      (stage.rows.read (((Operation.run {} none).perform selective).outcome scattered).2).map
        (fun row => (row.id, row.status, row.position)) =
      [("steady", .outdated, 1), ("brittle", .booting, 1), ("clumsy", .new, 0), ("latecomer", .active, 3),
        ("single", .finished, 2)] ∧
      ∃ notices, stage.journal (((Operation.run {} none).perform selective).outcome scattered).2 =
          stage.journal scattered ++ notices ∧
        Stage.Lawful selective (.run {} none) (stage.rows.read scattered)
          (stage.rows.read (((Operation.run {} none).perform selective).outcome scattered).2) notices ∧
        ((((Operation.run {} none).perform selective).outcome scattered).1 = .ok () →
          ∀ row ∈ stage.rows.read (((Operation.run {} none).perform selective).outcome scattered).2,
            statusAfter row.id (statusIn (stage.rows.read scattered) row.id) notices = some row.status) := by
  -- The one subscriber of the engine is contained, so the general theorem applies.
  have hosted : stage.Hosts selective := hosts ..
  have behaves : ∀ subscriber ∈ selective.registry.subscribers, stage.Behaves subscriber := by
    intro subscriber member
    obtain rfl := List.mem_singleton.mp member
    exact (reacting_contained ..).behaves
  exact ⟨by decide +kernel, by decide +kernel, hosted.perform_lawful behaves (by decide +kernel) (.run {} none)⟩

end World

end EventFeed
