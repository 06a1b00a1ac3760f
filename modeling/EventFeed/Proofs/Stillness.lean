import EventFeed.Proofs.CatchUp
import EventFeed.Proofs.Headway
import EventFeed.Proofs.Windows

/-! Stillness: after a boot or a run to the end of the log, asking for the same again does nothing but report. -/

namespace EventFeed

open EventFeed.Action

variable {σ : Type}

namespace WorkUnit

/-- Keeping back a row as it is stored changes nothing. -/
theorem update_clean {rows : List Subscription} (distinct : (Rows.ids rows).Nodup) {row : Subscription}
    (member : row ∈ rows) : (clean rows).update row = clean rows := by
  -- The unit is searched for the id, and what is kept back there is the same row.
  have located : (clean rows).rows.map (fun tracked => tracked.current.id) = Rows.ids rows := by
    simp [clean, Rows.ids, Function.comp_def]
  rw [update, upsert_of_mem (located ▸ distinct) (located ▸ Rows.id_mem_ids member)]
  -- Only the row itself has its id, and it keeps its stamp.
  have fixed : ∀ tracked ∈ (clean rows).rows, (if tracked.current.id = row.id then { tracked with
      current := { row with lastSavedAt := tracked.current.lastSavedAt.or row.lastSavedAt } } else tracked) =
      tracked := by
    intro tracked present
    obtain ⟨other, stored, rfl⟩ := List.mem_map.mp present
    by_cases same : other.id = row.id
    · rw [Rows.eq_of_id distinct stored member same]
      simp
    · simp [same]
  rw [List.map_congr_left fixed, List.map_id']

/-- Keeping back targets as they are stored changes nothing. -/
theorem updateAll_clean {rows : List Subscription} (distinct : (Rows.ids rows).Nodup) {targets : List (Target σ)}
    (stored : ∀ target ∈ targets, target.subscription ∈ rows) :
    Engine.updateAll targets (clean rows) = clean rows := by
  -- The induction is on the targets, each of which leaves the unit as it is.
  induction targets with
  | nil => rfl
  | cons target rest ih =>
    have first := update_clean distinct (stored target (by simp))
    simp only [Engine.updateAll, List.foldl_cons, first]
    exact ih fun other member => stored other (by simp [member])

end WorkUnit

namespace Stage

variable {stage : Stage σ} {engine : Engine σ} {criteria : FeedCriteria}

/-- Targets that are past all messages, and that the end of the log does not change, are not written. -/
theorem Hosts.feed_rests (hosted : stage.Hosts engine) {rows : List Subscription} (distinct : (Rows.ids rows).Nodup)
    {system : σ} {status : Status} {idle : Notice} (quiet : restful idle = true)
    {change : Subscription → Action σ Subscription}
    (through : ∀ row ∈ rows, Chosen engine criteria status row → (∀ entry ∈ stage.log system, entry.1 ≤ row.position) ∧
      change row = pure row) :
    stage.Rests (engine.feed status none idle change [] (targetsIn engine criteria status rows) (.clean rows))
      { processed := 0, finished := true, errors := [] } system := by
  -- Nothing is loaded, so only the end of the log is left to do, which changes nobody.
  have chosen : ∀ target ∈ targetsIn engine criteria status rows, target.subscription ∈ rows ∧
      Chosen engine criteria status target.subscription := fun target member =>
    mem_all_targetsIn.mp (List.mem_map_of_mem member)
  unfold Engine.feed
  split
  · exact (hosted.note_rests quiet _).bind fun _ => .of_run rfl
  rename_i somebody
  -- No message is above the lowest position, which is the position of a target.
  have nothing : stage.ahead (targetsIn engine criteria status rows) system = [] := by
    have fed : targetsIn engine criteria status rows ≠ [] := by simpa using somebody
    obtain ⟨target, member, lowest⟩ := lowestPosition_mem fed
    obtain ⟨present, isChosen⟩ := chosen target member
    apply List.filter_eq_nil_iff.mpr
    intro entry listed
    have within := (through _ present isChosen).1 entry listed
    rw [lowest] at within
    simpa using within
  have read : stage.Rests (engine.process status none
      { unit := .clean rows, targets := targetsIn engine criteria status rows, errors := [] })
      { unit := .clean rows, targets := targetsIn engine criteria status rows, errors := [], finished := true }
      system := by
    apply (hosted.note_rests rfl _).bind
    intro notices
    have loaded := hosted.load_run (Engine.lowestPosition (targetsIn engine criteria status rows))
      (stage.reported notices system)
    have empty : stage.above (Engine.lowestPosition (targetsIn engine criteria status rows))
        (stage.reported notices system) = [] := by simpa [above, ahead] using nothing
    rw [empty] at loaded
    exact (Rests.of_run loaded).bind fun _ => .of_run rfl
  apply read.bind
  intro notices
  -- The targets stay as they are, and so there is nothing to be written.
  have settled : ∀ between, stage.Rests (Engine.settleTargets status change (targetsIn engine criteria status rows))
      (targetsIn engine criteria status rows) between := by
    refine rests_mapM _ fun target member between => ?_
    obtain ⟨present, isChosen⟩ := chosen target member
    rw [if_pos isChosen.2.1, (through _ present isChosen).2]
    exact .of_run rfl
  have kept := WorkUnit.updateAll_clean distinct fun target member => (chosen target member).1
  have written : ∀ between, stage.Rests (engine.persist (.clean rows) (targetsIn engine criteria status rows))
      (.clean rows) between := by
    intro between
    apply Rests.of_run
    simp [Engine.persist, kept, bind, EStateM.bind, WorkUnit.flush_clean, pure, EStateM.pure]
  simp only [if_true]
  exact (settled _).bind fun _ => (written _).bind fun _ => .of_run rfl

/-- Rows that leave nothing to do for a run: everybody who is meant has a row, nobody has lost a subscriber, and whoever
is active is past all messages, is not to be finished, and has no retries to forget. -/
structure KeptUp (engine : Engine σ) (criteria : FeedCriteria) (log : List (Nat × Message)) (rows : List Subscription) :
    Prop where
  discovered : ∀ subscriber ∈ engine.registry.subscribers, criteria.admits subscriber.id subscriber.group = true →
    subscriber.id ∈ Rows.ids rows
  attached : ∀ row ∈ rows, criteria.admits row.id row.group = true → row.status ∈ [.active, .paused, .error] →
    engine.registry.knows row.id = true
  through : ∀ row ∈ rows, Chosen engine criteria .active row →
    (∀ entry ∈ log, entry.1 ≤ row.position) ∧ row.runMode ≠ .once ∧ row.retryAttempt = 0

/-- Rows that leave nothing to do for a boot: nobody is new or catching up any more. -/
structure CaughtUp (engine : Engine σ) (criteria : FeedCriteria) (rows : List Subscription) : Prop where
  discovered : ∀ subscriber ∈ engine.registry.subscribers, criteria.admits subscriber.id subscriber.group = true →
    subscriber.id ∈ Rows.ids rows
  arrived : ∀ row ∈ rows, criteria.admits row.id row.group = true → row.status ∉ [.new, .booting]

/-- Where all are kept up, a run only reports. -/
theorem Hosts.run_rests (hosted : stage.Hosts engine) (never : Unforgiving engine) {system : σ}
    (distinct : (Rows.ids (stage.rows.read system)).Nodup)
    (keptUp : KeptUp engine criteria (stage.log system) (stage.rows.read system)) :
    stage.Rests (engine.run criteria none) { processed := 0, finished := true, errors := [] } system := by
  -- None of the phases finds anything to do.
  obtain ⟨discovered, attached, through⟩ := keptUp
  unfold Engine.run
  rw [hosted.guarded_eq]
  -- The phases follow one another on the same rows.
  apply (hosted.discover_rests distinct rfl discovered).bind
  intro _
  apply (hosted.retry_rests distinct (by simp) never _).bind
  intro _
  apply (hosted.markDetached_rests distinct (by simp) attached).bind
  intro _
  apply (hosted.targets_rests distinct (by simp) .active).bind
  intro _
  refine hosted.feed_rests distinct rfl fun row member chosen => ?_
  obtain ⟨past, mode, fresh⟩ := through row member chosen
  refine ⟨by simpa using past, ?_⟩
  -- An active subscription without retries is as it would be afterwards.
  have same : row.resetRetryAttempt = row := by
    rw [Subscription.resetRetryAttempt, ← fresh]
  rw [Engine.keptUp, if_neg mode, same]

/-- Where all are caught up, a boot only reports. -/
theorem Hosts.boot_rests (hosted : stage.Hosts engine) (never : Unforgiving engine) {system : σ}
    (distinct : (Rows.ids (stage.rows.read system)).Nodup)
    (caughtUp : CaughtUp engine criteria (stage.rows.read system)) :
    stage.Rests (engine.boot criteria none) { processed := 0, finished := true, errors := [] } system := by
  -- None of the phases finds anything to do.
  obtain ⟨discovered, arrived⟩ := caughtUp
  have settled : Settled engine criteria (stage.rows.read system) :=
    ⟨discovered, fun row member meant early => absurd early (arrived row member meant),
      fun row member meant new => arrived row member meant (by simp [new])⟩
  rw [Engine.boot_eq, hosted.guarded_eq]
  apply (hosted.prepare_rests never distinct settled).bind
  intro _
  apply (hosted.targets_rests distinct (by simp) .booting).bind
  intro _
  -- Nobody is catching up, so nobody is fed.
  exact hosted.feed_rests distinct rfl fun row member chosen =>
    absurd (by simp [chosen.2.1]) (arrived row member chosen.1)

/-- Feeding neither adds nor removes a row. -/
theorem Fed.ids_eq {status : Status} {limit : Option Nat} {settled : Subscription → Subscription} {keeps : Invariant σ}
    {targets : List (Target σ)} {before after : σ} {report : FeedReport}
    (fed : stage.Fed status limit settled keeps targets before report after) :
    Rows.ids (stage.rows.read after) = Rows.ids (stage.rows.read before) := by
  obtain ⟨final, rest, middle, -, -, -, ids, agree, fields⟩ := fed.ends
  -- What is put in places has the ids of the places, before the end of the log as after it.
  have later := Rows.ids_of_unstamped fields
  have earlier := Rows.ids_of_unstamped (agree (Target.all final) ids)
  rw [knownRows, Rows.ids_overlay] at later
  rw [Rows.ids_overlay, Rows.ids_overlay] at earlier
  exact later.trans earlier

/-- What feeding without a limit leaves: each row comes from an old one, which has taken its course through the log if
it was chosen, and has stayed as it was otherwise. -/
structure Through (stage : Stage σ) (engine : Engine σ) (criteria : FeedCriteria) (status : Status)
    (settled : Subscription → Subscription) (before after : σ) : Prop where
  log : stage.log after = stage.log before
  ids : Rows.ids (stage.rows.read after) = Rows.ids (stage.rows.read before)
  sources : ∀ next ∈ stage.rows.read after, ∃ row ∈ stage.rows.read before, next.id = row.id ∧
    (Chosen engine criteria status row → ∃ notices last, Course status (stage.log before) notices row last ∧
      next.unstamped = (if last.status = status then settled last else last).unstamped) ∧
    (¬ Chosen engine criteria status row → next.unstamped = row.unstamped)

/-- Feeding without a limit takes every chosen subscription through the log, and neither adds nor removes a row. -/
theorem Hosts.feed_through (hosted : stage.Hosts engine) (caught : engine.config.catchPanics = true)
    (calm : ∀ subscriber ∈ engine.registry.subscribers, stage.Behaves subscriber ∧ stage.Sparing subscriber)
    {status : Status} {idle : Notice} {change : Subscription → Action σ Subscription}
    {settled : Subscription → Subscription} {errors : List SubscriptionFailure} {system : σ}
    (fed : status = .booting ∨ status = .active) (quiet : idle.quiet = true) (settles : stage.Settles change settled)
    (named : ∀ row, (settled row).id = row.id) (distinct : (Rows.ids (stage.rows.read system)).Nodup) :
    Ends (engine.feed status none idle change errors (targetsIn engine criteria status (stage.rows.read system))
        (.clean (stage.rows.read system))) system
      fun _ after => stage.Through engine criteria status settled system after := by
  -- That no row is added or removed is shown beside the courses of the targets.
  let targets := targetsIn engine criteria status (stage.rows.read system)
  have same : Ends (engine.feed status none idle change errors targets (.clean (stage.rows.read system))) system
      fun _ after => Rows.ids (stage.rows.read after) = Rows.ids (stage.rows.read system) := by
    by_cases nobody : targets = []
    · rw [nobody]
      exact Meets.of_run (hosted.feed_idle system) (by rw [stage.read_observe])
    · have inHand : stage.InHand targets system := inHand_targetsIn distinct
      have current : ∀ row ∈ Target.all targets, row.status = status :=
        fun row member => (mem_all_targetsIn.mp member).2.2.1
      exact Meets.mono (hosted.feed_meets (hosted.coursing_offers caught fed current inHand.distinct) coursing_saves
        settles named inHand nobody
        (inHand.coursing fun target member => calm _ (registered_of_targetsIn target member))) fun _ _ fed => fed.ids_eq
  refine Meets.mono (Ends.also (hosted.feed_courses caught calm fed quiet settles named distinct) same)
    fun _ after ends => ?_
  obtain ⟨⟨distinctAfter, log, notices, -, courses⟩, ids⟩ := ends
  refine ⟨log, ids, fun next member => ?_⟩
  -- The old row of the same id has come to this one, since there is only one of that id.
  obtain ⟨row, present, named⟩ := List.mem_map.mp (ids ▸ Rows.id_mem_ids member)
  obtain ⟨other, stored, own, takes, stays⟩ := courses row present
  obtain rfl := Rows.eq_of_id distinctAfter stored member (own.trans named)
  refine ⟨row, present, own, fun chosen => ?_, fun unchosen => (stays unchosen).1⟩
  obtain ⟨last, course, ends⟩ := takes chosen
  exact ⟨notices, last, course, ends⟩

/-- After a run to the end of the log, all are kept up. -/
theorem Through.all_kept {before after : σ} (through : stage.Through engine criteria .active keptUp before after)
    (discovered : ∀ subscriber ∈ engine.registry.subscribers, criteria.admits subscriber.id subscriber.group = true →
      subscriber.id ∈ Rows.ids (stage.rows.read before))
    (attached : ∀ row ∈ stage.rows.read before, criteria.admits row.id row.group = true →
      row.status ∈ [.active, .paused, .error] → engine.registry.knows row.id = true) :
    KeptUp engine criteria (stage.log after) (stage.rows.read after) := by
  -- Each row is followed back to the one that it was before the run.
  obtain ⟨log, ids, sources⟩ := through
  refine ⟨by rwa [ids], fun next member meant current => ?_, fun next member chosen => ?_⟩
  · -- Whoever was fed has a subscriber, and everybody else is as before.
    obtain ⟨row, present, named, -, stays⟩ := sources next member
    by_cases chosen : Chosen engine criteria .active row
    · exact named ▸ chosen.2.2
    · have alike := Subscription.alike_of_unstamped (stays chosen)
      rw [alike.id, alike.group] at meant
      rw [named]
      exact attached row present meant (alike.status ▸ current)
  · obtain ⟨row, present, named, takes, stays⟩ := sources next member
    by_cases was : Chosen engine criteria .active row
    · -- Whoever is still active has come to the end of the log, and was not finished there.
      obtain ⟨notices, last, course, ends⟩ := takes was
      have running : last.status = .active := by
        by_contra stopped
        rw [if_neg stopped] at ends
        exact stopped ((Subscription.alike_of_unstamped ends).status.symm.trans chosen.2.1)
      rw [if_pos running] at ends
      have alike := Subscription.alike_of_unstamped ends
      have lasts : last.runMode ≠ .once := by
        intro once
        rw [keptUp, if_pos once] at alike
        exact Status.noConfusion (alike.status.symm.trans chosen.2.1)
      rw [keptUp, if_neg lasts] at alike
      refine ⟨fun entry listed => ?_, alike.runMode ▸ lasts, alike.retryAttempt⟩
      cases course with
      | running told =>
        have reached : next.position = max row.position (newest (stage.log before)) := alike.position
        rw [log] at listed
        rw [reached]
        exact Nat.le_trans (le_newest listed) (Nat.le_max_right _ _)
      | stopped => exact Status.noConfusion running
    · -- Nobody else is active, is meant and has a subscriber.
      have alike := Subscription.alike_of_unstamped (stays was)
      refine absurd ⟨?_, ?_, ?_⟩ was
      · rw [← alike.id, ← alike.group]
        exact chosen.1
      · exact alike.status.symm.trans chosen.2.1
      · exact alike.id ▸ chosen.2.2

/-- After a boot to the end of the log, all are caught up. -/
theorem Through.all_caught {before after : σ} (through : stage.Through engine criteria .booting caughtUp before after)
    (settled : Settled engine criteria (stage.rows.read before)) :
    CaughtUp engine criteria (stage.rows.read after) := by
  -- Each row is followed back to the one that it was before the boot.
  obtain ⟨log, ids, sources⟩ := through
  refine ⟨by rw [ids]; exact settled.discovered, fun next member meant early => ?_⟩
  obtain ⟨row, present, named, takes, stays⟩ := sources next member
  by_cases chosen : Chosen engine criteria .booting row
  · -- Whoever was fed has failed, or is done with catching up.
    obtain ⟨notices, last, course, ends⟩ := takes chosen
    cases course with
    | running told =>
      have running : ({ row with position := max row.position (newest (stage.log before)) } : Subscription).status =
          .booting := chosen.2.1
      rw [if_pos running] at ends
      have status := (Subscription.alike_of_unstamped ends).status
      unfold caughtUp at status
      split at status <;> simp [status, Subscription.finished, Subscription.active, Subscription.settle] at early
    | stopped =>
      rw [if_neg (by simp [Subscription.fail])] at ends
      have status := (Subscription.alike_of_unstamped ends).status
      simp [status, Subscription.fail] at early
  · -- Everybody else was neither new nor, with a subscriber, catching up before.
    have alike := Subscription.alike_of_unstamped (stays chosen)
    rw [alike.id, alike.group] at meant
    rw [alike.status] at early
    have known := settled.attached row present meant early
    simp only [List.mem_cons, List.not_mem_nil, or_false] at early
    rcases early with new | booting
    · exact settled.started row present meant new
    · exact chosen ⟨meant, booting, known⟩

/-- What comes before the feeding of a run leaves a row for everybody who is meant, and a subscriber for every row that
could be detached; the log stays. -/
theorem Hosts.muster_readies (hosted : stage.Hosts engine) (never : Unforgiving engine) {system : σ}
    (distinct : (Rows.ids (stage.rows.read system)).Nodup) :
    Ends (engine.muster criteria) system fun unit after => unit = .clean (stage.rows.read after) ∧
      (Rows.ids (stage.rows.read after)).Nodup ∧ stage.log after = stage.log system ∧
      (∀ subscriber ∈ engine.registry.subscribers, criteria.admits subscriber.id subscriber.group = true →
        subscriber.id ∈ Rows.ids (stage.rows.read after)) ∧
      ∀ row ∈ stage.rows.read after, criteria.admits row.id row.group = true →
        row.status ∈ [.active, .paused, .error] → engine.registry.knows row.id = true := by
  -- Each phase leaves a clean unit of work, from which the next one starts.
  apply Meets.bind (hosted.discover_ends distinct (.refl _))
  intro unit one discovered
  obtain rfl := discovered.clean
  apply Meets.bind (hosted.retry_ends discovered.distinct discovered.follows)
  intro unit two retried
  obtain rfl := retried.unit
  apply Meets.mono (hosted.markDetached_ends (by simp) retried.distinct retried.follows)
  intro unit three marked
  refine ⟨marked.unit, marked.distinct, ?_, ?_, marked.attached (by simp)⟩
  · rw [marked.quietly.log, retried.quietly.log, discovered.log]
  · -- The rows that discovery has left are still there.
    obtain ⟨change, edited, fields, -⟩ := marked.rows
    rw [edited_ids edited fields, retried.unretried never]
    exact discovered.complete

section Calls

variable (hosted : stage.Hosts engine) (caught : engine.config.catchPanics = true) (never : Unforgiving engine)
  (behaves : ∀ subscriber ∈ engine.registry.subscribers, stage.Behaves subscriber)
  (resting : ∀ subscriber ∈ engine.registry.subscribers, stage.Resting subscriber) {system : σ}
  (distinct : (Rows.ids (stage.rows.read system)).Nodup)

include hosted caught never behaves resting distinct

/-- A run to the end of the log keeps all up. -/
theorem Hosts.run_keeps_up : Ends (engine.run criteria none) system fun _ after =>
    (Rows.ids (stage.rows.read after)).Nodup ∧
      KeptUp engine criteria (stage.log after) (stage.rows.read after) := by
  -- The phases before the messages make the rows ready, and the feeding takes them through the log.
  have calm : ∀ subscriber ∈ engine.registry.subscribers, stage.Behaves subscriber ∧ stage.Sparing subscriber :=
    fun subscriber present => ⟨behaves subscriber present, (resting subscriber present).handlers⟩
  rw [Engine.run_eq, hosted.guarded_eq]
  apply (hosted.muster_readies never distinct).bind
  intro unit one ends
  obtain ⟨rfl, distinct, -, discovered, attached⟩ := ends
  apply Meets.run_bind (hosted.targets_run distinct)
  apply (hosted.feed_through caught calm (Or.inr rfl) rfl hosted.keptUp_settles keptUp_id distinct).mono
  exact fun _ after through => ⟨through.ids ▸ distinct, through.all_kept discovered attached⟩

/-- A boot to the end of the log catches all up. -/
theorem Hosts.boot_catches_up : Ends (engine.boot criteria none) system fun _ after =>
    (Rows.ids (stage.rows.read after)).Nodup ∧ CaughtUp engine criteria (stage.rows.read after) := by
  -- The phases before the messages make the rows ready, and the feeding takes them through the log.
  have calm : ∀ subscriber ∈ engine.registry.subscribers, stage.Behaves subscriber ∧ stage.Sparing subscriber :=
    fun subscriber present => ⟨behaves subscriber present, (resting subscriber present).handlers⟩
  rw [Engine.boot_eq, hosted.guarded_eq]
  apply (hosted.prepare_ends caught never behaves resting distinct).bind
  intro result one ends
  obtain ⟨errors, unit⟩ := result
  obtain ⟨rfl, distinct, -, settled⟩ := ends
  apply Meets.run_bind (hosted.targets_run distinct)
  apply (hosted.feed_through caught calm (Or.inl rfl) rfl hosted.caughtUp_settles caughtUp_id distinct).mono
  exact fun _ after through => ⟨through.ids ▸ distinct, through.all_caught settled⟩

end Calls

/-- A call that found nothing to do: it has done nothing but report so. -/
structure Still (stage : Stage σ) (before after : σ) : Prop where
  rows : stage.rows.read after = stage.rows.read before
  log : stage.log after = stage.log before
  calls : stage.calls after = stage.calls before
  reports : ∃ notices, after = stage.reported notices before ∧ ∀ notice ∈ notices, restful notice = true

/-- A computation that rests returns, and leaves everything but the journal as it is. -/
theorem Rests.still {α : Type} {action : Action σ α} {value : α} {system : σ}
    (rests : stage.Rests action value system) : ∃ last, action system = .ok value last ∧ stage.Still system last := by
  -- Reports touch neither the rows nor the log nor the calls.
  obtain ⟨notices, run, idle⟩ := rests
  exact ⟨_, run, by simp, by simp, by simp, notices, rfl, idle⟩

/-- Where panics are caught, no retry is approved and no hook or handler appends anything, a run to the end of the log
leaves nothing to do for a second one, and so does a boot: wherever the rows and the log are as it left them, whatever
the time is, the second one returns an empty report, calls nobody and writes nothing. -/
theorem History.stays_still {first system : σ} (history : stage.History first system)
    (empty : stage.rows.read first = []) (hosted : stage.Hosts engine) (caught : engine.config.catchPanics = true)
    (never : Unforgiving engine)
    (behaves : ∀ subscriber ∈ engine.registry.subscribers, stage.Behaves subscriber)
    (resting : ∀ subscriber ∈ engine.registry.subscribers, stage.Resting subscriber) (criteria : FeedCriteria) :
    Ends (engine.run criteria none) system (fun _ after => ∀ later, stage.rows.read later = stage.rows.read after →
      stage.log later = stage.log after → ∃ last, engine.run criteria none later =
        .ok { processed := 0, finished := true, errors := [] } last ∧ stage.Still later last) ∧
    Ends (engine.boot criteria none) system fun _ after => ∀ later, stage.rows.read later = stage.rows.read after →
      stage.log later = stage.log after → ∃ last, engine.boot criteria none later =
        .ok { processed := 0, finished := true, errors := [] } last ∧ stage.Still later last := by
  have distinct : (Rows.ids (stage.rows.read system)).Nodup := (history.wellFormed empty).2
  constructor
  · apply (hosted.run_keeps_up caught never behaves resting distinct).mono
    intro report after ends later rows log
    obtain ⟨distinct, keptUp⟩ := ends
    rw [← rows] at distinct
    rw [← rows, ← log] at keptUp
    exact (hosted.run_rests never distinct keptUp).still
  · apply (hosted.boot_catches_up caught never behaves resting distinct).mono
    intro report after ends later rows log
    obtain ⟨distinct, caughtUp⟩ := ends
    rw [← rows] at distinct caughtUp
    exact (hosted.boot_rests never distinct caughtUp).still

end Stage

namespace World

/-- The world after a boot of the ensemble, with the clock set forward. -/
def aged : World := { (((feeder ensemble .never).boot {} none).outcome torn).2 with clock := ⟨⟨99⟩⟩ }

/-- After a second boot at that time, all rows have the stamps of the first one; what follows on an operation that broke
off leaves nothing to do for a second run or boot. -/
theorem torn_stays_still :
    (stage.rows.read (((feeder ensemble .never).boot {} none).outcome aged).2).map
        (fun row => (row.id, row.status, row.lastSavedAt)) =
      [("steady", .outdated, some .epoch), ("brittle", .error, some .epoch), ("clumsy", .error, some .epoch),
        ("latecomer", .active, some .epoch), ("single", .finished, some .epoch)] ∧
      Ends ((feeder ensemble .never).run {} none) torn (fun _ after => ∀ later,
        stage.rows.read later = stage.rows.read after → stage.log later = stage.log after →
        ∃ last, (feeder ensemble .never).run {} none later =
          .ok { processed := 0, finished := true, errors := [] } last ∧ stage.Still later last) ∧
      Ends ((feeder ensemble .never).boot {} none) torn fun _ after => ∀ later,
        stage.rows.read later = stage.rows.read after → stage.log later = stage.log after →
        ∃ last, (feeder ensemble .never).boot {} none later =
          .ok { processed := 0, finished := true, errors := [] } last ∧ stage.Still later last :=
  ⟨by decide +kernel, Stage.History.stays_still mended_history.1 rfl (hosts ..) rfl (fun _ _ => rfl)
    ensemble_behaves.1 ensemble_behaves.2 {}⟩

end World

end EventFeed
