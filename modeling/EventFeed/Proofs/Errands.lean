import EventFeed.Proofs.Deeds

/-! The phases before the feeding, report by report: each of them is a sequence of deeds, with the reasons of the
operation that it is part of. -/

namespace EventFeed

open EventFeed.Action
open Subscription (unstamped)

namespace Stage

variable {σ : Type} {stage : Stage σ} {engine : Engine σ} {operation : Operation} {first : Chronicle}
  {loaded : List Nat} {unit : WorkUnit} {drafts : List Subscription} {row next : Subscription} {before after : σ}

/-- What a step of a phase leaves: the draft of one row may be another one, and what was done to it is recorded. -/
structure Conveys (stage : Stage σ) (engine : Engine σ) (operation : Operation) (first : Chronicle)
    (loaded : List Nat) (drafts : List Subscription) (row : Subscription) (before : σ) (unit : WorkUnit)
    (after : σ) : Prop where
  draft : ∃ next, next.id = row.id ∧ stage.Keeps unit (Rows.put next drafts) after ∧
    stage.Recorded engine operation first loaded (Rows.put next drafts) after
  rows : stage.rows.read after = stage.rows.read before

/-- A step that leaves its row alone. -/
theorem conveys_of_left (member : row ∈ drafts) (keeps : stage.Keeps unit drafts before)
    (recorded : stage.Recorded engine operation first loaded drafts after)
    (rows : stage.rows.read after = stage.rows.read before) :
    stage.Conveys engine operation first loaded drafts row before unit after := by
  -- The row is put in its own place, which changes nothing.
  have own : Rows.put row drafts = drafts := Rows.put_of_mem (keeps.ids ▸ keeps.distinct) member
  exact ⟨⟨row, rfl, own.symm ▸ keeps.of_rows rows, own.symm ▸ recorded⟩, rows⟩

/-- A step that reports what it does to its row. -/
theorem conveys_of_done {notices : List Notice} (member : row ∈ drafts)
    (meant : operation.criteria.admits row.id row.group = true) (keeps : stage.Keeps unit drafts before)
    (recorded : stage.Recorded engine operation first loaded drafts before)
    (done : Deed engine operation (stage.log before) loaded notices row next)
    (rows : stage.rows.read after = stage.rows.read before) (log : stage.log after = stage.log before)
    (journal : stage.journal after = stage.journal before ++ notices) :
    stage.Conveys engine operation first loaded drafts row before (unit.update next) after := by
  -- The deed changes neither id nor stamp.
  obtain ⟨id, -, stamp⟩ := done.named
  exact ⟨⟨next, id, (keeps.update_draft member id stamp).of_rows rows,
    recorded.deed member meant done rows log journal⟩, rows⟩

/-- A phase finds the rows that are meant, does something to some of them, and stores that before anything
else is done. -/
theorem Hosts.phase_enters {α : Type} (hosted : stage.Hosts engine) {criteria : SubscriptionCriteria}
    {step : WorkUnit → Subscription → Action σ WorkUnit} {next : Nat × WorkUnit → Action σ α}
    {ok : α → σ → Prop}
    (steps : ∀ unit row drafts between, row ∈ drafts → criteria.admits row = true →
      stage.Keeps unit drafts between → stage.Recorded engine operation first loaded drafts between →
      Ends (step unit row) between (stage.Conveys engine operation first loaded drafts row between))
    (entered : stage.Entered engine operation first loaded before)
    (rest : ∀ count after, stage.Entered engine operation first loaded after →
      Ends (next (count, .clean (stage.rows.read after))) after ok) :
    Ends (do
      let (found, unit) ← (WorkUnit.clean (stage.rows.read before)).find engine.store criteria
      let unit ← found.foldlM step unit
      let flushed ← unit.flush engine.store
      next flushed) before ok := by
  -- Every step changes at most one draft, and the rows stay until the flush.
  apply Meets.run_bind (hosted.find_run entered.distinct criteria)
  refine (pass_meets id (fun _ drafts between => stage.rows.read between = stage.rows.read before ∧
    stage.Recorded engine operation first loaded drafts between) entered.distinct
    (fun row next (named : next.id = row.id) => named) ?_ (keeps_clean entered.distinct)
    ⟨rfl, entered.recorded⟩).bind ?_
  · intro unit row drafts between _ member chosen keeps ends
    obtain ⟨rows, recorded⟩ := ends
    apply (steps unit row drafts between member chosen keeps recorded).mono
    intro unit after ends
    obtain ⟨⟨next, named, keeps, recorded⟩, same⟩ := ends
    exact ⟨next, named, keeps, same.trans rows, recorded⟩
  · -- At the end the drafts are written.
    intro unit middle ends
    obtain ⟨change, -, keeps, -, recorded⟩ := ends
    apply ((keeps.flush hosted).also (hosted.flush_spares unit middle)).bind
    intro result after ends
    obtain ⟨count, unit⟩ := result
    obtain ⟨⟨aside, rfl, distinct, fields, -⟩, spared⟩ := ends
    exact rest count after ⟨distinct, recorded.flushed aside fields fun row known stored =>
      spared row stored (keeps.spares known stored)⟩

/-- A failed subscription is left alone, or put back when its retry is approved. -/
theorem Hosts.retryOne_conveys (hosted : stage.Hosts engine) (member : row ∈ drafts)
    (meant : operation.criteria.admits row.id row.group = true) (status : row.status = .error)
    (keeps : stage.Keeps unit drafts before)
    (recorded : stage.Recorded engine operation first loaded drafts before) :
    Ends (engine.retryOne operation.retried unit row) before
      (stage.Conveys engine operation first loaded drafts row before) := by
  -- A subscription that failed elsewhere, is deferred or has nothing to go back to is left alone.
  unfold Engine.retryOne
  split
  · exact Meets.pure (conveys_of_left member keeps recorded rfl)
  · rename_i admitted
    apply Meets.get_bind
    split
    · exact hosted.note_meets (Meets.pure (conveys_of_left member keeps (recorded.observe rfl) (by simp)))
    · -- An approved subscription goes back to where it failed, if that is known.
      rename_i approved
      split
      · exact hosted.note_meets (Meets.pure (conveys_of_left member keeps (recorded.observe rfl) (by simp)))
      · rename_i next retried
        have reasons : ∀ error, row.error = some error → error.previous ∈ operation.retried := by
          intro error failed
          simpa [failed] using admitted
        obtain ⟨error, -, shape⟩ := Subscription.retry_ok retried
        have done : Deed engine operation (stage.log before) loaded
            [.retrying next.id next.status next.retryAttempt] row next := by
          have named : next.id = row.id := by rw [shape]
          exact named ▸ .retry status reasons ⟨before, by simpa using approved⟩ retried
        exact hosted.note_meets
          (Meets.pure (conveys_of_done member meant keeps recorded done (by simp) (by simp) (by simp)))

/-- A subscription is left alone when it has a subscriber, and outdated when it has none. -/
theorem Hosts.detachOne_conveys (hosted : stage.Hosts engine) (member : row ∈ drafts)
    (meant : operation.criteria.admits row.id row.group = true) (status : row.status ∈ operation.detached)
    (keeps : stage.Keeps unit drafts before)
    (recorded : stage.Recorded engine operation first loaded drafts before) :
    Ends (engine.detachOne unit row) before
      (stage.Conveys engine operation first loaded drafts row before) := by
  -- A row with a subscriber stays, and any other one is outdated by a deed.
  unfold Engine.detachOne
  split
  · exact Meets.pure (conveys_of_left member keeps recorded rfl)
  · rename_i gone
    exact hosted.note_meets (Meets.pure (conveys_of_done member meant keeps recorded
      (.detach status (by simpa using gone)) (by simp) (by simp) (by simp)))

/-- A subscription goes back to work when it has a subscriber, and is left alone when it has none. -/
theorem Hosts.reactivateOne_conveys (hosted : stage.Hosts engine) (member : row ∈ drafts)
    (asked : operation = .reactivate operation.criteria)
    (meant : operation.criteria.admits row.id row.group = true)
    (status : row.status ∈ [.error, .outdated, .paused, .finished]) (keeps : stage.Keeps unit drafts before)
    (recorded : stage.Recorded engine operation first loaded drafts before) :
    Ends (engine.reactivateOne unit row) before
      (stage.Conveys engine operation first loaded drafts row before) := by
  -- Either way the decision is reported.
  unfold Engine.reactivateOne
  split
  · rename_i known
    exact hosted.note_meets (Meets.pure (conveys_of_done member meant keeps recorded
      (.reactivate asked status known) (by simp) (by simp) (by simp)))
  · exact hosted.note_meets (Meets.pure (conveys_of_left member keeps (recorded.observe rfl) (by simp)))

/-- A subscription stops on request. -/
theorem Hosts.pauseOne_conveys (hosted : stage.Hosts engine) (member : row ∈ drafts)
    (asked : operation = .pause operation.criteria)
    (meant : operation.criteria.admits row.id row.group = true)
    (status : row.status ∈ [.new, .booting, .active, .error]) (keeps : stage.Keeps unit drafts before)
    (recorded : stage.Recorded engine operation first loaded drafts before) :
    Ends (engine.pauseOne unit row) before
      (stage.Conveys engine operation first loaded drafts row before) :=
  hosted.note_meets (Meets.pure (conveys_of_done member meant keeps recorded (.pause asked status)
    (by simp) (by simp) (by simp)))

/-- What a row has to be for a phase to find it. -/
theorem admitted_of_withStatuses {criteria : FeedCriteria} {statuses : List Status}
    (chosen : (criteria.withStatuses statuses).admits row = true) :
    criteria.admits row.id row.group = true ∧ row.status ∈ statuses := by
  -- The phase asks for a status in addition to what the criteria ask for.
  rw [FeedCriteria.admits_withStatuses] at chosen
  simpa using chosen

/-- The retry phase is a sequence of deeds. -/
theorem Hosts.retry_enters (hosted : stage.Hosts engine)
    (entered : stage.Entered engine operation first loaded before) :
    Ends (engine.retry operation.criteria operation.retried (.clean (stage.rows.read before))) before
      fun unit after => unit = .clean (stage.rows.read after) ∧
        stage.Entered engine operation first loaded after :=
  hosted.phase_enters (fun unit row drafts between member chosen keeps recorded => by
    obtain ⟨meant, status⟩ := admitted_of_withStatuses chosen
    exact hosted.retryOne_conveys member meant (by simpa using status) keeps recorded) entered
    fun count after entered => Meets.pure ⟨rfl, entered⟩

/-- The detachment phase is a sequence of deeds. -/
theorem Hosts.markDetached_enters (hosted : stage.Hosts engine)
    (entered : stage.Entered engine operation first loaded before) :
    Ends (engine.markDetached operation.criteria operation.detached (.clean (stage.rows.read before))) before
      fun unit after => unit = .clean (stage.rows.read after) ∧
        stage.Entered engine operation first loaded after :=
  hosted.phase_enters (fun unit row drafts between member chosen keeps recorded => by
    obtain ⟨meant, status⟩ := admitted_of_withStatuses chosen
    exact hosted.detachOne_conveys member meant status keeps recorded) entered
    fun count after entered => Meets.pure ⟨rfl, entered⟩

/-- Discovery adds rows, and stores them before anything else is done. -/
theorem Hosts.discover_enters (hosted : stage.Hosts engine) {criteria : FeedCriteria}
    (entered : stage.Entered engine operation first loaded before) :
    Ends (engine.discover criteria {}) before fun unit after => unit = .clean (stage.rows.read after) ∧
      stage.Entered engine operation first loaded after := by
  -- What was added is written at the end.
  obtain ⟨distinct, recorded⟩ := entered
  apply Meets.run_bind (hosted.find_all_run distinct)
  apply (hosted.collect_ends distinct).bind
  intro result middle ends
  obtain ⟨tracked⟩ := result
  obtain ⟨fresh, discovering⟩ := ends
  have apart := discovering.apart distinct
  obtain ⟨shape, isFresh, single, -, rows, log, -, notices, journal, absent, reported⟩ := discovering
  simp only at shape
  subst shape
  apply ((((keeps_clean distinct).of_rows rows).flush_added hosted apart).also
    (hosted.flush_spares _ middle)).bind
  intro result after ends
  obtain ⟨count, unit⟩ := result
  obtain ⟨⟨aside, rfl, stored, fields, -⟩, spared⟩ := ends
  -- The rows are enrolled in one step, which is the reports of discovery.
  have new : ∀ row ∈ fresh, row = { id := row.id, group := row.group, runMode := row.runMode } ∧
      .discovered row.id row.group ∈ notices := by
    intro row member
    refine ⟨?_, reported row member⟩
    obtain ⟨subscriber, -, -, -, rfl⟩ := isFresh row member
    rfl
  have enrolled : stage.Recorded engine operation first loaded (stage.rows.read before ++ fresh) middle := by
    have step := Chronicle.Leads.step recorded (.enroll absent new single)
    simpa [Recorded, chronicle, journal, log, rows] using step
  exact Meets.pure ⟨rfl, stored, enrolled.flushed aside fields fun row _ member =>
    spared row member (WorkUnit.spares_added apart (rows ▸ member))⟩

/-- A subscription that has been set up starts at the end of the log, or starts to catch up. -/
theorem Hosts.start_conveys (hosted : stage.Hosts engine) {state : Engine.SetupState}
    {subscriber : Subscriber σ} {middle : σ} (member : row ∈ drafts) (asked : operation.fed = some .booting)
    (meant : operation.criteria.admits row.id row.group = true) (status : row.status = .new)
    (found : engine.registry.get? row.id = some subscriber) (keeps : stage.Keeps state.unit drafts before)
    (latest : ∀ index, state.latest = some index → index = 0 ∨ index ∈ stage.indices before)
    (recorded : stage.Recorded engine operation first loaded drafts before)
    (rows : stage.rows.read middle = stage.rows.read before) (log : stage.log middle = stage.log before)
    (journal : stage.journal middle = stage.journal before ++ subscriber.setupReports row.id) :
    Ends (engine.start state row) middle fun next after =>
      stage.Conveys engine operation first loaded drafts row before next.unit after ∧
        ∀ index, next.latest = some index → index = 0 ∨ index ∈ stage.indices after := by
  -- The mode decides where the row starts.
  unfold Engine.start
  split
  · -- The end of the log is looked up now, or was looked up before in a log that has only grown.
    rename_i mode
    apply Meets.bind (hosted.latestOnce_ends latest (by rw [log]; exact newest_mem))
    intro index after ends
    obtain ⟨rfl, present⟩ := ends
    refine hosted.note_meets (Meets.pure ⟨conveys_of_done member meant keeps recorded
      (.startNow asked status found mode present) (by simpa using rows) (by simpa using log) (by simp [journal]), ?_⟩)
    intro other same
    cases same
    simpa [indices, log] using present
  · -- Any other one starts to catch up.
    rename_i mode
    refine hosted.note_meets (Meets.pure ⟨conveys_of_done member meant keeps recorded
      (.boot asked status found mode) (by simpa using rows) (by simpa using log) (by simp [journal]), ?_⟩)
    simpa [indices, log] using latest

/-- A subscription is set up with the hook of its subscriber, if there is one. -/
theorem Hosts.setupOne_conveys (hosted : stage.Hosts engine)
    (behaves : ∀ subscriber ∈ engine.registry.subscribers, stage.Behaves subscriber)
    {state : Engine.SetupState} (member : row ∈ drafts) (asked : operation.fed = some .booting)
    (meant : operation.criteria.admits row.id row.group = true) (status : row.status = .new)
    (keeps : stage.Keeps state.unit drafts before)
    (latest : ∀ index, state.latest = some index → index = 0 ∨ index ∈ stage.indices before)
    (recorded : stage.Recorded engine operation first loaded drafts before) :
    Meets (engine.setupOne state row) before (fun next after =>
      stage.Conveys engine operation first loaded drafts row before next.unit after ∧
        ∀ index, next.latest = some index → index = 0 ∨ index ∈ stage.indices after)
      (stage.Severed engine operation first) := by
  -- Whether there is a subscriber with a hook decides what is done.
  unfold Engine.setupOne
  split
  · -- Without a subscriber nothing happens.
    exact Meets.pure ⟨conveys_of_left member keeps recorded rfl, latest⟩
  · rename_i subscriber found
    split
    · -- A subscriber without a hook starts at once.
      rename_i none
      exact (hosted.start_conveys member asked meant status found keeps latest recorded rfl rfl
        (by simp [Subscriber.setupReports, none])).meets
    · rename_i hook declared
      have discreet := (behaves subscriber (List.mem_of_find?_eq_some found)).setup hook declared
      -- The hook may append messages, and what was known of the log stays true.
      refine ((call_meets discreet before).weaken (fun _ _ moved => moved) fun _ _ early =>
        ⟨early.1, loaded, drafts, recorded.onward early.2⟩).bind fun result middle moved => ?_
      have later : ∀ index, state.latest = some index → index = 0 ∨ index ∈ stage.indices middle :=
        fun index same => (latest index same).imp id fun present => (moved.log.map Prod.fst).subset present
      have kept := keeps.of_rows moved.rows
      cases result with
      | error error =>
        -- The hook has failed, and so has the subscription.
        apply Meets.run_bind (hosted.fail_run row error middle)
        obtain ⟨draft, rows⟩ := conveys_of_done member meant kept (recorded.onward moved)
          (.failSetup asked status found (by simp [declared]) (.ofHandler error))
          (stage.read_observe _ _) (stage.log_observe _ _) (stage.journal_observe _ _)
        exact Meets.pure ⟨⟨draft, rows.trans moved.rows⟩, by simpa [indices] using later⟩
      | ok _ =>
        -- The hook is done, and the subscription starts.
        refine hosted.note_meets (Ends.meets ?_)
        refine (hosted.start_conveys member asked meant status found kept later (recorded.onward moved)
          (by simp) (by simp) (by simp [Subscriber.setupReports, declared])).mono ?_
        intro next after ends
        obtain ⟨⟨draft, rows⟩, latest⟩ := ends
        exact ⟨⟨draft, rows.trans moved.rows⟩, latest⟩

/-- The setup phase is a sequence of deeds. -/
theorem Hosts.setupNew_enters (hosted : stage.Hosts engine)
    (behaves : ∀ subscriber ∈ engine.registry.subscribers, stage.Behaves subscriber)
    (asked : operation.fed = some .booting) (entered : stage.Entered engine operation first loaded before) :
    Meets (engine.setupNew operation.criteria (.clean (stage.rows.read before))) before
      (fun result after => result.2 = .clean (stage.rows.read after) ∧
        stage.Entered engine operation first loaded after) (stage.Severed engine operation first) := by
  obtain ⟨distinct, recorded⟩ := entered
  -- The rows stay until the flush.
  apply Meets.run_bind (hosted.find_run distinct _)
  refine (pass_meets Engine.SetupState.unit (fun state drafts between =>
    (∀ index, state.latest = some index → index = 0 ∨ index ∈ stage.indices between) ∧
    stage.rows.read between = stage.rows.read before ∧
    stage.Recorded engine operation first loaded drafts between) distinct
    (fun row next (named : next.id = row.id) => named) ?_ (keeps_clean distinct)
    ⟨by simp, rfl, recorded⟩).bind ?_
  · intro state row drafts between _ member chosen keeps ends
    obtain ⟨latest, rows, recorded⟩ := ends
    obtain ⟨meant, status⟩ := admitted_of_withStatuses chosen
    refine (hosted.setupOne_conveys behaves member asked meant (by simpa using status) keeps latest
      recorded).mono ?_
    intro state after ends
    obtain ⟨⟨⟨next, named, keeps, recorded⟩, same⟩, latest⟩ := ends
    exact ⟨next, named, keeps, latest, same.trans rows, recorded⟩
  · -- At the end all rows that were set up are written.
    intro state middle ends
    obtain ⟨change, -, keeps, -, -, recorded⟩ := ends
    refine Ends.meets (Meets.bind ((keeps.flush hosted).also (hosted.flush_spares _ middle)) ?_)
    intro result after ends
    obtain ⟨count, unit⟩ := result
    obtain ⟨⟨aside, rfl, distinct, fields, -⟩, spared⟩ := ends
    exact Meets.pure ⟨rfl, distinct, recorded.flushed aside fields fun row known stored =>
      spared row stored (keeps.spares known stored)⟩

end Stage

end EventFeed
