import EventFeed.Proofs.Courses

/-! Setting out: which rows there are when the feeding starts, and what their setup has made of them, told
from the reports. -/

namespace EventFeed

open EventFeed.Action
open Subscription (unstamped)

variable {σ : Type}

/-- What becomes of a subscription without a subscriber that is meant and in one of some statuses. -/
def detachedRow (engine : Engine σ) (criteria : FeedCriteria) (statuses : List Status) (row : Subscription) :
    Subscription :=
  if (criteria.withStatuses statuses).admits row ∧ engine.registry.knows row.id = false then row.outdated else row

/-- What the setup makes of a new subscription, with its account. -/
inductive SetOut (log : List (Nat × Message)) (row : Subscription) : List Notice → Subscription → Prop
  /-- Its setup hook fails. -/
  | failed (error : CapturedError) : SetOut log row [.failed row.id .new row.position error] (row.fail error)
  /-- It starts to catch up. -/
  | booting (mode : row.runMode ≠ .fromNow) : SetOut log row [] row.booting
  /-- It starts at the newest message. -/
  | fromNow (mode : row.runMode = .fromNow) : SetOut log row [] (row.changePosition (newest log)).active

namespace SetOut

variable {log : List (Nat × Message)} {row next : Subscription} {told : List Notice}

theorem id_eq (setOut : SetOut log row told next) : next.id = row.id := by cases setOut <;> rfl

/-- A subscription that has been set up is not new any more. -/
theorem started (setOut : SetOut log row told next) : next.status ≠ .new := by
  cases setOut <;> exact Status.noConfusion

end SetOut

/-- What has become of a stored row in the middle of the setup: nothing yet, or it was new and has been set up. -/
def Standing (log : List (Nat × Message)) (notices : List Notice) (row draft : Subscription) : Prop :=
  draft = row ∧ account row.id notices = [] ∨
    row.status = .new ∧ SetOut log row (account row.id notices) draft

namespace Standing

variable {log : List (Nat × Message)} {notices more : List Notice} {row draft : Subscription}

/-- Reports that are not in the account of a subscription change nothing. -/
theorem foreign (standing : Standing log notices row draft) (silent : account row.id more = []) :
    Standing log (notices ++ more) row draft := by
  -- The account grows by nothing.
  unfold Standing at standing ⊢
  rwa [account_append, silent, List.append_nil]

/-- While a draft is as it was, its account is empty. -/
theorem untouched (standing : Standing log notices row row) : account row.id notices = [] := by
  -- Else the row would be new, and set out at the same time.
  rcases standing with ⟨-, silent⟩ | ⟨new, setOut⟩
  · exact silent
  · exact absurd new setOut.started

end Standing

namespace Stage

variable {stage : Stage σ} {engine : Engine σ} {criteria : FeedCriteria}

theorem detachedRow_id {statuses : List Status} {row : Subscription} :
    (detachedRow engine criteria statuses row).id = row.id := by
  -- A detachment sets the status, if it does anything.
  unfold detachedRow
  split <;> rfl

/-- Whether a row is detached does not depend on its stamp. -/
theorem detachedRow_unstamped {statuses : List Status} {one two : Subscription} (same : one.unstamped = two.unstamped) :
    (detachedRow engine criteria statuses one).unstamped = (detachedRow engine criteria statuses two).unstamped := by
  -- The criteria and the change read the other fields only.
  rw [Subscription.eq_of_unstamped same]
  unfold detachedRow
  have admitted : (criteria.withStatuses statuses).admits { two with lastSavedAt := one.lastSavedAt } =
      (criteria.withStatuses statuses).admits two := rfl
  rw [admitted]
  split <;> rfl

/-- What there is before the setup, or before the feeding of a run: the stored rows and those of newly found
subscribers, and those that are meant and in some statuses are outdated where they have no subscriber. -/
structure Gathered (stage : Stage σ) (engine : Engine σ) (criteria : FeedCriteria) (statuses : List Status)
    (before after : σ) : Prop where
  log : stage.log after = stage.log before
  rows : ∃ notices fresh, stage.journal after = stage.journal before ++ notices ∧
    (∀ id, account id notices = []) ∧
    (∀ row ∈ fresh, Fresh engine criteria (Rows.ids (stage.rows.read before)) row) ∧
    (∀ subscriber ∈ engine.registry.subscribers, criteria.admits subscriber.id subscriber.group = true →
      subscriber.id ∈ Rows.ids (stage.rows.read before ++ fresh)) ∧
    ∀ row ∈ stage.rows.read before ++ fresh, ∃ next ∈ stage.rows.read after,
      next.unstamped = (detachedRow engine criteria statuses row).unstamped

/-- Where no retry is approved, discovery, the retry phase and the detachment phase gather the rows. -/
theorem Discovered.gathered (never : Unforgiving engine) {statuses failedIn : List Status}
    {meant : Subscription → Bool} {first : Ledger} {system one two three : σ} {unit middle last : WorkUnit}
    (discovered : stage.Discovered engine criteria first system unit one)
    (retried : stage.Revised meant (Retried engine failedIn) first one middle two)
    (marked : stage.Revised (criteria.withStatuses statuses).admits (Detached engine) first two last three) :
    stage.Gathered engine criteria statuses system three := by
  -- The three phases only report what is in no account, and only discovery and detachment write.
  have sameRows := retried.unretried never
  obtain ⟨-, -, log, -, -, complete, ⟨fresh, isFresh, fields, -⟩, notices, journal, reports⟩ := discovered
  obtain ⟨more, further, quiet⟩ := retried.quietly.journal
  obtain ⟨rest, lastly, still⟩ := marked.quietly.journal
  obtain ⟨change, edited, written, -⟩ := marked.rows
  rw [sameRows] at edited written
  refine ⟨marked.quietly.log.trans (retried.quietly.log.trans log), notices ++ (more ++ rest), fresh,
    by rw [lastly, further, journal]; simp, fun id => ?_, isFresh, fun subscriber present chosen => ?_,
    fun row member => ?_⟩
  · -- Neither the reports of discovery nor quiet ones are in an account.
    have found : account id notices = [] := by
      refine List.filter_eq_nil_iff.mpr fun notice member => ?_
      obtain ⟨other, group, rfl, -⟩ := reports notice member
      exact Bool.false_ne_true
    rw [account_append, account_append, found, account_quiet quiet, account_quiet still]
    rfl
  · rw [← Rows.ids_of_unstamped fields]
    exact complete subscriber present chosen
  · obtain ⟨found, isFound, same⟩ := Rows.source fields.symm member
    obtain ⟨next, present, equal⟩ := Rows.source written.symm (List.mem_map_of_mem isFound)
    refine ⟨next, present, equal.trans ?_⟩
    -- The detachment phase outdates those that are meant and unknown.
    have changed : change found = detachedRow engine criteria statuses found := by
      have edit := (edited found isFound).2
      unfold detachedRow
      by_cases chosen : (criteria.withStatuses statuses).admits found = true
      · rw [if_pos chosen, Detached] at edit
        cases known : engine.registry.knows found.id <;> simp [edit, chosen, known]
      · rw [if_neg chosen] at edit
        simp [edit, chosen]
    rw [changed]
    exact detachedRow_unstamped same

/-- What the setup of one row leaves, where nothing is appended. -/
structure SetsOut (stage : Stage σ) (drafts : List Subscription) (row : Subscription) (before : σ)
    (state : Engine.SetupState) (after : σ) : Prop where
  edit : ∃ next notices, stage.journal after = stage.journal before ++ notices ∧
    SetOut (stage.log before) row (account row.id notices) next ∧
    (∀ id, id ≠ row.id → account id notices = []) ∧ stage.Keeps state.unit (Rows.put next drafts) after
  latest : ∀ index, state.latest = some index → index = newest (stage.log before)
  log : stage.log after = stage.log before
  rows : stage.rows.read after = stage.rows.read before

/-- A row that has been set up starts at the newest message, or starts to catch up. -/
theorem Hosts.start_setsOut (hosted : stage.Hosts engine) {state : Engine.SetupState} {drafts : List Subscription}
    {row : Subscription} {system : σ} (member : row ∈ drafts) (keeps : stage.Keeps state.unit drafts system)
    (latest : ∀ index, state.latest = some index → index = newest (stage.log system)) :
    Ends (engine.start state row) system (stage.SetsOut drafts row system) := by
  -- The run mode decides between the two.
  unfold Engine.start
  split
  · rename_i mode
    -- The end of the log is looked up now, or was looked up before.
    apply Meets.bind (hosted.latestOnce_ends latest rfl)
    intro index after ends
    obtain ⟨rfl, rfl⟩ := ends
    have drafted : stage.Keeps (state.unit.update (row.changePosition (newest (stage.log after))).active)
        (Rows.put (row.changePosition (newest (stage.log after))).active drafts) after :=
      keeps.update_draft member rfl rfl
    refine hosted.note_meets (Meets.pure ⟨⟨_, [_], stage.journal_observe _ _, .fromNow mode, fun _ _ => rfl,
      drafted.of_rows (by simp)⟩, fun other same => ?_, by simp, by simp⟩)
    exact (Option.some.inj same).symm
  · rename_i mode
    have drafted : stage.Keeps (state.unit.update row.booting) (Rows.put row.booting drafts) system :=
      keeps.update_draft member rfl rfl
    exact hosted.note_meets (Meets.pure ⟨⟨_, [_], stage.journal_observe _ _, .booting mode, fun _ _ => rfl,
      drafted.of_rows (by simp)⟩, latest, by simp, by simp⟩)

/-- A new row is set up with the hook of its subscriber, if there is one. -/
theorem Hosts.setupOne_setsOut (hosted : stage.Hosts engine) (caught : engine.config.catchPanics = true)
    (behaves : ∀ subscriber ∈ engine.registry.subscribers, stage.Behaves subscriber)
    (resting : ∀ subscriber ∈ engine.registry.subscribers, stage.Resting subscriber)
    {state : Engine.SetupState} {drafts : List Subscription} {row : Subscription} {system : σ} (member : row ∈ drafts)
    (status : row.status = .new) (known : engine.registry.knows row.id = true)
    (keeps : stage.Keeps state.unit drafts system)
    (latest : ∀ index, state.latest = some index → index = newest (stage.log system)) :
    Ends (engine.setupOne state row) system (stage.SetsOut drafts row system) := by
  -- The hook comes first, if there is one, and what comes of it decides.
  obtain ⟨subscriber, found⟩ := Option.isSome_iff_exists.mp known
  have registered := List.mem_of_find?_eq_some found
  unfold Engine.setupOne
  simp only [found]
  split
  · -- A subscriber without a hook starts at once.
    exact hosted.start_setsOut member keeps latest
  · rename_i hook declared
    have moved := (behaves subscriber registered).setup hook declared system
    have still := (resting subscriber registered).setup hook declared system
    refine (ends_of_caught caught (call_leaves hook system)).bind fun result middle same => ?_
    rw [← same] at moved still
    cases result with
    | error error =>
      -- The hook has failed, and so has the subscription.
      apply Meets.run_bind (hosted.fail_run row error middle)
      have drafted : stage.Keeps (state.unit.update (row.fail (.ofHandler error)))
          (Rows.put (row.fail (.ofHandler error)) drafts) system := keeps.update_draft member rfl rfl
      refine Meets.pure ⟨⟨_, [.failed row.id row.status row.position (.ofHandler error)], ?_, ?_, fun id other => ?_,
        drafted.of_rows (by simpa using moved.rows)⟩, latest, by simpa using still, by simpa using moved.rows⟩
      · rw [stage.journal_observe, moved.journal]
      · simpa [account, Notice.concerns, status] using SetOut.failed (.ofHandler error)
      · simp [account, Notice.concerns, Ne.symm other]
    | ok _ =>
      -- The hook is done, and the subscription starts.
      apply hosted.note_meets
      refine (hosted.start_setsOut member (keeps.of_rows (by simpa using moved.rows))
        (by simpa [still] using latest)).mono ?_
      intro state after ends
      obtain ⟨⟨next, notices, journal, setOut, silent, kept⟩, latest, log, rows⟩ := ends
      refine ⟨⟨next, .setupDone row.id :: notices, ?_, ?_, silent, kept⟩, ?_, ?_, ?_⟩
      · rw [journal, stage.journal_observe, moved.journal, List.append_assoc]
        rfl
      · simpa [still, account, Notice.concerns] using setOut
      · simpa [still] using latest
      · simpa [still] using log
      · simpa [moved.rows] using rows

/-- What the setup phase leaves, where nothing is appended: every new row that is meant and has a subscriber has
been set up, and every other row is as it was. -/
structure Launched (stage : Stage σ) (engine : Engine σ) (criteria : FeedCriteria) (before : σ) (unit : WorkUnit)
    (after : σ) : Prop where
  clean : unit = .clean (stage.rows.read after)
  distinct : (Rows.ids (stage.rows.read after)).Nodup
  log : stage.log after = stage.log before
  rows : ∃ notices, stage.journal after = stage.journal before ++ notices ∧
    ∀ row ∈ stage.rows.read before, ∃ next ∈ stage.rows.read after, next.id = row.id ∧
      (Chosen engine criteria .new row → ∃ last, SetOut (stage.log before) row (account row.id notices) last ∧
        next.unstamped = last.unstamped) ∧
      (¬ Chosen engine criteria .new row → next.unstamped = row.unstamped ∧ account row.id notices = [])

/-- In the middle of the setup phase every draft is as it is stored, or has been set up. -/
structure Launching (stage : Stage σ) (before : σ) (state : Engine.SetupState) (drafts : List Subscription)
    (system : σ) : Prop where
  latest : ∀ index, state.latest = some index → index = newest (stage.log before)
  log : stage.log system = stage.log before
  rows : stage.rows.read system = stage.rows.read before
  standings : ∃ notices, stage.journal system = stage.journal before ++ notices ∧
    ∀ row ∈ stage.rows.read before, ∀ draft ∈ drafts, draft.id = row.id →
      Standing (stage.log before) notices row draft

/-- At the start of the setup phase every draft is as it is stored. -/
theorem launching_start {system : σ} (distinct : (Rows.ids (stage.rows.read system)).Nodup) :
    stage.Launching system { unit := .clean (stage.rows.read system) } (stage.rows.read system) system := by
  -- Nothing is reported yet, and every draft is a stored row.
  refine ⟨by simp, rfl, rfl, [], by simp, fun row member draft present same => ?_⟩
  obtain rfl := Rows.eq_of_id distinct present member same
  exact Or.inl ⟨rfl, rfl⟩

/-- One more draft is set up. -/
theorem Launching.next {before between after : σ} {state further : Engine.SetupState} {drafts : List Subscription}
    {row : Subscription} (distinct : (Rows.ids (stage.rows.read before)).Nodup)
    (launching : stage.Launching before state drafts between) (stored : row ∈ stage.rows.read before)
    (member : row ∈ drafts) (new : row.status = .new) (setsOut : stage.SetsOut drafts row between further after) :
    ∃ next, next.id = row.id ∧ next.status ≠ .new ∧ stage.Keeps further.unit (Rows.put next drafts) after ∧
      stage.Launching before further (Rows.put next drafts) after := by
  -- The reports of this setup are in the account of one row only.
  obtain ⟨latest, log, rows, notices, journal, standings⟩ := launching
  obtain ⟨⟨next, more, extended, setOut, foreign, kept⟩, latestAfter, logAfter, rowsAfter⟩ := setsOut
  rw [log] at setOut latestAfter
  have silent := (standings row stored row member rfl).untouched
  refine ⟨next, setOut.id_eq, setOut.started, kept, latestAfter, logAfter.trans log, rowsAfter.trans rows,
    notices ++ more, by rw [extended, journal, List.append_assoc], fun other present draft inDrafts same => ?_⟩
  rcases Rows.mem_put inDrafts with rfl | ⟨old, different⟩
  · -- The row that was set up has an empty account before.
    obtain rfl := Rows.eq_of_id distinct present stored (same.symm.trans setOut.id_eq)
    exact Or.inr ⟨new, by rw [account_append, silent]; exact setOut⟩
  · refine (standings other present draft old same).foreign (foreign _ fun equal => different ?_)
    rw [same, equal, setOut.id_eq]

/-- The setup phase sets up every new row that is meant and has a subscriber. -/
theorem Hosts.setupNew_launches (hosted : stage.Hosts engine) (caught : engine.config.catchPanics = true)
    (behaves : ∀ subscriber ∈ engine.registry.subscribers, stage.Behaves subscriber)
    (resting : ∀ subscriber ∈ engine.registry.subscribers, stage.Resting subscriber) {system : σ}
    (distinct : (Rows.ids (stage.rows.read system)).Nodup) :
    Ends (engine.setupNew criteria (.clean (stage.rows.read system))) system
      fun result after => stage.Launched engine criteria system result.2 after := by
  -- The pass goes through the new rows, one setup each, and then the drafts are flushed.
  apply Meets.run_bind (hosted.find_run distinct _)
  refine Meets.bind (pass_meets Engine.SetupState.unit (stage.Launching system) distinct
    (fun row next (edit : next.id = row.id ∧
      if engine.registry.knows row.id = true then next.status ≠ .new else next = row) => edit.1) ?_
    (keeps_clean distinct) (launching_start distinct)) ?_
  · -- One more new row is set up, if it has a subscriber.
    intro state row drafts between stored member chosen keeps launching
    rw [FeedCriteria.admits_withStatuses, Bool.and_eq_true, decide_eq_true_eq, List.mem_singleton] at chosen
    cases known : engine.registry.get? row.id with
    | none =>
      have own : Rows.put row drafts = drafts := Rows.put_of_mem (keeps.ids ▸ keeps.distinct) member
      have run : engine.setupOne state row between = .ok state between := by
        simp [Engine.setupOne, known, pure, EStateM.pure]
      exact Meets.of_run run ⟨row, ⟨rfl, by simp [Registry.knows, known]⟩, own.symm ▸ keeps, own.symm ▸ launching⟩
    | some subscriber =>
      have isKnown : engine.registry.knows row.id = true := by simp [Registry.knows, known]
      refine Meets.mono (hosted.setupOne_setsOut caught behaves resting member chosen.2 isKnown keeps
        (by rw [launching.log]; exact launching.latest)) ?_
      intro state after setsOut
      obtain ⟨next, id, started, kept, launched⟩ := launching.next distinct stored member chosen.2 setsOut
      exact ⟨next, ⟨id, by simpa [isKnown] using started⟩, kept, launched⟩
  · -- At the end the drafts are written.
    intro state middle ends
    obtain ⟨change, edited, keeps, -, sameLog, rows, notices, journal, standings⟩ := ends
    apply (keeps.flush hosted).bind
    intro result after ends
    obtain ⟨count, unit⟩ := result
    obtain ⟨aside, rfl, stored, fields, -⟩ := ends
    refine Meets.pure ⟨rfl, stored, aside.log.trans sameLog, notices, aside.journal.trans journal,
      fun row member => ?_⟩
    obtain ⟨named, edit⟩ := edited row member
    obtain ⟨next, present, same⟩ := Rows.source fields.symm (List.mem_map_of_mem member)
    have own := standings row member _ (List.mem_map_of_mem member) named
    refine ⟨next, present, (Subscription.id_of_unstamped same).trans named, fun chosen => ?_, fun unchosen => ?_⟩
    · -- A chosen row is not new any more, so it has been set up.
      obtain ⟨meant, new, known⟩ := chosen
      rw [if_pos (by simp [FeedCriteria.admits_withStatuses, meant, new]), if_pos known] at edit
      rcases own with ⟨untouched, -⟩ | ⟨-, setOut⟩
      · rw [untouched] at edit
        exact absurd new edit.2
      · exact ⟨_, setOut, same⟩
    · have untouched : change row = row := by
        split at edit
        · rename_i meant
          rw [FeedCriteria.admits_withStatuses, Bool.and_eq_true, decide_eq_true_eq, List.mem_singleton] at meant
          have unknown : ¬ engine.registry.knows row.id = true := fun known => unchosen ⟨meant.1, meant.2, known⟩
          rw [if_neg unknown] at edit
          exact edit.2
        · exact edit
      rw [untouched] at same own
      exact ⟨same, own.untouched⟩

end Stage

end EventFeed
