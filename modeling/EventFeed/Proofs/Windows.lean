import EventFeed.Proofs.Casting
import EventFeed.Proofs.Rests

/-! Windows: booting under limits, call after call, comes to what booting at once comes to. -/

namespace EventFeed

open EventFeed.Action
open Subscription (unstamped)

variable {σ : Type}

namespace Engine

/-- What comes before the feeding of a boot. -/
def prepare (engine : Engine σ) (criteria : FeedCriteria) :
    Action σ (List SubscriptionFailure × WorkUnit) := do
  let unit ← engine.discover criteria {}
  let unit ← engine.retry criteria [.new, .booting] unit
  let unit ← engine.markDetached criteria [.new, .booting] unit
  engine.setupNew criteria unit

/-- Boots under one limit after another, until a call has read the log to its end. -/
def bootWindows (engine : Engine σ) (criteria : FeedCriteria) : List Nat → Action σ (List FeedReport)
  | [] => return []
  | limit :: rest => do
    let report ← engine.boot criteria (some limit)
    -- A call that has read the log to its end is the last one.
    if report.finished then return [report]
    let reports ← engine.bootWindows criteria rest
    return report :: reports

theorem boot_eq (engine : Engine σ) (criteria : FeedCriteria) (limit : Option Nat) :
    engine.boot criteria limit = engine.store.guarded (do
      let (errors, unit) ← engine.prepare criteria
      let (targets, unit) ← engine.targets criteria .booting unit
      engine.feed .booting limit .nothingToBoot engine.caughtUp errors targets unit) := by
  -- Both run the same phases, grouped in another way.
  simp only [boot, prepare, bind_assoc]

end Engine

namespace Board

variable {verdict : Verdict} {cast : Casting σ} {status : Status}

/-- Who is waiting does not depend on stamps. -/
theorem pending_unstamped {one two : List Subscription}
    (same : one.map Subscription.unstamped = two.map Subscription.unstamped) (log : List (Nat × Message)) :
    pending cast status one log = pending cast status two log := by
  -- Taking the stamps away changes neither a status nor a position.
  have stampless : ∀ (rows : List Subscription) (index : Nat),
      awaited cast status rows index = awaited cast status (rows.map Subscription.unstamped) index := by
    intro rows index
    simp only [awaited, List.any_map]
    rfl
  -- So the same messages pass the filter.
  apply List.filter_congr
  intro entry _
  rw [stampless one, stampless two, same]

/-- Where messages are delivered to stored rows, they come to the same as where
they are delivered at once. -/
theorem play_resumed {one two : Board}
    (rows : two.rows.map Subscription.unstamped = one.rows.map Subscription.unstamped)
    (calls : two.calls = one.calls) (fresh : two.errors = []) (entries : List (Nat × Message)) :
    let last := one.play verdict cast status entries
    let resumed := two.play verdict cast status entries
    resumed.rows.map Subscription.unstamped = last.rows.map Subscription.unstamped ∧
      resumed.calls = last.calls ∧ last.errors = one.errors ++ resumed.errors := by
  intro last resumed
  -- Without stamps, and without the earlier failures, both boards are the same.
  let bare : Board := ⟨one.rows, one.calls, []⟩
  have same : two.unstamped = bare.unstamped := by
    simp only [unstamped, bare, rows, calls, fresh]
  have played : resumed.unstamped = (bare.play verdict cast status entries).unstamped := by
    rw [← play_unstamped, ← play_unstamped, same]
  have failed : last = { bare.play verdict cast status entries with
      errors := one.errors ++ (bare.play verdict cast status entries).errors } := by
    have apart := @play_errors σ verdict cast status entries one.rows one.calls one.errors []
    rwa [List.append_nil] at apart
  -- Boards that are the same without stamps have the same calls and failures.
  obtain ⟨sameRows, sameCalls, sameErrors⟩ := Board.mk.inj played
  rw [failed]
  exact ⟨sameRows, sameCalls, by rw [sameErrors]⟩

end Board

namespace Stage

variable {stage : Stage σ} {engine : Engine σ} {criteria : FeedCriteria} {verdict : Verdict}

/-- Rows that leave nothing to do before the feeding of a boot. -/
structure Settled (engine : Engine σ) (criteria : FeedCriteria) (rows : List Subscription) : Prop where
  discovered : ∀ subscriber ∈ engine.registry.subscribers,
    criteria.admits subscriber.id subscriber.group = true → subscriber.id ∈ Rows.ids rows
  attached : ∀ row ∈ rows, criteria.admits row.id row.group = true → row.status ∈ [.new, .booting] →
    engine.registry.knows row.id = true
  started : ∀ row ∈ rows, criteria.admits row.id row.group = true → row.status ≠ .new

/-- Rows stay settled while they keep their ids and groups and do not go back in their status. -/
theorem Settled.keep {rows next : List Subscription} (settled : Settled engine criteria rows)
    (ids : Rows.ids next = Rows.ids rows)
    (source : ∀ row ∈ next, ∃ old ∈ rows, row.id = old.id ∧ row.group = old.group ∧
      (row.status = old.status ∨ row.status = .error)) : Settled engine criteria next := by
  -- Part by part: each row has a former one with its id and its group.
  obtain ⟨discovered, attached, started⟩ := settled
  refine ⟨?_, ?_, ?_⟩
  · -- Whoever was discovered is still there.
    rw [ids]
    exact discovered
  · -- A row that is new or booting was so before.
    intro row member meant early
    obtain ⟨old, present, sameId, sameGroup, same | failed⟩ := source row member
    · rw [sameId] at meant ⊢
      exact attached old present (sameGroup ▸ meant) (same ▸ early)
    · simp [failed] at early
  · -- No row becomes new.
    intro row member meant new
    obtain ⟨old, present, sameId, sameGroup, same | failed⟩ := source row member
    · exact started old present (sameId ▸ sameGroup ▸ meant) (same ▸ new)
    · cases failed.symm.trans new

/-- After a phase each row comes from an old one, which was edited or stayed. -/
theorem edited_source {meant : Subscription → Bool} {Edit : Subscription → Subscription → Prop}
    {rows next : List Subscription} {change : Subscription → Subscription}
    (edited : Edited meant Edit rows change)
    (fields : next.map unstamped = (rows.map change).map unstamped) {row : Subscription}
    (member : row ∈ next) : ∃ old ∈ rows, row.id = old.id ∧
      (meant old = true ∧ Edit old (change old) ∧ row.status = (change old).status ∨
        meant old = false ∧ row.group = old.group ∧ row.status = old.status) := by
  -- Each row carries the fields of the edit of some old one.
  obtain ⟨_, place, equal⟩ := Rows.source fields member
  obtain ⟨old, present, rfl⟩ := List.mem_map.mp place
  -- Taking the stamps away leaves every other field.
  have id : (change old).unstamped.id = row.unstamped.id := by rw [equal]
  have group : (change old).unstamped.group = row.unstamped.group := by rw [equal]
  have status : (change old).unstamped.status = row.unstamped.status := by rw [equal]
  obtain ⟨named, edit⟩ := edited old present
  refine ⟨old, present, id.symm.trans named, ?_⟩
  -- The old row was meant and edited, or it stayed as it was.
  cases chosen : meant old with
  | true =>
    rw [if_pos chosen] at edit
    exact Or.inl ⟨rfl, edit, status.symm⟩
  | false =>
    rw [if_neg (by simp [chosen])] at edit
    rw [edit] at group status
    exact Or.inr ⟨rfl, group.symm, status.symm⟩

/-- After the detachment phase, whoever is meant has a subscriber. -/
theorem Revised.attached {statuses : List Status} {first : Ledger} {before after : σ} {unit : WorkUnit}
    (revised : stage.Revised (criteria.withStatuses statuses).admits (Detached engine) first before unit after)
    (working : Status.outdated ∉ statuses) :
    ∀ row ∈ stage.rows.read after, criteria.admits row.id row.group = true → row.status ∈ statuses →
      engine.registry.knows row.id = true := by
  -- Each row stands for an old one, which was detached or left alone.
  intro row member meant current
  obtain ⟨change, edited, fields, -⟩ := revised.rows
  obtain ⟨old, -, id, ⟨-, edit, status⟩ | ⟨left, group, status⟩⟩ := edited_source edited fields member
  · by_cases known : engine.registry.knows old.id = true
    · rw [id]
      exact known
    · -- A row without a subscriber would be outdated.
      rw [Detached, if_neg known] at edit
      rw [status, edit] at current
      exact absurd current working
  · -- A row that stayed was not meant, though it is in one of the statuses.
    rw [FeedCriteria.admits_withStatuses, ← id, ← group, ← status, meant, Bool.true_and] at left
    simp [current] at left

/-- After the setup phase, the rows are settled. -/
theorem Prepared.settled {first : Ledger} {before after : σ} {unit : WorkUnit}
    (prepared : stage.Prepared engine criteria first before unit after)
    (discovered : ∀ subscriber ∈ engine.registry.subscribers,
      criteria.admits subscriber.id subscriber.group = true → subscriber.id ∈ Rows.ids (stage.rows.read before))
    (attached : ∀ row ∈ stage.rows.read before, criteria.admits row.id row.group = true →
      row.status ∈ [.new, .booting] → engine.registry.knows row.id = true) :
    Settled engine criteria (stage.rows.read after) := by
  -- Part by part: each row stands for an old one, which was set up or left alone.
  obtain ⟨change, edited, fields⟩ := prepared.rows
  have chosen : ∀ old : Subscription, (criteria.withStatuses [.new]).admits old = true →
      criteria.admits old.id old.group = true ∧ old.status = .new := by
    intro old meant
    simpa [FeedCriteria.admits_withStatuses] using meant
  refine ⟨?_, ?_, ?_⟩
  · -- The setup adds no row and takes none away.
    rw [edited_ids edited fields]
    exact discovered
  · -- A row was meant by the detachment phase already.
    intro row member meant early
    obtain ⟨old, present, id, ⟨new, -, -⟩ | ⟨-, group, status⟩⟩ := edited_source edited fields member
    · -- A row that was set up was new before.
      rw [id]
      exact attached old present (chosen old new).1 (by simp [(chosen old new).2])
    · rw [id, group] at meant
      rw [id]
      exact attached old present meant (status ▸ early)
  · intro row member meant new
    obtain ⟨old, present, id, ⟨was, edit, status⟩ | ⟨left, group, status⟩⟩ :=
      edited_source edited fields member
    · -- Only a row without a subscriber would still be new.
      have unknown := edit.unknown (status.symm.trans new)
      have known := attached old present (chosen old was).1 (by simp [(chosen old was).2])
      simp [Registry.knows, unknown] at known
    · -- A row that stayed cannot be new, or else it would have been set up.
      rw [FeedCriteria.admits_withStatuses, ← id, ← group, ← status, meant, new] at left
      simp at left

/-- What comes before the feeding settles the rows, and leaves the log alone. -/
theorem Hosts.prepare_ends (hosted : stage.Hosts engine) (caught : engine.config.catchPanics = true)
    (never : Unforgiving engine)
    (behaves : ∀ subscriber ∈ engine.registry.subscribers, stage.Behaves subscriber)
    (resting : ∀ subscriber ∈ engine.registry.subscribers, stage.Resting subscriber) {system : σ}
    (distinct : (Rows.ids (stage.rows.read system)).Nodup) :
    Ends (engine.prepare criteria) system fun result after =>
      result.2 = .clean (stage.rows.read after) ∧ (Rows.ids (stage.rows.read after)).Nodup ∧
        stage.log after = stage.log system ∧ Settled engine criteria (stage.rows.read after) := by
  -- Each phase leaves a clean unit of work, from which the next one starts.
  apply Meets.bind (hosted.discover_ends distinct (.refl _))
  intro unit one discovered
  obtain rfl := discovered.clean
  apply Meets.bind (hosted.retry_ends discovered.distinct discovered.follows)
  intro unit two retried
  obtain rfl := retried.unit
  apply Meets.bind (hosted.markDetached_ends (by simp) retried.distinct retried.follows)
  intro unit three marked
  obtain rfl := marked.unit
  apply Meets.mono (ends_of_caught caught (hosted.setupNew_meets behaves marked.distinct marked.follows))
  intro result four prepared
  refine ⟨prepared.clean, prepared.distinct, ?_, prepared.settled ?_ (marked.attached (by simp))⟩
  · -- None of the phases touches the log.
    rw [prepared.still resting, marked.quietly.log, retried.quietly.log, discovered.log]
  · -- The rows that discovery has left are still there.
    obtain ⟨change, edited, fields, -⟩ := marked.rows
    rw [edited_ids edited fields, retried.unretried never]
    exact discovered.complete

/-- Where the rows are settled, nothing happens before the feeding. -/
theorem Hosts.prepare_rests (hosted : stage.Hosts engine) (never : Unforgiving engine) {system : σ}
    (distinct : (Rows.ids (stage.rows.read system)).Nodup)
    (settled : Settled engine criteria (stage.rows.read system)) :
    stage.Rests (engine.prepare criteria) ([], .clean (stage.rows.read system)) system := by
  -- Everybody has a row, no retry is approved, nobody has lost a subscriber, and nobody is new.
  apply (hosted.discover_rests distinct rfl settled.discovered).bind
  intro _
  apply (hosted.retry_rests distinct (by simp) never _).bind
  intro _
  apply (hosted.markDetached_rests distinct (by simp) settled.attached).bind
  intro _
  exact hosted.setupNew_rests distinct (by simp) settled.started

/-- Changes at the end of the log do not depend on stamps. -/
theorem settled_unstamped {cast : Casting σ} {one two : List Subscription}
    (same : one.map unstamped = two.map unstamped) :
    (one.map (settleRow cast .booting caughtUp)).map unstamped =
      (two.map (settleRow cast .booting caughtUp)).map unstamped := by
  -- The change looks at the id, the group, the status and the mode, and not at the stamp.
  have stampless : ∀ row : Subscription, (settleRow cast .booting caughtUp row).unstamped =
      settleRow cast .booting caughtUp row.unstamped := by
    intro row
    have id : row.unstamped.id = row.id := rfl
    have group : row.unstamped.group = row.group := rfl
    have status : row.unstamped.status = row.status := rfl
    have mode : row.unstamped.runMode = row.runMode := rfl
    simp only [settleRow, caughtUp, id, group, status, mode]
    split
    · split <;> rfl
    · rfl
  -- The stamps can be taken away before the change as well as after it.
  have shape : ∀ rows : List Subscription, (rows.map (settleRow cast .booting caughtUp)).map unstamped =
      (rows.map unstamped).map (settleRow cast .booting caughtUp) := by
    intro rows
    simp only [List.map_map]
    exact List.map_congr_left fun row _ => stampless row
  rw [shape, shape, same]

/-- What a boot has prepared before it feeds. -/
structure Readied (stage : Stage σ) (engine : Engine σ) (criteria : FeedCriteria) (before : σ)
    (errors : List SubscriptionFailure) (after : σ) : Prop where
  run : engine.prepare criteria before = .ok (errors, .clean (stage.rows.read after)) after
  distinct : (Rows.ids (stage.rows.read after)).Nodup
  settled : Settled engine criteria (stage.rows.read after)

/-- The assumptions under which booting in windows is compared with booting at once. -/
structure Steady (stage : Stage σ) (engine : Engine σ) (verdict : Verdict) : Prop where
  hosted : stage.Hosts engine
  caught : engine.config.catchPanics = true
  never : Unforgiving engine
  contained : ∀ subscriber ∈ engine.registry.subscribers,
    stage.SelfContained (verdict subscriber.id) subscriber
  resting : ∀ subscriber ∈ engine.registry.subscribers, stage.Resting subscriber

/-- What all awaited messages come to for the rows of a system that is ready. -/
def bootBoard (stage : Stage σ) (engine : Engine σ) (criteria : FeedCriteria) (verdict : Verdict)
    (errors : List SubscriptionFailure) (ready : σ) (entries : List (Nat × Message)) : Board :=
  (stage.board errors ready).play verdict (casting engine criteria) .booting entries

/-- A boot comes to what the awaited messages come to that are within its limit. -/
theorem Steady.boot_played (steady : stage.Steady engine verdict) {limit : Option Nat}
    {system ready : σ} {errors : List SubscriptionFailure}
    (readied : stage.Readied engine criteria system errors ready) :
    Ends (engine.boot criteria limit) system
      (stage.Played engine criteria .booting limit caughtUp ready (stage.bootBoard engine criteria verdict
        errors ready (readUnder limit (stage.waiting engine criteria .booting ready)))) := by
  -- What comes before the feeding is given, and the feeding plays the messages that it reads.
  obtain ⟨hosted, caught, -, contained, resting⟩ := steady
  rw [Engine.boot_eq]
  -- Nobody else holds the lock, so the boot ends as its body does.
  apply hosted.guarded_meets
  -- The feeding starts from what has been prepared.
  apply Meets.run_bind readied.run
  apply Meets.run_bind (hosted.targets_run readied.distinct)
  exact (hosted.feed_played caught contained resting hosted.caughtUp_settles caughtUp_id caughtUp_group
    readied.distinct).meets

/-- After a window that was not the last one, the next boot is ready at once. -/
theorem Steady.readied_next (steady : stage.Steady engine verdict) {limit : Option Nat}
    {ready next : σ} {errors : List SubscriptionFailure} {entries : List (Nat × Message)}
    (settled : Settled engine criteria (stage.rows.read ready)) {report : FeedReport}
    (played : stage.Played engine criteria .booting limit caughtUp ready
      (stage.bootBoard engine criteria verdict errors ready entries) report next)
    (further : report.finished = false) :
    ∃ readyNext, stage.Readied engine criteria next [] readyNext ∧
      stage.rows.read readyNext = stage.rows.read next ∧ stage.calls readyNext = stage.calls next ∧
      stage.log readyNext = stage.log next := by
  -- The rows stay settled, so that the phases before the next feeding have nothing to do.
  obtain ⟨-, -, -, -, distinct, rows⟩ := played
  rw [further, if_neg (by simp)] at rows
  have advances := @Board.play_advances σ verdict (casting engine criteria) .booting (stage.board errors ready)
    entries
  -- A window makes rows fail at most, and a failed row is not prepared again.
  have settledNext : Settled engine criteria (stage.rows.read next) := by
    apply settled.keep
    · -- The window adds no row and takes none away.
      exact (Rows.ids_of_unstamped rows).trans (advances_ids advances)
    · -- Each row is the stored form of one that the window moved forward.
      intro row member
      obtain ⟨reached, place, equal⟩ := Rows.source rows member
      obtain ⟨old, present, own⟩ := source_of_forall₂ advances reached place
      have sameId : reached.unstamped.id = row.unstamped.id := by rw [equal]
      have sameGroup : reached.unstamped.group = row.unstamped.group := by rw [equal]
      have sameStatus : reached.status = row.status := by
        have status : reached.unstamped.status = row.unstamped.status := by rw [equal]
        exact status
      rw [← sameStatus]
      exact ⟨old, present, sameId.symm.trans own.id, sameGroup.symm.trans own.group,
        own.status.imp id fun failed => failed.2⟩
  obtain ⟨notices, run, -⟩ := steady.hosted.prepare_rests steady.never distinct settledNext
  exact ⟨stage.reported notices next, ⟨by simpa using run, by simpa using distinct, by simpa using settledNext⟩,
    by simp, by simp, by simp⟩

/-- What a finished boot leaves: everything awaited has been delivered, and
whoever is left has caught up. -/
structure Booted (stage : Stage σ) (engine : Engine σ) (criteria : FeedCriteria) (last : Board)
    (errors : List SubscriptionFailure) (after : σ) : Prop where
  errors : errors = last.errors
  calls : stage.calls after = last.calls
  rows : (stage.rows.read after).map unstamped =
    (last.rows.map (settleRow (casting engine criteria) .booting caughtUp)).map unstamped

/-- A window that reads the log to its end leaves what the whole boot leaves. -/
theorem Played.booted {limit : Option Nat} {ready next : σ} {errors : List SubscriptionFailure}
    {report : FeedReport}
    (played : stage.Played engine criteria .booting limit caughtUp ready (stage.bootBoard engine criteria
      verdict errors ready (readUnder limit (stage.waiting engine criteria .booting ready))) report next)
    (done : report.finished = true) :
    stage.Booted engine criteria (stage.bootBoard engine criteria verdict errors ready
      (stage.waiting engine criteria .booting ready)) report.errors next := by
  -- What a window reads is everything that is awaited, if it comes to the end.
  obtain ⟨finished, failures, calls, -, -, rows⟩ := played
  rw [done, if_pos rfl] at rows
  -- Fewer messages were awaited than the limit allows, so all of them were read.
  have all : readUnder limit (stage.waiting engine criteria .booting ready) =
      stage.waiting engine criteria .booting ready := by
    cases limit with
    | none => rfl
    | some limit =>
      have short : (stage.waiting engine criteria .booting ready).length < max 1 limit := by
        simpa [exhausts] using finished.symm.trans done
      exact List.take_of_length_le (Nat.le_of_lt short)
  rw [all] at failures calls rows
  exact ⟨failures, calls, rows⟩

/-- After a window that was not the last one, the next boot is ready at once; it has fewer messages
to deliver, and these come to the rest of what was awaited. -/
theorem Steady.boot_further (steady : stage.Steady engine verdict) {limit : Nat} {system ready next : σ}
    {errors : List SubscriptionFailure} {report : FeedReport}
    (readied : stage.Readied engine criteria system errors ready)
    (played : stage.Played engine criteria .booting (some limit) caughtUp ready (stage.bootBoard engine
      criteria verdict errors ready (readUnder (some limit) (stage.waiting engine criteria .booting ready)))
      report next)
    (further : report.finished = false) :
    ∃ readyNext, stage.Readied engine criteria next [] readyNext ∧
      (stage.waiting engine criteria .booting readyNext).length <
        (stage.waiting engine criteria .booting ready).length ∧
      let resumed := stage.bootBoard engine criteria verdict [] readyNext
        (stage.waiting engine criteria .booting readyNext)
      let whole := stage.bootBoard engine criteria verdict errors ready
        (stage.waiting engine criteria .booting ready)
      resumed.rows.map unstamped = whole.rows.map unstamped ∧ resumed.calls = whole.calls ∧
        whole.errors = report.errors ++ resumed.errors := by
  -- What is awaited next is what the board has pending after the window.
  obtain ⟨readyNext, readiedNext, sameRows, sameCalls, sameLog⟩ :=
    steady.readied_next readied.settled played further
  obtain ⟨finished, failures, calls, log, -, rows⟩ := played
  rw [further, if_neg (by simp)] at rows
  -- What is awaited now is what is pending on the board after the window.
  have left : stage.waiting engine criteria .booting readyNext =
      Board.pending (casting engine criteria) .booting (stage.bootBoard engine criteria verdict errors ready
        (readUnder (some limit) (stage.waiting engine criteria .booting ready))).rows
        (stage.log ready) := by
    rw [waiting, sameRows, sameLog, log]
    exact Board.pending_unstamped rows _
  have fewer : (stage.waiting engine criteria .booting readyNext).length ≤
      (stage.waiting engine criteria .booting ready).length - max 1 limit := by
    rw [left]
    exact Board.pending_length (by simp) _ _
  -- The window was full, and a full window holds one message at least.
  have long : max 1 limit ≤ (stage.waiting engine criteria .booting ready).length := by
    have unread := finished.symm.trans further
    simpa only [exhausts, Option.all_some, decide_eq_false_iff_not, Nat.not_lt] using unread
  have whole : (stage.bootBoard engine criteria verdict errors ready
      (readUnder (some limit) (stage.waiting engine criteria .booting ready))).play verdict
        (casting engine criteria) .booting (stage.waiting engine criteria .booting readyNext) =
      stage.bootBoard engine criteria verdict errors ready
        (stage.waiting engine criteria .booting ready) := by
    rw [left]
    exact Board.play_pending (by simp) _ _
  have resumed := @Board.play_resumed σ verdict
    (casting engine criteria) .booting (stage.bootBoard engine criteria verdict errors ready
      (readUnder (some limit) (stage.waiting engine criteria .booting ready))) (stage.board [] readyNext)
    (by rw [← rows, ← sameRows]; rfl) (by rw [← calls, ← sameCalls]; rfl) rfl
    (stage.waiting engine criteria .booting readyNext)
  rw [whole, ← failures] at resumed
  exact ⟨readyNext, readiedNext, by omega, resumed⟩

/-- With enough limits a boot in windows is finished in the end, and comes to what all awaited
messages come to. -/
theorem Steady.bootWindows_ends (steady : stage.Steady engine verdict) :
    ∀ (limits : List Nat) (system ready : σ) (errors : List SubscriptionFailure),
      stage.Readied engine criteria system errors ready →
      (stage.waiting engine criteria .booting ready).length < limits.length →
      Ends (engine.bootWindows criteria limits) system fun reports after =>
        (∃ report, reports.getLast? = some report ∧ report.finished = true) ∧
        reports.length ≤ (stage.waiting engine criteria .booting ready).length + 1 ∧
        stage.Booted engine criteria (stage.bootBoard engine criteria verdict errors ready
          (stage.waiting engine criteria .booting ready)) (reports.flatMap FeedReport.errors) after := by
  -- Every window that is not the last one leaves fewer messages that are awaited.
  intro limits
  induction limits with
  | nil => simp
  | cons limit rest ih =>
    intro system ready errors readied enough
    unfold Engine.bootWindows
    apply Meets.bind (steady.boot_played readied)
    intro report next played
    cases done : report.finished with
    | true =>
      simp only [if_true]
      have booted := played.booted done
      exact Meets.pure ⟨⟨report, rfl, done⟩, by simp, by simpa using booted⟩
    | false =>
      simp only [Bool.false_eq_true, if_false]
      obtain ⟨readyNext, readiedNext, fewer, resumedRows, resumedCalls, resumedErrors⟩ :=
        steady.boot_further readied played done
      have shorter : (stage.waiting engine criteria .booting readyNext).length < rest.length := by
        rw [List.length_cons] at enough
        omega
      apply Meets.bind (ih next readyNext [] readiedNext shorter)
      intro reports after later
      obtain ⟨⟨final, isLast, finished⟩, count, booted⟩ := later
      -- The failures of this window come before those of the later ones.
      refine Meets.pure ⟨⟨final, ?_, finished⟩, ?_, ?_, ?_, ?_⟩
      · simp [List.getLast?_cons, isLast]
      · rw [List.length_cons]
        omega
      · rw [List.flatMap_cons, booted.errors, resumedErrors]
      · exact booted.calls.trans resumedCalls
      · exact booted.rows.trans (settled_unstamped resumedRows)

/-- Booting under limits until a call is finished comes to what one boot comes to: the same rows up
to stamps, the same calls and the same failures. -/
theorem Steady.boot_windows (steady : stage.Steady engine verdict) {system : σ}
    (distinct : (Rows.ids (stage.rows.read system)).Nodup) {limits : List Nat}
    (enough : (stage.log system).length < limits.length) :
    ∃ report whole reports split, engine.boot criteria none system = .ok report whole ∧
      engine.bootWindows criteria limits system = .ok reports split ∧
      (∃ last, reports.getLast? = some last ∧ last.finished = true) ∧
      reports.length ≤ (stage.log system).length + 1 ∧
      (stage.rows.read split).map unstamped = (stage.rows.read whole).map unstamped ∧
      stage.calls split = stage.calls whole ∧
      reports.flatMap FeedReport.errors = report.errors := by
  -- Both start from what the first call prepares.
  have behaves : ∀ subscriber ∈ engine.registry.subscribers, stage.Behaves subscriber :=
    fun subscriber member => (steady.contained subscriber member).behaves
  obtain ⟨⟨errors, unit⟩, ready, run, clean, distinctReady, log, settled⟩ :=
    (steady.hosted.prepare_ends steady.caught steady.never behaves steady.resting distinct).run
  obtain rfl : unit = .clean (stage.rows.read ready) := clean
  have readied : stage.Readied engine criteria system errors ready := ⟨run, distinctReady, settled⟩
  -- No more messages are awaited than the log holds.
  have few : (stage.waiting engine criteria .booting ready).length ≤ (stage.log system).length :=
    log ▸ List.length_filter_le _ _
  obtain ⟨report, whole, runWhole, played⟩ := (@Steady.boot_played _ _ _ _ _ steady none _ _ _ readied).run
  obtain ⟨reports, split, runSplit, finished, count, booted⟩ :=
    (steady.bootWindows_ends limits system ready errors readied (Nat.lt_of_le_of_lt few enough)).run
  refine ⟨report, whole, reports, split, runWhole, runSplit, finished, by omega, ?_, ?_, ?_⟩
  · -- A boot without a limit reads the log to its end.
    have rows := played.rows
    have done : report.finished = true := played.finished
    rw [done, if_pos rfl] at rows
    exact booted.rows.trans rows.symm
  · exact booted.calls.trans played.calls.symm
  · exact booted.errors.trans played.errors.symm

end Stage

namespace World

/-- Three messages, one subscription that has one of them behind it, and a
subscriber that is not known yet. -/
def early : World :=
  { telling ["a", "b", "c"] with rows := [{ id := "steady", status := .booting, position := 1 }] }

/-- Four windows are enough for three messages, and the failure on the way is reported once. -/
theorem early_boot_windows : ∃ report whole reports split,
    (feeder pair .never).boot {} none early = .ok report whole ∧
    (feeder pair .never).bootWindows {} [1, 0, 1, 2] early = .ok reports split ∧
    report.errors.length = 1 ∧ reports.length ≤ 4 ∧
    (stage.rows.read split).map Subscription.unstamped = (stage.rows.read whole).map Subscription.unstamped ∧
    stage.calls split = stage.calls whole ∧ reports.flatMap FeedReport.errors = report.errors := by
  -- The general theorem gives both boots, and what is computed besides is the number of failures.
  have steady : stage.Steady (feeder pair .never) verdict :=
    ⟨hosts .., rfl, fun _ _ => rfl, pair_contained, pair_resting⟩
  have distinct : (Rows.ids (stage.rows.read early)).Nodup := by decide +kernel
  have enough : (stage.log early).length < [1, 0, 1, 2].length := by decide +kernel
  obtain ⟨report, whole, reports, split, run, runSplit, -, count, rows, calls, errors⟩ :=
    @Stage.Steady.boot_windows _ stage _ {} _ steady _ distinct _ enough
  -- The shaky subscriber fails on its second message.
  have failed : (((feeder pair .never).boot {} none).outcome early).1.toOption.map
      (fun report => report.errors.length) = some 1 := by decide +kernel
  simp only [Action.outcome, run, Except.toOption, Option.map_some, Option.some.injEq] at failed
  exact ⟨report, whole, reports, split, run, runSplit, failed, count, rows, calls, errors⟩

end World

end EventFeed
