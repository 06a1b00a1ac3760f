import EventFeed.Proofs.Coverage
import EventFeed.Proofs.Setouts

/-! Catching up: what a boot and a run without a limit make of every subscription that is meant. -/

namespace EventFeed

open EventFeed.Action
open Subscription (unstamped)

variable {σ : Type}

/-- Where a subscription has arrived after feeding without a limit, with its account. -/
inductive Arrived (status : Status) (log : List (Nat × Message)) (told : List Notice) (row next : Subscription) : Prop
  /-- The messages before one were handled and that one failed; the subscription stands just before it. -/
  | stopped {entry : Nat × Message} {error : CapturedError} (present : entry ∈ log) (behind : row.position < entry.1)
    (told : told = handlings row.id (beyond row.position (earlier entry.1 log)) ++
      [.dispatching row.id entry.1 entry.2.eventType, .failed row.id status next.position error])
    (stopped : next.status = .error) (failure : next.error = some (.ofCaptured status error))
    (position : next.position = newest (earlier entry.1 log))
  /-- All messages were handled; the subscription stands at the end of the log. -/
  | done (told : told = handlings row.id (beyond row.position log))
    (current : next.status = if row.runMode = .once then .finished else .active) (retries : next.retryAttempt = 0)
    (position : next.position = max row.position (newest log))

/-- A subscription that started like another one arrives like it. -/
theorem Arrived.source {status : Status} {log : List (Nat × Message)} {told : List Notice}
    {row start next : Subscription} (arrived : Arrived status log told start next) (id : start.id = row.id)
    (mode : start.runMode = row.runMode) (position : start.position = row.position) :
    Arrived status log told row next := by
  -- Only the id, the mode and the position of the start are spoken of.
  cases arrived with
  | stopped present behind told stopped failure place =>
    exact .stopped present (position ▸ behind) (by rw [told, id, position]) stopped failure place
  | done told current retries place =>
    exact .done (by rw [told, id, position]) (by rw [current, mode]) retries (by rw [place, position])

/-- A change at the end of the log: a subscription that runs once is finished, any other one goes on without
its retries. -/
structure Concludes (status : Status) (settled : Subscription → Subscription) : Prop where
  current : ∀ row : Subscription, row.status = status →
    (settled row).status = if row.runMode = .once then .finished else .active
  retries : ∀ row, (settled row).retryAttempt = 0
  position : ∀ row, (settled row).position = row.position

/-- Where a course through the whole log ends, a subscription has arrived. -/
theorem Course.arrived {status : Status} {settled : Subscription → Subscription} {log : List (Nat × Message)}
    {notices : List Notice} {row last next : Subscription} (concludes : Concludes status settled)
    (fed : status = .booting ∨ status = .active) (own : row.status = status)
    (reached : row.position = 0 ∨ row.position ∈ log.map Prod.fst) (course : Course status log notices row last)
    (same : next.unstamped = (if last.status = status then settled last else last).unstamped) :
    Arrived status log (account row.id notices) row next := by
  -- A course ends at the end of the log, or where a message failed.
  cases course with
  | running told =>
    let last : Subscription := { row with position := max row.position (newest log) }
    have running : last.status = status := own
    rw [if_pos running] at same
    have ends : next.Alike (settled last) := Subscription.alike_of_unstamped same
    exact .done told (ends.status.trans (concludes.current last running))
      (ends.retryAttempt.trans (concludes.retries last)) (ends.position.trans (concludes.position last))
  | @stopped entry position error present behind told place =>
    -- A subscription that stopped is not settled.
    let last : Subscription := { row with position }
    have unsettled : (last.fail error).status ≠ status := by rcases fed with rfl | rfl <;> exact Status.noConfusion
    have started : last.status ≠ .error := by
      show row.status ≠ .error
      rcases fed with rfl | rfl <;> simp [own]
    rw [if_neg unsettled] at same
    have ends : next.Alike (last.fail error) := Subscription.alike_of_unstamped same
    have stands : next.position = position := ends.position
    have status : last.status = status := own
    refine .stopped present behind (stands ▸ told) ends.status
      (by rw [ends.error, Subscription.fail_error started, status]) ?_
    -- The position from before is zero, or one of the indices before the message.
    have within : row.position ≤ newest (earlier entry.1 log) := by
      rcases reached with zero | logged
      · omega
      · obtain ⟨other, member, shape⟩ := List.mem_map.mp logged
        rw [← shape]
        exact le_newest (List.mem_filter.mpr ⟨member, by simpa [shape] using behind⟩)
    rw [stands, place]
    exact Nat.max_eq_right within

namespace Stage

variable {stage : Stage σ} {engine : Engine σ} {criteria : FeedCriteria}

theorem caughtUp_concludes : Concludes .booting caughtUp := by
  refine ⟨fun row _ => ?_, fun row => ?_, fun row => ?_⟩ <;> unfold caughtUp <;> split <;> rfl

theorem keptUp_concludes : Concludes .active keptUp := by
  -- A row that is kept up is finished or forgets its retries, and stays where it is.
  refine ⟨fun row current => ?_, fun row => ?_, fun row => ?_⟩ <;> unfold keptUp <;> split <;>
    first | rfl | exact current

/-- A subscription that has the identity and the status of a chosen one is chosen. -/
theorem Chosen.same {status : Status} {row next : Subscription} (meant : criteria.admits row.id row.group = true)
    (known : engine.registry.knows row.id = true) (id : next.id = row.id) (group : next.group = row.group)
    (current : next.status = status) : Chosen engine criteria status next :=
  ⟨by rw [id, group]; exact meant, current, by rw [id]; exact known⟩

/-- A subscription in another status is not chosen. -/
theorem not_chosen {status other : Status} {row : Subscription} (current : row.status = other)
    (apart : other ≠ status) : ¬ Chosen engine criteria status row :=
  fun chosen => apart (current.symm.trans chosen.2.1)

/-- What a boot without a limit makes of a subscription that is new or still catching up, with its account. -/
inductive BootOutcome (engine : Engine σ) (log : List (Nat × Message)) (told : List Notice)
    (row next : Subscription) : Prop
  /-- It has no subscriber. -/
  | detached (unknown : engine.registry.knows row.id = false) (told : told = []) (current : next.status = .outdated)
  /-- Its setup hook failed; it stands where it stood. -/
  | unprepared {error : CapturedError} (known : engine.registry.knows row.id = true) (new : row.status = .new)
    (told : told = [.failed row.id .new row.position error]) (stopped : next.status = .error)
    (failure : next.error = some (.ofCaptured .new error)) (position : next.position = row.position)
  /-- It starts at the newest message. -/
  | fromNow (known : engine.registry.knows row.id = true) (new : row.status = .new) (mode : row.runMode = .fromNow)
    (told : told = []) (current : next.status = .active) (position : next.position = newest log)
  /-- It caught up with the log, or with the messages before one that failed. -/
  | fed (known : engine.registry.knows row.id = true) (mode : row.status = .new → row.runMode ≠ .fromNow)
    (arrived : Arrived .booting log told row next)

/-- What a run without a limit makes of an active subscription, with its account. -/
inductive RunOutcome (engine : Engine σ) (log : List (Nat × Message)) (told : List Notice)
    (row next : Subscription) : Prop
  /-- It has no subscriber. -/
  | detached (unknown : engine.registry.knows row.id = false) (told : told = []) (current : next.status = .outdated)
  /-- It kept up with the log, or with the messages before one that failed. -/
  | fed (known : engine.registry.knows row.id = true) (arrived : Arrived .active log told row next)

/-- What an operation leaves of the rows that are meant and in some statuses, those of newly found subscribers
among them: each has come to an outcome that goes with its account. -/
structure Concluded (stage : Stage σ) (engine : Engine σ) (criteria : FeedCriteria) (statuses : List Status)
    (Outcome : List Notice → Subscription → Subscription → Prop) (before after : σ) : Prop where
  distinct : (Rows.ids (stage.rows.read after)).Nodup
  rows : ∃ notices fresh, stage.journal after = stage.journal before ++ notices ∧
    (∀ row ∈ fresh, Fresh engine criteria (Rows.ids (stage.rows.read before)) row) ∧
    (∀ subscriber ∈ engine.registry.subscribers, criteria.admits subscriber.id subscriber.group = true →
      subscriber.id ∈ Rows.ids (stage.rows.read before ++ fresh)) ∧
    ∀ row ∈ stage.rows.read before ++ fresh, criteria.admits row.id row.group = true → row.status ∈ statuses →
      ∃ next ∈ stage.rows.read after, next.id = row.id ∧ Outcome (account row.id notices) row next

/-- A row that stands at zero or at an index of the log, and at zero while it is new. -/
structure Placed (log : List (Nat × Message)) (row : Subscription) : Prop where
  reached : row.position = 0 ∨ row.position ∈ log.map Prod.fst
  new : row.status = .new → row.position = 0

/-- The stored rows are placed after any history of an empty store. -/
theorem History.placed {first system : σ} (history : stage.History first system)
    (empty : stage.rows.read first = []) : ∀ row ∈ stage.rows.read system, Placed (stage.log system) row := by
  -- A stored row is covered as well as sound, and each of the two gives one half.
  intro row stored
  have distinct : (Rows.ids (stage.rows.read first)).Nodup := by simp [empty]
  exact ⟨((covered_turns empty (history.turns distinct).1).covers row (Or.inl stored)).reached,
    ((history.wellFormed empty).1 row stored).new⟩

/-- Where the stored rows are placed, they still are when rows of newly found subscribers are added. -/
theorem placed_append {log : List (Nat × Message)} {rows fresh : List Subscription} {known : List String}
    (placed : ∀ row ∈ rows, Placed log row) (isFresh : ∀ row ∈ fresh, Fresh engine criteria known row) :
    ∀ row ∈ rows ++ fresh, Placed log row := by
  -- A row is one of the old ones, or stands at the beginning.
  intro row member
  rcases List.mem_append.mp member with stored | added
  · exact placed row stored
  · obtain ⟨subscriber, -, -, -, rfl⟩ := isFresh row added
    exact ⟨Or.inl rfl, fun _ => rfl⟩

/-- A subscription that is catching up comes to where its course ends. -/
theorem BootOutcome.of_course {log : List (Nat × Message)} {notices : List Notice}
    {row start last next : Subscription} (known : engine.registry.knows row.id = true)
    (mode : row.status = .new → row.runMode ≠ .fromNow)
    (reached : row.position = 0 ∨ row.position ∈ log.map Prod.fst) (booting : start.status = .booting)
    (id : start.id = row.id) (runMode : start.runMode = row.runMode) (position : start.position = row.position)
    (course : Course .booting log notices start last)
    (same : next.unstamped = (if last.status = .booting then caughtUp last else last).unstamped) :
    BootOutcome engine log (account row.id notices) row next := by
  -- The course ends where the subscription arrives, and its start is the row but for the status.
  have arrived := course.arrived caughtUp_concludes (Or.inl rfl) booting (position ▸ reached) same
  exact .fed known mode (id ▸ arrived.source id runMode position)

/-- A new subscription that was set up, and fed if it started to catch up, has come to the outcome of a boot. -/
theorem BootOutcome.of_setOut {log : List (Nat × Message)} {told notices : List Notice}
    {row found last begun next : Subscription} (meant : criteria.admits row.id row.group = true)
    (known : engine.registry.knows row.id = true) (new : row.status = .new) (beginning : row.position = 0)
    (same : found.Alike row) (setOut : SetOut log found told last) (begins : begun.unstamped = last.unstamped)
    (takes : Chosen engine criteria .booting begun → ∃ last, Course .booting log notices begun last ∧
      next.unstamped = (if last.status = .booting then caughtUp last else last).unstamped)
    (stays : ¬ Chosen engine criteria .booting begun →
      next.unstamped = begun.unstamped ∧ account row.id notices = []) :
    BootOutcome engine log (told ++ account row.id notices) row next := by
  -- What the setup came to decides whether the row is among those that are fed.
  have ready := Subscription.alike_of_unstamped begins
  cases setOut with
  | failed error =>
    obtain ⟨stayed, silent⟩ := stays (not_chosen ready.status Status.noConfusion)
    have ends := Subscription.alike_of_unstamped (stayed.trans begins)
    have started : found.status ≠ .error := by simp [same.status, new]
    have failure : next.error = some (.ofCaptured .new error) := by
      rw [ends.error, Subscription.fail_error started, same.status, new]
    refine .unprepared known new ?_ ends.status failure (ends.position.trans same.position)
    rw [silent, same.id, same.position]
    rfl
  | booting mode =>
    rw [same.runMode] at mode
    have id : begun.id = row.id := ready.id.trans same.id
    obtain ⟨last, course, ends⟩ := takes (.same meant known id (ready.group.trans same.group) ready.status)
    exact .of_course known (fun _ => mode) (Or.inl beginning) ready.status id (ready.runMode.trans same.runMode)
      (ready.position.trans same.position) course ends
  | fromNow mode =>
    rw [same.runMode] at mode
    obtain ⟨stayed, silent⟩ := stays (not_chosen ready.status Status.noConfusion)
    have ends := Subscription.alike_of_unstamped (stayed.trans begins)
    have position : next.position = max found.position (newest log) := ends.position
    rw [same.position, beginning, Nat.zero_max] at position
    exact .fromNow known new mode silent ends.status position

/-- What is gathered, then set up and then fed without a limit has come to the outcome of a boot. -/
theorem Gathered.booted {system one two three : σ} {unit : WorkUnit}
    (gathered : stage.Gathered engine criteria [.new, .booting] system one)
    (launched : stage.Launched engine criteria one unit two)
    (coursed : stage.Coursed engine criteria .booting caughtUp two three)
    (placed : ∀ row ∈ stage.rows.read system, Placed (stage.log system) row) :
    stage.Concluded engine criteria [.new, .booting] (BootOutcome engine (stage.log system)) system three := by
  -- The reports of the three phases stand one after another, and each row is accounted for in all of them.
  obtain ⟨logOne, first, fresh, journalOne, quiet, isFresh, complete, sources⟩ := gathered
  obtain ⟨-, -, logTwo, second, journalTwo, prepares⟩ := launched
  obtain ⟨distinct, -, third, journalThree, feeds⟩ := coursed
  rw [logTwo, logOne] at feeds
  rw [logOne] at prepares
  refine ⟨distinct, first ++ second ++ third, fresh, ?_, isFresh, complete, fun row member meant current => ?_⟩
  · rw [journalThree, journalTwo, journalOne]
    simp
  obtain ⟨reached, beginning⟩ := placed_append placed isFresh row member
  -- The row is followed from phase to phase.
  obtain ⟨found, isFound, sameFound⟩ := sources row member
  obtain ⟨begun, isBegun, idBegun, setUp, left⟩ := prepares found isFound
  obtain ⟨next, isNext, idNext, takes, stays⟩ := feeds begun isBegun
  have idFound : found.id = row.id := (Subscription.id_of_unstamped sameFound).trans detachedRow_id
  have id : begun.id = row.id := idBegun.trans idFound
  refine ⟨next, isNext, idNext.trans id, ?_⟩
  rw [account_append, account_append, quiet, List.nil_append]
  rw [idFound] at setUp left
  rw [id] at stays
  have admits : (criteria.withStatuses [.new, .booting]).admits row = true := by
    rw [FeedCriteria.admits_withStatuses, Bool.and_eq_true, decide_eq_true_eq]
    exact ⟨meant, current⟩
  cases known : engine.registry.knows row.id with
  | false =>
    -- Without a subscriber it is outdated, and neither set up nor fed.
    rw [detachedRow, if_pos ⟨admits, known⟩] at sameFound
    have unchosen : ∀ {status : Status} {other : Subscription}, other.id = row.id →
        ¬ Chosen engine criteria status other := fun same chosen => by simpa [same, known] using chosen.2.2
    obtain ⟨sameBegun, silentBegun⟩ := left (unchosen idFound)
    obtain ⟨sameNext, silentNext⟩ := stays (unchosen id)
    have ends := Subscription.alike_of_unstamped (sameNext.trans (sameBegun.trans sameFound))
    exact .detached known (by rw [silentBegun, silentNext]; rfl) ends.status
  | true =>
    rw [detachedRow, if_neg (by simp [known])] at sameFound
    have same := Subscription.alike_of_unstamped sameFound
    simp only [List.mem_cons, List.not_mem_nil, or_false] at current
    rcases current with new | booting
    · obtain ⟨last, setOut, begins⟩ := setUp (.same meant known idFound same.group (same.status.trans new))
      exact .of_setOut meant known new (beginning new) same setOut begins takes stays
    · -- A row that is catching up is not set up again.
      obtain ⟨sameBegun, silent⟩ := left (not_chosen (same.status.trans booting) Status.noConfusion)
      have ready := Subscription.alike_of_unstamped (sameBegun.trans sameFound)
      obtain ⟨last, course, ends⟩ := takes (.same meant known id ready.group (ready.status.trans booting))
      rw [silent]
      exact .of_course known (fun new => by simp [booting] at new) reached (ready.status.trans booting) id
        ready.runMode ready.position course ends

/-- What is gathered and then fed without a limit has come to the outcome of a run. -/
theorem Gathered.kept {system one two : σ}
    (gathered : stage.Gathered engine criteria [.active, .paused, .error] system one)
    (coursed : stage.Coursed engine criteria .active keptUp one two)
    (placed : ∀ row ∈ stage.rows.read system, Placed (stage.log system) row) :
    stage.Concluded engine criteria [.active] (RunOutcome engine (stage.log system)) system two := by
  -- The reports of the two phases stand one after another, and each row is accounted for in both.
  obtain ⟨log, first, fresh, journal, quiet, isFresh, complete, sources⟩ := gathered
  obtain ⟨distinct, -, second, further, feeds⟩ := coursed
  rw [log] at feeds
  refine ⟨distinct, first ++ second, fresh, ?_, isFresh, complete, fun row member meant current => ?_⟩
  · rw [further, journal, List.append_assoc]
  have active : row.status = .active := List.mem_singleton.mp current
  obtain ⟨found, isFound, sameFound⟩ := sources row member
  obtain ⟨next, isNext, idNext, takes, stays⟩ := feeds found isFound
  have id : found.id = row.id := (Subscription.id_of_unstamped sameFound).trans detachedRow_id
  refine ⟨next, isNext, idNext.trans id, ?_⟩
  rw [account_append, quiet, List.nil_append]
  cases known : engine.registry.knows row.id with
  | false =>
    -- Without a subscriber it is outdated, and not fed.
    have admits : (criteria.withStatuses [.active, .paused, .error]).admits row = true := by
      simp [FeedCriteria.admits_withStatuses, meant, active]
    rw [detachedRow, if_pos ⟨admits, known⟩] at sameFound
    obtain ⟨sameNext, silent⟩ := stays fun chosen => by simpa [id, known] using chosen.2.2
    have ends := Subscription.alike_of_unstamped (sameNext.trans sameFound)
    exact .detached known (id ▸ silent) ends.status
  | true =>
    rw [detachedRow, if_neg (by simp [known])] at sameFound
    have same := Subscription.alike_of_unstamped sameFound
    have still : found.status = .active := same.status.trans active
    obtain ⟨last, course, ends⟩ := takes (.same meant known id same.group still)
    have arrived := course.arrived keptUp_concludes (Or.inr rfl) still
      (same.position ▸ (placed_append placed isFresh row member).reached) ends
    exact .fed known (id ▸ arrived.source id same.runMode same.position)

/-- Where no retry is approved, boots and runs start with the rows gathered. -/
theorem Hosts.gathering {α : Type} (hosted : stage.Hosts engine) (never : Unforgiving engine) {first : Ledger}
    {system : σ} (traced : stage.Traced first system) {failedIn statuses : List Status}
    (attached : statuses ⊆ [.new, .booting, .active, .paused, .error]) {rest : WorkUnit → Action σ α}
    {ok : α → σ → Prop}
    (meets : ∀ after, stage.Gathered engine criteria statuses system after →
      (Rows.ids (stage.rows.read after)).Nodup →
      Meets (rest (.clean (stage.rows.read after))) after ok (stage.Broken engine first)) :
    Meets (engine.store.guarded do
      let unit ← engine.discover criteria {}
      let unit ← engine.retry criteria failedIn unit
      let unit ← engine.markDetached criteria statuses unit
      rest unit) system ok (stage.Broken engine first) := by
  -- Discovery, retries and detachment come first, and without approval the retries change nothing.
  refine hosted.discovering traced fun one discovered => ?_
  apply Meets.bind (hosted.retry_ends discovered.distinct discovered.follows).meets
  intro unit two retried
  obtain rfl := retried.unit
  apply Meets.bind (hosted.markDetached_ends attached retried.distinct retried.follows).meets
  intro unit three marked
  obtain rfl := marked.unit
  exact meets three (discovered.gathered never retried marked) marked.distinct

/-- Where panics are caught, no retry is approved and no hook or handler appends anything, a boot without a limit
brings every subscription that is meant to the end of the log or to its first failure, and so does a run. -/
theorem History.catches_up {first system : σ} (history : stage.History first system)
    (empty : stage.rows.read first = []) (hosted : stage.Hosts engine) (caught : engine.config.catchPanics = true)
    (never : Unforgiving engine)
    (behaves : ∀ subscriber ∈ engine.registry.subscribers, stage.Behaves subscriber)
    (resting : ∀ subscriber ∈ engine.registry.subscribers, stage.Resting subscriber) (criteria : FeedCriteria) :
    Ends (engine.boot criteria none) system (fun _ after =>
      stage.Concluded engine criteria [.new, .booting] (BootOutcome engine (stage.log system)) system after) ∧
    Ends (engine.run criteria none) system fun _ after =>
      stage.Concluded engine criteria [.active] (RunOutcome engine (stage.log system)) system after := by
  -- Both operations gather the rows first; a boot sets up before it feeds, and a run feeds at once.
  have distinct : (Rows.ids (stage.rows.read system)).Nodup := (history.wellFormed empty).2
  have traced : stage.Traced (stage.outside system) system := ⟨distinct, .refl _⟩
  have calm : ∀ subscriber ∈ engine.registry.subscribers, stage.Behaves subscriber ∧ stage.Sparing subscriber :=
    fun subscriber present => ⟨behaves subscriber present, (resting subscriber present).handlers⟩
  constructor
  · refine ends_of_caught caught (hosted.gathering never traced (by simp) fun one gathered distinct => ?_)
    apply Meets.bind (hosted.setupNew_launches caught behaves resting distinct).meets
    intro result two launched
    obtain ⟨errors, unit⟩ := result
    obtain rfl := launched.clean
    apply Meets.run_bind (hosted.targets_run launched.distinct)
    refine (hosted.feed_courses caught calm (Or.inl rfl) rfl hosted.caughtUp_settles caughtUp_id
      launched.distinct).meets.mono fun report after coursed => ?_
    exact gathered.booted launched coursed (history.placed empty)
  · refine ends_of_caught caught (hosted.gathering never traced (by simp) fun one gathered distinct => ?_)
    apply Meets.run_bind (hosted.targets_run distinct)
    refine (hosted.feed_courses caught calm (Or.inr rfl) rfl hosted.keptUp_settles keptUp_id
      distinct).meets.mono fun report after coursed => ?_
    exact gathered.kept coursed (history.placed empty)

end Stage

namespace World

/-- A brittle subscriber, one that cannot be set up, one that starts at the end of the log, and one that runs once. -/
def ensemble : List (Subscriber World) :=
  [reacting "brittle" brittle, reacting "clumsy" fun _ => .panicked (.text "unready"),
    reacting "latecomer" (fun _ => .done) .fromNow, reacting "single" (fun _ => .done) .once]

/-- None of them touches rows or reports, or appends anything. -/
theorem ensemble_behaves :
    (∀ subscriber ∈ ensemble, stage.Behaves subscriber) ∧ ∀ subscriber ∈ ensemble, stage.Resting subscriber := by
  -- Each of the four does nothing but answer.
  constructor <;> intro subscriber member <;>
    simp only [ensemble, List.mem_cons, List.not_mem_nil, or_false] at member <;>
    rcases member with rfl | rfl | rfl | rfl
  all_goals first | exact (reacting_contained ..).behaves | exact reacting_resting ..

/-- After an operation that broke off, a boot brings each subscription to an end of its own: the steady one has no
subscriber any more. -/
theorem torn_catches_up :
    (stage.rows.read (((Operation.boot {} none).perform (feeder ensemble .never)).outcome torn).2).map
        (fun row => (row.id, row.status, row.position)) =
      [("steady", .outdated, 1), ("brittle", .error, 1), ("clumsy", .error, 0), ("latecomer", .active, 2),
        ("single", .finished, 2)] ∧
      Ends ((feeder ensemble .never).boot {} none) torn (fun _ after =>
        stage.Concluded (feeder ensemble .never) {} [.new, .booting]
          (Stage.BootOutcome (feeder ensemble .never) (stage.log torn)) torn after) ∧
      Ends ((feeder ensemble .never).run {} none) torn fun _ after =>
        stage.Concluded (feeder ensemble .never) {} [.active]
          (Stage.RunOutcome (feeder ensemble .never) (stage.log torn)) torn after :=
  ⟨by decide +kernel, Stage.History.catches_up mended_history.1 rfl (hosts ..) rfl (fun _ _ => rfl)
    ensemble_behaves.1 ensemble_behaves.2 {}⟩

end World

end EventFeed
