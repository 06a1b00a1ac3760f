import EventFeed.Proofs.Endurance
import EventFeed.Proofs.Setbacks

/-! Limits: how many messages a boot or a run reads under a limit, and which ones it hands over. -/

namespace EventFeed

open EventFeed.Action

variable {σ : Type}

/-- A report does not tell that a message is handed over, unless its index is one of some indices. -/
def Notice.Within (indices : List Nat) (notice : Notice) : Prop :=
  ∀ id index eventType, notice = .dispatching id index eventType → index ∈ indices

/-- Most reports tell of no message that is handed over. -/
theorem Notice.within_of_other {notice : Notice} (other : notice.delivers = false) (indices : List Nat) :
    notice.Within indices := by
  -- The rule speaks of one kind of report only.
  intro id index eventType same
  rw [same] at other
  cases other

/-- What is known of early ends under some condition may be added to what is known of ordinary ones. -/
theorem Action.Meets.granted {α : Type} {action : Action σ α} {system : σ} {ok ok' : α → σ → Prop}
    {early : Abort → σ → Prop} {given : Prop} (meets : Meets action system ok fun _ _ => True)
    (further : given → Meets action system ok' early) :
    Meets action system ok fun abort next => given → early abort next := by
  -- There is one end only.
  unfold Meets at meets further ⊢
  cases result : action system with
  | ok value next => simpa [result] using meets
  | error abort next => simpa [result] using further

namespace Stage

variable {stage : Stage σ} {engine : Engine σ} {admits : Notice → Prop} {holds : σ → Prop}

/-- How many messages are read under a limit: all of them, or as many as the limit, which counts as one at least. -/
theorem length_readUnder {α : Type} (limit : Nat) (items : List α) :
    (readUnder (some limit) items).length = min (max 1 limit) items.length := by simp [readUnder]

/-- Messages are not read to their end when they are as many as the limit, which counts as one at least. -/
theorem exhausts_eq_false (limit count : Nat) : exhausts (some limit) count = false ↔ max 1 limit ≤ count := by
  simp only [exhausts, Option.all_some, decide_eq_false_iff_not, Nat.not_lt]

/-- Reports that keep a rule keep a weaker one. -/
theorem Reports.mono {rule weaker : Notice → Prop} {begun system : σ} (reports : stage.Reports rule begun system)
    (implies : ∀ notice, rule notice → weaker notice) : stage.Reports weaker begun system := by
  -- The reports are the same, and each of them keeps the weaker rule.
  obtain ⟨notices, journal, kept⟩ := reports
  exact ⟨notices, journal, fun notice member => implies notice (kept notice member)⟩

section Window

variable (hosted : stage.Hosts engine) (enduring : stage.Enduring admits holds)
  (others : ∀ notice, notice.delivers = false → admits notice) (done : ∀ id index, admits (.handled id index))

include hosted enduring others done

/-- An offer keeps what endures, if the handing over of the message may be reported. -/
theorem Hosts.offer_endures {target : Target σ} (behaves : stage.Behaves target.subscriber) {status : Status}
    {index : Nat} {message : Message} (handed : ∀ id eventType, admits (.dispatching id index eventType))
    {system : σ} (held : holds system) :
    Meets (engine.offer status index message target) system
      (fun offered after => offered.1.subscriber = target.subscriber ∧ holds after) fun _ _ => True := by
  -- The cases are those of the offer: no longer fed, past the message already, or handed it.
  unfold Engine.offer
  simp only
  split
  · exact Meets.pure ⟨rfl, held⟩
  split
  · exact (hosted.note_endures enduring (others _ rfl) system held).bind fun _ _ held => Meets.pure ⟨rfl, held⟩
  -- The message is handed over, and what comes of that is reported.
  apply (hosted.note_endures enduring (handed _ _) system held).bind
  intro _ one held
  apply (handle_outlasts enduring behaves message one held).bind
  intro result two held
  cases result with
  | error error =>
    exact (hosted.fail_endures enduring (others _ rfl) two held).bind fun _ _ held => Meets.pure ⟨rfl, held⟩
  | ok _ => exact (hosted.note_endures enduring (done _ _) two held).bind fun _ _ held => Meets.pure ⟨rfl, held⟩

/-- A round of offers counts its message, and keeps the subscribers of the targets. -/
theorem Hosts.offerAll_endures {window : Window σ} (calm : ∀ target ∈ window.targets, stage.Behaves target.subscriber)
    {status : Status} {index : Nat} {message : Message}
    (handed : ∀ id eventType, admits (.dispatching id index eventType)) {system : σ} (held : holds system) :
    Meets (engine.offerAll status index message window) system (fun next after =>
      (∀ target ∈ next.targets, stage.Behaves target.subscriber) ∧ next.processed = window.processed + 1 ∧
      next.finished = window.finished ∧ holds after) fun _ _ => True := by
  -- Of the targets, the first ones have been offered the message, and the others wait for it.
  apply Meets.bind (Meets.mapM (fun front left between =>
    (∀ target ∈ front.map Prod.fst ++ left, stage.Behaves target.subscriber) ∧ holds between) ?_ window.targets []
    system ⟨by simpa using calm, held⟩)
  · intro offered after ends
    exact Meets.pure ⟨by simpa using ends.1, rfl, rfl, ends.2⟩
  · intro front target left between ends
    obtain ⟨calm, held⟩ := ends
    apply (hosted.offer_endures enduring others done (calm target (by simp)) handed held).mono
    intro offered after ends
    obtain ⟨same, held⟩ := ends
    refine ⟨fun other member => ?_, held⟩
    rw [List.map_append, List.append_assoc, List.mem_append] at member
    rcases member with before | back
    · exact calm other (List.mem_append_left _ before)
    · -- The target itself has kept its subscriber.
      rcases List.mem_cons.mp back with rfl | later
      · rw [same]
        exact calm target (by simp)
      · exact calm other (List.mem_append_right _ (List.mem_cons_of_mem _ later))

omit done in
/-- Writing a window changes nothing in it but its unit. -/
theorem Hosts.persistWindow_endures (window : Window σ) {system : σ} (held : holds system) :
    Meets (engine.persistWindow window) system (fun next after => next.targets = window.targets ∧
      next.processed = window.processed ∧ next.finished = window.finished ∧ holds after) fun _ _ => True :=
  (hosted.persist_outlasts (enduring.lasting others) _ _ system held).bind fun _ _ held =>
    Meets.pure ⟨rfl, rfl, rfl, held⟩

omit done in
/-- A write between two messages changes as little. -/
theorem Hosts.flushWhenDue_endures (window : Window σ) {system : σ} (held : holds system) :
    Meets (engine.flushWhenDue window) system (fun next after => next.targets = window.targets ∧
      next.processed = window.processed ∧ next.finished = window.finished ∧ holds after) fun _ _ => True := by
  -- It is the write of a window, or nothing at all.
  unfold Engine.flushWhenDue
  split
  · exact (hosted.persistWindow_endures enduring others window held).bind fun _ _ ends => Meets.pure ends
  · exact Meets.pure ⟨rfl, rfl, rfl, held⟩

/-- Under a limit, messages are read up to the limit, though one in any case, and no other ones are handed over. -/
theorem Hosts.deliver_reads {status : Status} {limit : Option Nat} :
    ∀ (entries : List (Nat × Message)) (window : Window σ) (system : σ),
      (∀ target ∈ window.targets, stage.Behaves target.subscriber) → window.finished = false →
      (∀ entry ∈ readUnder (limit.map fun limit => limit - window.processed) entries, ∀ id eventType,
        admits (.dispatching id entry.1 eventType)) → holds system →
      Meets (engine.deliver status limit window (entries.map .ok)) system (fun final after =>
        final.processed = window.processed +
          (readUnder (limit.map fun limit => limit - window.processed) entries).length ∧
        final.finished = exhausts (limit.map fun limit => limit - window.processed) entries.length ∧
        holds after) fun _ _ => True := by
  -- What is left of the limit shrinks with every message.
  intro entries
  induction entries with
  | nil =>
    -- Without messages the log is at its end, whatever the limit is.
    intro window system calm unfinished handed held
    refine Meets.pure ⟨?_, ?_, held⟩
    · cases limit <;> simp [readUnder]
    · cases limit <;> simp [exhausts]
  | cons entry rest ih =>
    intro window system calm unfinished handed held
    rw [List.map_cons]
    apply Meets.run_bind (show Action.ofExcept (.ok entry) system = .ok entry system from rfl)
    -- The first message is read whatever the limit is, since the limit is looked at after it.
    have first : entry ∈ readUnder (limit.map fun limit => limit - window.processed) (entry :: rest) := by
      cases limit with
      | none => exact List.mem_cons_self
      | some bound =>
        have room : max 1 (bound - window.processed) = max 1 (bound - window.processed) - 1 + 1 := by omega
        simp only [readUnder, Option.map_some]
        rw [room, List.take_succ_cons]
        exact List.mem_cons_self
    apply (hosted.offerAll_endures enduring others done calm (handed entry first) held).bind
    intro offered one ends
    obtain ⟨calm, counted, goesOn, held⟩ := ends
    apply (hosted.flushWhenDue_endures enduring others offered held).bind
    intro flushed two ends
    obtain ⟨sameTargets, sameCount, sameEnd, held⟩ := ends
    have processed : flushed.processed = window.processed + 1 := sameCount.trans counted
    have unread : flushed.finished = false := sameEnd.trans (goesOn.trans unfinished)
    split
    · -- At the limit the window ends, with this message as the last one.
      rename_i reached
      obtain ⟨bound, rfl, within⟩ : ∃ bound, limit = some bound ∧ bound ≤ flushed.processed := by
        simpa [Option.any_eq_true] using reached
      have one : max 1 (bound - window.processed) = 1 := by omega
      apply (hosted.persistWindow_endures enduring others flushed held).mono
      intro final after ends
      obtain ⟨-, count, stop, held⟩ := ends
      refine ⟨?_, ?_, held⟩
      · simp [count, processed, readUnder, one]
      · have more : ¬ (entry :: rest).length < 1 := by simp
        simp only [stop, unread, exhausts, Option.map_some, Option.all_some, one, more, decide_false]
    · -- Otherwise the rest is read under what is left of the limit.
      rename_i further
      rw [processed] at further
      have step := readUnder_cons further entry rest
      apply (ih flushed two (sameTargets ▸ calm) unread ?_ held).mono
      · intro final after ends
        obtain ⟨count, stop, held⟩ := ends
        rw [processed] at count stop
        refine ⟨?_, stop.trans (exhausts_succ further rest.length).symm, held⟩
        rw [count, step, List.length_cons]
        omega
      · intro other member
        rw [processed] at member
        exact handed other (by rw [step]; exact List.mem_cons_of_mem _ member)

/-- Feeding targets reads the messages above the lowest position, up to the limit. -/
theorem Hosts.feed_reads {status : Status} {limit : Option Nat} {idle : Notice} (quiet : idle.delivers = false)
    {change : Subscription → Action σ Subscription} (changes : ∀ row, Outlasts holds (change row))
    {errors : List SubscriptionFailure} {targets : List (Target σ)} {unit : WorkUnit}
    (calm : ∀ target ∈ targets, stage.Behaves target.subscriber) {system : σ}
    (handed : ∀ entry ∈ readUnder limit (stage.ahead targets system), ∀ id eventType,
      admits (.dispatching id entry.1 eventType)) (held : holds system) :
    Meets (engine.feed status limit idle change errors targets unit) system (fun report after =>
      (targets ≠ [] → report.processed = (readUnder limit (stage.ahead targets system)).length ∧
        report.finished = exhausts limit (stage.ahead targets system).length) ∧ holds after) fun _ _ => True := by
  -- A window is processed if there is anybody to feed, and its targets are settled at the end of the log.
  unfold Engine.feed
  split
  · -- Where there is nobody to feed, nothing is read.
    rename_i nobody
    have none : targets = [] := by simpa using nobody
    exact (hosted.note_endures enduring (others _ quiet) system held).bind fun _ _ held =>
      Meets.pure ⟨fun somebody => absurd none somebody, held⟩
  have whole : (limit.map fun limit => limit - 0) = limit := by cases limit <;> rfl
  have reads : Meets (engine.process status limit { unit, targets, errors }) system (fun window after =>
      window.processed = (readUnder limit (stage.ahead targets system)).length ∧
      window.finished = exhausts limit (stage.ahead targets system).length ∧ holds after) fun _ _ => True := by
    -- The report of the window comes before its messages are loaded, and does not touch the log.
    apply hosted.note_meets
    have loaded : stage.above (Engine.lowestPosition targets)
        (stage.observe (.loading (Engine.lowestPosition targets) targets.length) system) =
        stage.ahead targets system := by simp [above, ahead]
    apply Meets.run_bind (hosted.load_run _ _)
    rw [loaded]
    apply (hosted.deliver_reads enduring others done (stage.ahead targets system) { unit, targets, errors } _ calm
      rfl (by rw [whole]; exact handed) (enduring.observe (others _ rfl) held)).mono
    intro window after ends
    rwa [whole, Nat.zero_add] at ends
  apply reads.bind
  intro window one ends
  obtain ⟨count, stop, held⟩ := ends
  split
  · -- At the end of the log the targets are settled and written.
    apply (settleTargets_outlasts changes window.targets one held).bind
    intro next two held
    apply (hosted.persist_outlasts (enduring.lasting others) _ _ two held).bind
    exact fun _ _ held => Meets.pure ⟨fun _ => ⟨count, stop⟩, held⟩
  · exact Meets.pure ⟨fun _ => ⟨count, stop⟩, held⟩

end Window

/-- What comes before the messages keeps what endures. -/
theorem Hosts.prelude_endures (hosted : stage.Hosts engine) (enduring : stage.Enduring admits holds)
    (others : ∀ notice, notice.delivers = false → admits notice)
    (behaves : ∀ subscriber ∈ engine.registry.subscribers, stage.Behaves subscriber) (operation : Operation) :
    Outlasts holds (operation.prelude engine) := by
  have lasting := enduring.lasting others
  -- Both a boot and a run discover, retry and detach, and a boot sets up as well.
  cases operation with
  | boot criteria limit =>
    exact (hosted.discover_outlasts lasting _ _).bind fun _ => (hosted.retry_outlasts lasting _ _ _).bind fun _ =>
      (hosted.markDetached_outlasts lasting _ _ _).bind fun unit =>
        hosted.setupNew_endures enduring others behaves criteria unit
  | _ =>
    exact (hosted.discover_outlasts lasting _ _).bind fun _ => (hosted.retry_outlasts lasting _ _ _).bind fun _ =>
      (hosted.markDetached_outlasts lasting _ _ _).bind fun _ => outlasts_pure _

/-- Targets are found without any change, each with a registered subscriber. -/
theorem Hosts.targets_found (hosted : stage.Hosts engine) (criteria : FeedCriteria) (status : Status) (unit : WorkUnit)
    (system : σ) : ∃ targets later, engine.targets criteria status unit system = .ok (targets, later) system ∧
      ∀ target ∈ targets, target.subscriber ∈ engine.registry.subscribers := by
  -- A find in the store and in memory, neither of which changes the system.
  have fetched : engine.store.fetch (criteria.withStatuses [status]) system =
      .ok (Rows.find (stage.rows.read system) (criteria.withStatuses [status])) system := by
    rw [hosted.store]
    rfl
  let found := unit.trackAll (Rows.find (stage.rows.read system) (criteria.withStatuses [status]))
  refine ⟨found.1.filterMap fun subscription =>
    (engine.registry.get? subscription.id).map fun subscriber => { subscription, subscriber }, found.2, ?_, ?_⟩
  · simp [Engine.targets, WorkUnit.find, bind, EStateM.bind, fetched, pure, EStateM.pure, found]
  · -- Each of them has the subscriber of its id.
    intro target member
    obtain ⟨row, -, known⟩ := List.mem_filterMap.mp member
    obtain ⟨subscriber, registered, rfl⟩ := Option.map_eq_some_iff.mp known
    exact List.mem_of_find?_eq_some registered

/-- What a boot or a run under a limit comes to, if it has somebody to feed: of the messages above the lowest position
of its targets it reads as many as the limit, though one in any case, and all if there are fewer. It has read the log to
its end when there are fewer, and hands over no message but those that it has read. -/
def Limited (stage : Stage σ) (engine : Engine σ) (operation : Operation) (status : Status) (limit : Nat) (before : σ)
    (report : FeedReport) (after : σ) : Prop :=
  ∃ errors unit opened targets later, operation.prelude engine before = .ok (errors, unit) opened ∧
    engine.targets operation.criteria status unit opened = .ok (targets, later) opened ∧
    (targets ≠ [] → report.processed = min (max 1 limit) (stage.ahead targets opened).length ∧
      (report.finished = false ↔ max 1 limit ≤ (stage.ahead targets opened).length) ∧
      stage.Reports (Notice.Within (((stage.ahead targets opened).take (max 1 limit)).map Prod.fst)) before after)

/-- After what comes before its messages, a boot or a run reads up to its limit. -/
theorem Hosts.feed_limited (hosted : stage.Hosts engine)
    (behaves : ∀ subscriber ∈ engine.registry.subscribers, stage.Behaves subscriber) (operation : Operation)
    (status : Status) (limit : Nat) {idle : Notice} (quiet : idle.delivers = false)
    {change : Subscription → Action σ Subscription}
    (changes : ∀ {holds : σ → Prop}, stage.Lasting holds → ∀ row, Outlasts holds (change row)) (system : σ) :
    Meets (do
      let (errors, unit) ← operation.prelude engine
      let (targets, unit) ← engine.targets operation.criteria status unit
      engine.feed status (some limit) idle change errors targets unit) system
      (stage.Limited engine operation status limit system) fun _ _ => True := by
  -- The prelude delivers nothing, and then the targets are fixed before any message is read.
  have others : ∀ notice : Notice, notice.delivers = false → notice.delivers = false := fun _ other => other
  have silent := hosted.prelude_endures (reports_enduring _ system) others behaves operation system (reports_begin _ _)
  cases ready : operation.prelude engine system with
  | error abort middle => simp only [Meets, bind, EStateM.bind, ready]
  | ok result opened =>
    obtain ⟨errors, unit⟩ := result
    have begun := silent.of_ok ready
    apply Meets.run_bind ready
    obtain ⟨targets, later, found, registered⟩ := hosted.targets_found operation.criteria status unit opened
    apply Meets.run_bind found
    -- The messages that are read are known now, and so is the rule for what is handed over.
    let read := readUnder (some limit) (stage.ahead targets opened)
    have lawful : ∀ notice : Notice, notice.delivers = false → notice.Within (read.map Prod.fst) :=
      fun notice other => notice.within_of_other other _
    have enduring : stage.Enduring (Notice.Within (read.map Prod.fst))
        (stage.Reports (Notice.Within (read.map Prod.fst)) system) := reports_enduring _ system
    apply (hosted.feed_reads enduring lawful (fun id index => by intro _ _ _ same; cases same) quiet
      (changes (enduring.lasting lawful)) (fun target member => behaves _ (registered target member)) ?_
      (begun.mono lawful)).mono
    · intro report after ends
      obtain ⟨reads, reports⟩ := ends
      refine ⟨errors, unit, opened, targets, later, ready, found, fun somebody => ?_⟩
      obtain ⟨count, stop⟩ := reads somebody
      exact ⟨count.trans (length_readUnder _ _), stop ▸ exhausts_eq_false _ _, reports⟩
    · intro entry member id eventType other index kind same
      cases same
      exact List.mem_map_of_mem member

/-- Under a limit, a boot or a run reads as many messages as the limit or all that there are, where a limit of zero
counts as one. It has not read the log to its end exactly when there are as many as that, and it hands over no message
beyond them. Only a panic that nobody catches keeps it from returning. -/
theorem Hosts.reads_to_limit (hosted : stage.Hosts engine)
    (behaves : ∀ subscriber ∈ engine.registry.subscribers, stage.Behaves subscriber) (criteria : FeedCriteria)
    (limit : Nat) (system : σ) :
    Meets (engine.boot criteria (some limit)) system
        (stage.Limited engine (.boot criteria (some limit)) .booting limit system)
        (fun abort _ => (Rows.ids (stage.rows.read system)).Nodup → Panics engine abort) ∧
      Meets (engine.run criteria (some limit)) system
        (stage.Limited engine (.run criteria (some limit)) .active limit system)
        (fun abort _ => (Rows.ids (stage.rows.read system)).Nodup → Panics engine abort) := by
  -- Both are the same phases in the lock of the store, with a status and a last change of their own.
  have start : (Rows.ids (stage.rows.read system)).Nodup → ∀ operation : Operation,
      stage.Entered engine operation (stage.chronicle [] (stage.rows.read system) system) [] system :=
    fun distinct _ => ⟨distinct, .refl⟩
  constructor
  · have limited : Meets (engine.boot criteria (some limit)) system
        (stage.Limited engine (.boot criteria (some limit)) .booting limit system) fun _ _ => True := by
      rw [Engine.boot_eq]
      exact hosted.guarded_meets
        (hosted.feed_limited behaves (.boot criteria (some limit)) .booting limit rfl hosted.caughtUp_outlasts system)
    apply limited.granted fun distinct => (hosted.boot_enters behaves (start distinct _)).weaken
      (fun _ _ ends => ends) fun _ _ early => early.1
  · have limited : Meets (engine.run criteria (some limit)) system
        (stage.Limited engine (.run criteria (some limit)) .active limit system) fun _ _ => True := by
      have fed := hosted.feed_limited behaves (.run criteria (some limit)) .active limit
        (show Notice.nothingActive.delivers = false from rfl) hosted.keptUp_outlasts system
      simp only [Operation.prelude, bind_assoc, pure_bind] at fed
      exact hosted.guarded_meets fed
    apply limited.granted fun distinct => (hosted.run_enters behaves (start distinct _)).weaken
      (fun _ _ ends => ends) fun _ _ early => early.1

end Stage

namespace World

/-- An engine that feeds a single subscriber. -/
def solo : Engine World := feeder [reacting "steady" fun _ => .done] .never

/-- Of three messages, a boot under a limit of two reads the first two. -/
theorem solo_reads_to_limit :
    ((solo.boot {} (some 2)).outcome (telling ["a", "b", "c"])).1 = .ok ⟨2, false, []⟩ ∧
      Meets (solo.boot {} (some 2)) (telling ["a", "b", "c"])
        (stage.Limited solo (.boot {} (some 2)) .booting 2 (telling ["a", "b", "c"]))
        fun abort _ => (Rows.ids (stage.rows.read (telling ["a", "b", "c"]))).Nodup → Stage.Panics solo abort := by
  -- The outcome is computed, and the general theorem says what was told.
  have behaves : ∀ subscriber ∈ solo.registry.subscribers, stage.Behaves subscriber := by
    intro subscriber member
    obtain rfl := List.mem_singleton.mp member
    exact (reacting_contained ..).behaves
  exact ⟨by decide +kernel, (Stage.Hosts.reads_to_limit (hosts ..) behaves {} 2 (telling ["a", "b", "c"])).1⟩

/-- Under a limit of zero, a boot reads a message all the same, and hands it over. -/
theorem solo_reads_past_zero :
    ∃ report after, solo.boot {} (some 0) (telling ["a"]) = .ok report after ∧
      (stage.log (telling ["a"])).length = 1 ∧ report.processed ≠ min 0 1 ∧
      .dispatching "steady" 1 "plain" ∈ stage.journal after := by
  -- The outcome is computed first, both what is returned and what is told.
  have read : ((solo.boot {} (some 0)).outcome (telling ["a"])).1 = .ok ⟨1, false, []⟩ := by decide +kernel
  have told : .dispatching "steady" 1 "plain" ∈
      stage.journal ((solo.boot {} (some 0)).outcome (telling ["a"])).2 := by decide +kernel
  -- The boot returns with what was just seen.
  cases result : solo.boot {} (some 0) (telling ["a"]) with
  | error abort after =>
    rw [outcome, result] at read
    cases read
  | ok report after =>
    rw [outcome, result] at read told
    cases read
    exact ⟨_, _, rfl, by decide, by decide, told⟩

end World

end EventFeed
