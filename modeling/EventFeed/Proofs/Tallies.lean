import EventFeed.Proofs.Operations
import EventFeed.Proofs.Reactions

/-! Tallies: a boot and a run report what went wrong in subscriber code, all of it, in order and nothing else. -/

namespace EventFeed

open EventFeed.Action

variable {σ : Type}

/-- The failure that a report tells of, if it tells of one. -/
def Notice.failure? : Notice → Option SubscriptionFailure
  | failed id _ _ error => some ⟨id, error⟩
  | _ => none

/-- The failures that some reports tell of, in order. -/
def failuresIn (notices : List Notice) : List SubscriptionFailure := notices.filterMap Notice.failure?

@[simp] theorem failuresIn_nil : failuresIn [] = [] := rfl

@[simp] theorem failuresIn_append (front back : List Notice) :
    failuresIn (front ++ back) = failuresIn front ++ failuresIn back := List.filterMap_append

/-- What a call of subscriber code counts as for its subscriber: a failure, unless it ends well. -/
def HandlerOutcome.failure? (id : String) (outcome : HandlerOutcome) : Option SubscriptionFailure :=
  outcome.error?.map fun error => ⟨id, .ofHandler error⟩

/-- Whether a report is one that an engine makes while it keeps its subscriptions in order. -/
def Notice.routine : Notice → Bool
  | discovered .. => true
  | notice => notice.quiet

/-- Such a report tells of no failure. -/
theorem Notice.failure?_of_routine {notice : Notice} (routine : notice.routine = true) : notice.failure? = none := by
  cases notice <;> first | rfl | cases routine

namespace Stage

variable {stage : Stage σ} {engine : Engine σ}

/-- What lasts while an engine keeps its subscriptions in order: it outlasts routine reports and writes to the rows. -/
structure Lasting (stage : Stage σ) (holds : σ → Prop) : Prop where
  observe : ∀ {notice system}, notice.routine = true → holds system → holds (stage.observe notice system)
  write : ∀ {rows system}, holds system → holds (stage.rows.write rows system)

/-- What holds of a system holds of the system that a computation leaves when it returns. -/
def Outlasts {α : Type} (holds : σ → Prop) (action : Action σ α) : Prop :=
  ∀ system, holds system → Meets action system (fun _ after => holds after) fun _ _ => True

section Routine

variable {holds : σ → Prop}

/-- A computation that does nothing. -/
theorem outlasts_pure {α : Type} (value : α) : Outlasts holds (pure value : Action σ α) :=
  fun _ held => Meets.pure held

/-- One computation after another. -/
theorem Outlasts.bind {α β : Type} {action : Action σ α} {next : α → Action σ β} (first : Outlasts holds action)
    (rest : ∀ value, Outlasts holds (next value)) : Outlasts holds (action >>= next) :=
  fun system held => (first system held).bind fun value after => rest value after

/-- One step after another, over a list. -/
theorem outlasts_foldlM {α β : Type} {step : β → α → Action σ β}
    (steps : ∀ state item, Outlasts holds (step state item)) (items : List α) (state : β) :
    Outlasts holds (items.foldlM step state) :=
  fun system held => Meets.foldlM (fun _ _ between => holds between)
    (fun state item _ between => steps state item between) items state system held

/-- One step for each member of a list. -/
theorem outlasts_mapM {α β : Type} {step : α → Action σ β} (steps : ∀ item, Outlasts holds (step item))
    (items : List α) : Outlasts holds (items.mapM step) :=
  fun system held => Meets.mapM (fun _ _ between => holds between)
    (fun _ item _ between => steps item between) items [] system held

variable (hosted : stage.Hosts engine) (lasting : stage.Lasting holds)

include hosted lasting

/-- A routine report. -/
theorem Hosts.note_outlasts {notice : Notice} (routine : notice.routine = true) : Outlasts holds (engine.note notice) :=
  fun system held => Meets.of_run (hosted.note_run notice system) (lasting.observe routine held)

omit lasting in
/-- Finding subscriptions. -/
theorem Hosts.find_outlasts (unit : WorkUnit) (criteria : SubscriptionCriteria) :
    Outlasts holds (unit.find engine.store criteria) := by
  -- The rows are read, and nothing else is touched.
  intro system held
  have run : engine.store.fetch criteria system = .ok (Rows.find (stage.rows.read system) criteria) system := by
    rw [hosted.store]
    rfl
  exact Meets.run_bind run (Meets.pure held)

/-- Writing what is kept back. -/
theorem Hosts.flush_outlasts (unit : WorkUnit) : Outlasts holds (unit.flush engine.store) := by
  -- A tracked row is added or updated, or left where it is stored already.
  have written : ∀ write subscription, Outlasts holds
      (SubscriptionStore.written (SubscriptionStore.writeRows stage.rows stage.now write subscription)) := by
    intro write subscription system held
    unfold Meets SubscriptionStore.written Action.ofStep SubscriptionStore.writeRows
    cases result : write (stage.rows.read system) (subscription.markSaved (stage.now system)) with
    | error error => simp [result, Except.map]
    | ok next => simpa [result, Except.map] using lasting.write held
  refine (outlasts_mapM (fun tracked => ?_) unit.rows).bind fun rows => outlasts_pure _
  unfold WorkUnit.flushRow
  rw [hosted.store]
  split
  · refine Outlasts.bind ?_ fun saved => outlasts_pure _
    split
    · exact written _ _
    · exact written _ _
  · exact outlasts_pure _

/-- Discovery. -/
theorem Hosts.discover_outlasts (criteria : FeedCriteria) (unit : WorkUnit) :
    Outlasts holds (engine.discover criteria unit) := by
  -- A find, a step for each subscriber that may report, and a flush.
  refine (hosted.find_outlasts unit _).bind fun found => ?_
  refine (outlasts_foldlM (fun unit subscriber => ?_) _ _).bind fun unit =>
    (hosted.flush_outlasts lasting unit).bind fun flushed => outlasts_pure _
  unfold Engine.discoverOne
  split
  · exact (hosted.note_outlasts lasting rfl).bind fun _ => outlasts_pure _
  · exact outlasts_pure _

/-- Retries. -/
theorem Hosts.retry_outlasts (criteria : FeedCriteria) (failedIn : List Status) (unit : WorkUnit) :
    Outlasts holds (engine.retry criteria failedIn unit) := by
  -- A find, a step for each failed row, and a flush.
  refine (hosted.find_outlasts unit _).bind fun found => ?_
  refine (outlasts_foldlM (fun unit row => ?_) _ _).bind fun unit =>
    (hosted.flush_outlasts lasting unit).bind fun flushed => outlasts_pure _
  unfold Engine.retryOne
  split
  · exact outlasts_pure _
  · -- Whatever is decided is reported.
    refine Outlasts.bind (fun system held => held) fun system => ?_
    split
    · exact (hosted.note_outlasts lasting rfl).bind fun _ => outlasts_pure _
    · split
      · exact (hosted.note_outlasts lasting rfl).bind fun _ => outlasts_pure _
      · exact (hosted.note_outlasts lasting rfl).bind fun _ => outlasts_pure _

/-- Detachment. -/
theorem Hosts.markDetached_outlasts (criteria : FeedCriteria) (statuses : List Status) (unit : WorkUnit) :
    Outlasts holds (engine.markDetached criteria statuses unit) := by
  -- A find, a step for each row that may report, and a flush.
  refine (hosted.find_outlasts unit _).bind fun found => ?_
  refine (outlasts_foldlM (fun unit row => ?_) _ _).bind fun unit =>
    (hosted.flush_outlasts lasting unit).bind fun flushed => outlasts_pure _
  unfold Engine.detachOne
  split
  · exact outlasts_pure _
  · exact (hosted.note_outlasts lasting rfl).bind fun _ => outlasts_pure _

omit lasting in
/-- Looking for targets: each of them has the subscriber of its id. -/
theorem Hosts.targets_outlasts (criteria : FeedCriteria) (status : Status) (unit : WorkUnit) {system : σ}
    (held : holds system) :
    Meets (engine.targets criteria status unit) system (fun result after => holds after ∧
      ∀ target ∈ result.1, engine.registry.get? target.subscription.id = some target.subscriber) fun _ _ => True := by
  -- What is found is filtered by what the registry knows.
  refine (hosted.find_outlasts unit _ system held).bind fun found after held =>
    Meets.pure ⟨held, fun target member => ?_⟩
  obtain ⟨row, -, known⟩ := List.mem_filterMap.mp member
  obtain ⟨subscriber, registered, rfl⟩ := Option.map_eq_some_iff.mp known
  exact registered

/-- Writing targets. -/
theorem Hosts.persist_outlasts (unit : WorkUnit) (targets : List (Target σ)) :
    Outlasts holds (engine.persist unit targets) :=
  (hosted.flush_outlasts lasting _).bind fun _ => outlasts_pure _

/-- The end of a subscription that is done with the log. -/
theorem Hosts.finish_outlasts (row : Subscription) : Outlasts holds (engine.finish row) :=
  (hosted.note_outlasts lasting rfl).bind fun _ => outlasts_pure _

/-- What becomes of a subscription that has caught up. -/
theorem Hosts.caughtUp_outlasts (row : Subscription) : Outlasts holds (engine.caughtUp row) := by
  -- It is finished, or its new status is reported.
  unfold Engine.caughtUp
  split
  · exact hosted.finish_outlasts lasting row
  · exact (hosted.note_outlasts lasting rfl).bind fun _ => outlasts_pure _

/-- What becomes of an active subscription at the end of the log. -/
theorem Hosts.keptUp_outlasts (row : Subscription) : Outlasts holds (engine.keptUp row) := by
  -- It is finished, or nothing is said about it.
  unfold Engine.keptUp
  split
  · exact hosted.finish_outlasts lasting row
  · exact outlasts_pure _

omit hosted lasting

/-- Targets that are changed one after another. -/
theorem settleTargets_outlasts {status : Status} {change : Subscription → Action σ Subscription}
    (changes : ∀ row, Outlasts holds (change row)) (targets : List (Target σ)) :
    Outlasts holds (Engine.settleTargets status change targets) := by
  -- A target is changed only where it has the status.
  refine outlasts_mapM (fun target => ?_) targets
  split
  · exact (changes _).bind fun _ => outlasts_pure _
  · exact outlasts_pure _

end Routine

/-- A view of what has gone wrong in subscriber code so far: each call of a setup hook or a handler that does not end
well adds to it, and nothing that an engine does itself. -/
structure Reckons (stage : Stage σ) (engine : Engine σ) (faults : σ → List SubscriptionFailure) : Prop where
  observe : ∀ notice system, faults (stage.observe notice system) = faults system
  write : ∀ rows system, faults (stage.rows.write rows system) = faults system
  setup : ∀ subscriber ∈ engine.registry.subscribers, ∀ hook, subscriber.setup = some hook → ∀ system,
    faults (hook system).2 = faults system ++ ((hook system).1.failure? subscriber.id).toList
  handlers : ∀ subscriber ∈ engine.registry.subscribers, ∀ entry ∈ subscriber.handlers, ∀ message system,
    faults (entry.handle message system).2 =
      faults system ++ ((entry.handle message system).1.failure? subscriber.id).toList

/-- Between two systems some failures have happened, and no others. -/
def Adds (stage : Stage σ) (engine : Engine σ) (failures : List SubscriptionFailure) (before after : σ) : Prop :=
  ∀ faults, stage.Reckons engine faults → faults after = faults before ++ failures

/-- Since a beginning, some failures have happened and were reported, and no others. -/
structure Tallied (stage : Stage σ) (engine : Engine σ) (begun : σ) (failures : List SubscriptionFailure) (system : σ) :
    Prop where
  journal : ∃ notices, stage.journal system = stage.journal begun ++ notices ∧ failuresIn notices = failures
  adds : stage.Adds engine failures begun system

/-- The failure of a subscriber that a call has come to, if it has failed. -/
def failuresOf (id : String) : Except HandlerError Unit → List SubscriptionFailure
  | .ok _ => []
  | .error error => [⟨id, .ofHandler error⟩]

section Tallies

variable {begun system : σ} {failures : List SubscriptionFailure}

/-- At the beginning nothing has happened. -/
theorem tallied_begin (begun : σ) : stage.Tallied engine begun [] begun :=
  ⟨⟨[], by simp⟩, fun _ _ => (List.append_nil _).symm⟩

/-- A report that tells of no failure makes no difference. -/
theorem Tallied.observe (tallied : stage.Tallied engine begun failures system) {notice : Notice}
    (other : notice.failure? = none) : stage.Tallied engine begun failures (stage.observe notice system) := by
  -- The failures that are told are the same, and so is what the faults come to.
  obtain ⟨⟨notices, journal, told⟩, adds⟩ := tallied
  refine ⟨⟨notices ++ [notice], by simp [journal], ?_⟩, fun faults reckons =>
    (reckons.observe notice system).trans (adds faults reckons)⟩
  rw [failuresIn_append, told, failuresIn, List.filterMap_cons_none other, List.filterMap_nil, List.append_nil]

/-- What has happened and was reported stays so while an engine keeps its subscriptions in order. -/
theorem tallied_lasting : stage.Lasting (stage.Tallied engine begun failures) where
  observe routine tallied := tallied.observe (Notice.failure?_of_routine routine)
  write tallied := ⟨by simpa using tallied.journal, fun faults reckons =>
    (reckons.write _ _).trans (tallied.adds faults reckons)⟩

/-- A call adds to what has gone wrong what it comes to, and reports nothing. -/
theorem call_adds {id : String} {hook : Hook σ} (discreet : stage.Discreet hook)
    (counts : ∀ system, stage.Adds engine ((hook system).1.failure? id).toList system (hook system).2) (system : σ) :
    Meets (engine.call hook) system (fun result after => stage.journal after = stage.journal system ∧
      stage.Adds engine (failuresOf id result) system after) fun _ _ => True := by
  -- A call itself reports nothing; what it comes to was counted by the hook.
  have silent := (discreet system).journal
  have counted := counts system
  unfold Meets Engine.call
  rcases result : hook system with ⟨outcome, next⟩
  simp only [result] at silent counted ⊢
  cases outcome with
  | done => exact ⟨silent, counted⟩
  | failed error => exact ⟨silent, counted⟩
  | panicked payload =>
    cases caught : engine.config.catchPanics with
    | true => exact ⟨silent, counted⟩
    | false => trivial

/-- Handlers are called up to the first one that fails, and so one failure is added at most. -/
theorem callAll_adds {id : String} {message : Message} (handlers : List (Handler σ))
    (discreet : ∀ handler ∈ handlers, stage.Discreet (handler message))
    (counts : ∀ handler ∈ handlers, ∀ system,
      stage.Adds engine ((handler message system).1.failure? id).toList system (handler message system).2)
    (system : σ) :
    Meets (engine.callAll message handlers) system (fun result after => stage.journal after = stage.journal system ∧
      stage.Adds engine (failuresOf id result) system after) fun _ _ => True := by
  -- The induction is on the handlers that are left.
  induction handlers generalizing system with
  | nil => exact Meets.pure ⟨rfl, fun _ _ => (List.append_nil _).symm⟩
  | cons handler rest ih =>
    refine (call_adds (discreet handler (by simp)) (counts handler (by simp)) system).bind fun result middle ends => ?_
    obtain ⟨silent, counted⟩ := ends
    cases result with
    | error error => exact Meets.pure ⟨silent, counted⟩
    | ok _ =>
      -- So far nothing has gone wrong.
      refine (ih (fun other member => discreet other (by simp [member]))
        (fun other member => counts other (by simp [member])) middle).mono fun result after further => ?_
      refine ⟨further.1.trans silent, fun faults reckons => (further.2 faults reckons).trans ?_⟩
      rw [counted faults reckons, failuresOf, List.append_nil]

/-- Handing over a message adds what it comes to, and reports nothing. -/
theorem handle_adds {subscriber : Subscriber σ} (behaves : stage.Behaves subscriber)
    (registered : subscriber ∈ engine.registry.subscribers) (message : Message) (system : σ) :
    Meets (engine.handle subscriber message) system (fun result after => stage.journal after = stage.journal system ∧
      stage.Adds engine (failuresOf subscriber.id result) system after) fun _ _ => True := by
  -- The handlers for an event type are among the handlers of the subscriber.
  refine callAll_adds _ (fun handler member => ?_) (fun handler member system faults reckons => ?_) system
  · obtain ⟨entry, selected, rfl⟩ := List.mem_map.mp member
    exact behaves.handlers entry (List.mem_filter.mp selected).1 message
  · obtain ⟨entry, selected, rfl⟩ := List.mem_map.mp member
    exact reckons.handlers subscriber registered entry (List.mem_filter.mp selected).1 message system

/-- A failure that has happened is reported, and then counted once. -/
theorem Tallied.fail {after : σ} {row : Subscription} {error : HandlerError}
    (tallied : stage.Tallied engine begun failures system) (silent : stage.journal after = stage.journal system)
    (adds : stage.Adds engine (failuresOf row.id (.error error)) system after) :
    stage.Tallied engine begun (failures ++ [⟨row.id, .ofHandler error⟩])
      (stage.observe (.failed row.id row.status row.position (.ofHandler error)) after) := by
  -- The failure is the last one that is told, and the last one that is counted.
  obtain ⟨⟨notices, journal, told⟩, before⟩ := tallied
  refine ⟨⟨notices ++ [.failed row.id row.status row.position (.ofHandler error)], ?_, ?_⟩, fun faults reckons => ?_⟩
  · rw [stage.journal_observe, silent, journal, List.append_assoc]
  · rw [failuresIn_append, told]
    rfl
  · rw [reckons.observe, adds faults reckons, before faults reckons, List.append_assoc]
    rfl

/-- Where nothing has gone wrong, nothing has to be reported. -/
theorem Tallied.silent {after : σ} {id : String} (tallied : stage.Tallied engine begun failures system)
    (silent : stage.journal after = stage.journal system)
    (adds : stage.Adds engine (failuresOf id (.ok ())) system after) : stage.Tallied engine begun failures after :=
  ⟨silent ▸ tallied.journal, fun faults reckons =>
    (adds faults reckons).trans ((List.append_nil _).trans (tallied.adds faults reckons))⟩

variable (hosted : stage.Hosts engine)

include hosted

/-- A subscription that has been set up starts. -/
theorem Hosts.start_tallied (state : Engine.SetupState) (row : Subscription)
    (tallied : stage.Tallied engine begun state.errors system) :
    Meets (engine.start state row) system (fun next after => stage.Tallied engine begun next.errors after)
      fun _ _ => True := by
  -- The start is reported, whichever it is, and tells of no failure.
  unfold Engine.start
  split
  · -- Looking up the end of the log changes nothing.
    exact Meets.run_bind (hosted.latestOnce_run _ _) (hosted.note_meets (Meets.pure (tallied.observe rfl)))
  · exact hosted.note_meets (Meets.pure (tallied.observe rfl))

variable (behaves : ∀ subscriber ∈ engine.registry.subscribers, stage.Behaves subscriber)

include behaves in
/-- A failure of a setup hook is added to the failures. -/
theorem Hosts.setupOne_tallied (state : Engine.SetupState) (row : Subscription)
    (tallied : stage.Tallied engine begun state.errors system) :
    Meets (engine.setupOne state row) system (fun next after => stage.Tallied engine begun next.errors after)
      fun _ _ => True := by
  -- The cases are those of the program, and only a hook that fails adds a failure.
  unfold Engine.setupOne
  split
  · exact Meets.pure tallied
  rename_i subscriber found
  have registered := List.mem_of_find?_eq_some found
  have named : subscriber.id = row.id := by simpa using List.find?_some found
  split
  · exact hosted.start_tallied state row tallied
  rename_i hook declared
  refine (call_adds ((behaves subscriber registered).setup hook declared) (fun system faults reckons =>
    reckons.setup subscriber registered hook declared system) system).bind fun result middle ends => ?_
  obtain ⟨silent, counted⟩ := ends
  cases result with
  | error error =>
    rw [named] at counted
    exact Meets.run_bind (hosted.fail_run row error middle) (Meets.pure (tallied.fail silent counted))
  | ok _ =>
    -- Nothing has gone wrong in the hook.
    exact hosted.note_meets (hosted.start_tallied state row ((tallied.silent silent counted).observe rfl))

include behaves in
/-- The failures of the setup phase are those of the setup hooks. -/
theorem Hosts.setupNew_tallied (criteria : FeedCriteria) (unit : WorkUnit)
    (tallied : stage.Tallied engine begun [] system) :
    Meets (engine.setupNew criteria unit) system (fun result after => stage.Tallied engine begun result.1 after)
      fun _ _ => True := by
  -- The failures are followed through the fold of the setups, and the writes leave them.
  refine (hosted.find_outlasts unit _ system tallied).bind fun found one tallied => ?_
  refine (Meets.foldlM (fun (state : Engine.SetupState) _ between => stage.Tallied engine begun state.errors between)
    (fun state row _ between => hosted.setupOne_tallied behaves state row) found.1 { unit := found.2 } one
    tallied).bind fun state two tallied => ?_
  exact (hosted.flush_outlasts tallied_lasting state.unit two tallied).bind fun flushed after tallied =>
    Meets.pure tallied

include behaves in
/-- A failure of a handler is given back with its target. -/
theorem Hosts.offer_tallied {target : Target σ}
    (found : engine.registry.get? target.subscription.id = some target.subscriber) {status : Status} {index : Nat}
    {message : Message} (tallied : stage.Tallied engine begun failures system) :
    Meets (engine.offer status index message target) system (fun offered after =>
      engine.registry.get? offered.1.subscription.id = some offered.1.subscriber ∧
        stage.Tallied engine begun (failures ++ offered.2.toList) after) fun _ _ => True := by
  -- The cases are those of the offer, and only a handler that fails adds a failure.
  have same : failures ++ (none : Option SubscriptionFailure).toList = failures := List.append_nil _
  unfold Engine.offer
  simp only
  split
  · exact Meets.pure ⟨found, same.symm ▸ tallied⟩
  split
  · exact hosted.note_meets (Meets.pure ⟨found, same.symm ▸ tallied.observe rfl⟩)
  apply hosted.note_meets
  have handed : stage.Tallied engine begun failures
      (stage.observe (.dispatching target.subscription.id index message.eventType) system) := tallied.observe rfl
  have registered := List.mem_of_find?_eq_some found
  have named : target.subscriber.id = target.subscription.id := by simpa using List.find?_some found
  refine (handle_adds (behaves _ registered) registered message _).bind fun result middle ends => ?_
  obtain ⟨silent, counted⟩ := ends
  rw [named] at counted
  cases result with
  | error error =>
    exact Meets.run_bind (hosted.fail_run target.subscription error middle)
      (Meets.pure ⟨found, handed.fail silent counted⟩)
  | ok _ =>
    exact hosted.note_meets (Meets.pure ⟨found, same.symm ▸ (handed.silent silent counted).observe rfl⟩)

/-- A window whose targets have the subscribers of their ids, and whose failures are those that have happened. -/
structure Trued (stage : Stage σ) (engine : Engine σ) (begun : σ) (window : Window σ)
    (system : σ) : Prop where
  found : ∀ target ∈ window.targets, engine.registry.get? target.subscription.id = some target.subscriber
  tallied : stage.Tallied engine begun window.errors system

include behaves in
/-- A message is offered to everybody in order, and so its failures come in order. -/
theorem Hosts.offerAll_trued {status : Status} {index : Nat} {message : Message} {window : Window σ}
    (trued : stage.Trued engine begun window system) :
    Meets (engine.offerAll status index message window) system
      (fun next after => stage.Trued engine begun next after) fun _ _ => True := by
  -- The targets that are done have added their failures in order, and those that are left none.
  refine Meets.bind (Meets.mapM (fun done left between =>
    (∀ target ∈ done.map Prod.fst ++ left, engine.registry.get? target.subscription.id = some target.subscriber) ∧
    stage.Tallied engine begun (window.errors ++ done.filterMap Prod.snd) between) ?_ window.targets [] system
    ⟨by simpa using trued.found, by simpa using trued.tallied⟩) fun offered after ends =>
      Meets.pure ⟨by simpa using ends.1, by simpa using ends.2⟩
  intro done target left between ends
  obtain ⟨found, tallied⟩ := ends
  refine (hosted.offer_tallied behaves (found target (by simp)) tallied).mono fun result after ends => ?_
  obtain ⟨own, tallied⟩ := ends
  refine ⟨fun other member => ?_, ?_⟩
  · -- The target is still one of those of the window.
    simp only [List.map_append, List.map_cons, List.map_nil, List.append_assoc, List.mem_append, List.mem_cons,
      List.not_mem_nil, or_false] at member
    rcases member with front | rfl | back
    · exact found other (List.mem_append_left _ front)
    · exact own
    · exact found other (by simp [back])
  · rw [List.filterMap_append, ← List.append_assoc]
    cases failed : result.2 <;> simpa [failed] using tallied

/-- Writing a window changes neither its targets nor its failures. -/
theorem Hosts.persistWindow_trued {window : Window σ} (trued : stage.Trued engine begun window system) :
    Meets (engine.persistWindow window) system (fun next after => stage.Trued engine begun next after)
      fun _ _ => True :=
  (hosted.persist_outlasts tallied_lasting _ _ system trued.tallied).bind fun _ _ tallied =>
    Meets.pure ⟨trued.found, tallied⟩

include behaves in
/-- The failures of a window are those that its messages came to, one message after another. -/
theorem Hosts.deliver_trued {status : Status} {limit : Option Nat} (items : List LogItem) (window : Window σ)
    (trued : stage.Trued engine begun window system) :
    Meets (engine.deliver status limit window items) system
      (fun next after => stage.Trued engine begun next after) fun _ _ => True := by
  -- The induction is on the items that are left.
  induction items generalizing window system with
  | nil => exact Meets.pure ⟨trued.found, trued.tallied⟩
  | cons item rest ih =>
    cases item with
    | error error => trivial
    | ok entry =>
      have read : Action.ofExcept (.ok entry : Except EngineError (Nat × Message)) system = .ok entry system := rfl
      refine Meets.run_bind read ((hosted.offerAll_trued behaves trued).bind fun offered one trued => ?_)
      -- A write may be due, and ends the window at the limit.
      refine Meets.bind (?_ : Meets (engine.flushWhenDue offered) one
        (fun next after => stage.Trued engine begun next after) fun _ _ => True) fun flushed two trued => ?_
      · unfold Engine.flushWhenDue
        split
        · exact (hosted.persistWindow_trued trued).bind fun saved after trued =>
            Meets.pure ⟨trued.found, trued.tallied⟩
        · exact Meets.pure trued
      · split
        · exact hosted.persistWindow_trued trued
        · exact ih flushed trued

include behaves

/-- The failures of the feeding come after those of the setup. -/
theorem Hosts.feed_tallied {status : Status} {limit : Option Nat} {idle : Notice}
    {change : Subscription → Action σ Subscription} (routine : idle.routine = true)
    (changes : ∀ failures row, Outlasts (stage.Tallied engine begun failures) (change row))
    {targets : List (Target σ)} {unit : WorkUnit}
    (found : ∀ target ∈ targets, engine.registry.get? target.subscription.id = some target.subscriber)
    (tallied : stage.Tallied engine begun failures system) :
    Meets (engine.feed status limit idle change failures targets unit) system
      (fun report after => stage.Tallied engine begun report.errors after) fun _ _ => True := by
  -- Where nobody is fed, only that is reported; else a window is processed, and its targets are settled.
  unfold Engine.feed
  split
  · exact hosted.note_meets (Meets.pure (tallied.observe (Notice.failure?_of_routine routine)))
  refine Meets.bind (?_ : Meets (engine.process status limit { unit, targets, errors := failures }) system
    (fun next after => stage.Tallied engine begun next.errors after) fun _ _ => True) fun window one tallied => ?_
  · -- Loading messages is reported, and changes nothing.
    refine hosted.note_meets (Meets.run_bind (hosted.load_run _ _) ?_)
    exact (hosted.deliver_trued behaves _ _ ⟨found, tallied.observe rfl⟩).mono fun _ _ trued => trued.tallied
  · split
    · refine (settleTargets_outlasts (changes window.errors) window.targets one tallied).bind fun next two tallied => ?_
      exact (hosted.persist_outlasts tallied_lasting _ _ two tallied).bind fun unit after tallied =>
        Meets.pure tallied
    · exact Meets.pure tallied

/-- A boot reports what goes wrong in setup hooks and handlers. -/
theorem Hosts.boot_tallied (criteria : FeedCriteria) (limit : Option Nat) (system : σ) :
    Meets (engine.boot criteria limit) system
      (fun report after => stage.Tallied engine system report.errors after) fun _ _ => True := by
  -- The first three phases add no failure, the setups add theirs, and the feeding goes on from them.
  apply hosted.guarded_meets
  have lasting : stage.Lasting (stage.Tallied engine system []) := tallied_lasting
  refine (hosted.discover_outlasts lasting _ _ system (tallied_begin system)).bind fun unit one tallied => ?_
  refine (hosted.retry_outlasts lasting _ _ unit one tallied).bind fun unit two tallied => ?_
  refine (hosted.markDetached_outlasts lasting _ _ unit two tallied).bind fun unit three tallied => ?_
  refine (hosted.setupNew_tallied behaves _ unit tallied).bind fun result four tallied => ?_
  refine (hosted.targets_outlasts _ _ result.2 tallied).bind fun found five ends => ?_
  exact hosted.feed_tallied behaves rfl (fun failures row => hosted.caughtUp_outlasts tallied_lasting row)
    ends.2 ends.1

/-- A run reports what goes wrong in handlers. -/
theorem Hosts.run_tallied (criteria : FeedCriteria) (limit : Option Nat) (system : σ) :
    Meets (engine.run criteria limit) system
      (fun report after => stage.Tallied engine system report.errors after) fun _ _ => True := by
  -- The first three phases add no failure, so the feeding begins with none.
  apply hosted.guarded_meets
  have lasting : stage.Lasting (stage.Tallied engine system []) := tallied_lasting
  refine (hosted.discover_outlasts lasting _ _ system (tallied_begin system)).bind fun unit one tallied => ?_
  refine (hosted.retry_outlasts lasting _ _ unit one tallied).bind fun unit two tallied => ?_
  refine (hosted.markDetached_outlasts lasting _ _ unit two tallied).bind fun unit three tallied => ?_
  refine (hosted.targets_outlasts _ _ unit tallied).bind fun found four ends => ?_
  exact hosted.feed_tallied behaves rfl (fun failures row => hosted.keptUp_outlasts tallied_lasting row)
    ends.2 ends.1

end Tallies

end Stage

end EventFeed
