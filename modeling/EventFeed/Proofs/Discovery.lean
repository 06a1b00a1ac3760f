import EventFeed.Proofs.Operations
import EventFeed.Proofs.World

/-! Discovery as a reconciliation of the store with the registered subscribers: it adds what is missing, leaves the
rest as it is, and does nothing the second time. -/

namespace EventFeed

open EventFeed.Action
open Subscription (unstamped)

variable {σ : Type}

namespace WorkUnit

/-- The unit that knows some rows as they are stored, and keeps others back that are not. -/
def expecting (rows fresh : List Subscription) : WorkUnit :=
  ⟨(clean rows).rows ++ fresh.map fun draft => ⟨draft, none⟩⟩

/-- Rows that are tracked as they are stored are not written. -/
theorem flushRows_clean (store : SubscriptionStore σ) (rows : List Subscription) (system : σ) :
    (clean rows).rows.mapM (flushRow store) system = .ok (clean rows).rows system := by
  -- No row differs from what is stored of it, so the rest is gone through on the same system.
  induction rows with
  | nil => rfl
  | cons row rest ih =>
    have own : flushRow store ⟨row, some row⟩ system = .ok ⟨row, some row⟩ system := by
      simp [flushRow, TrackedRow.isDirty, pure, EStateM.pure]
    simp only [clean, List.map_cons] at ih ⊢
    rw [List.mapM_cons]
    simp [bind, EStateM.bind, own, ih, pure, EStateM.pure]

/-- A unit that knows the rows as they are stored writes nothing. -/
theorem flush_clean (store : SubscriptionStore σ) (rows : List Subscription) (system : σ) :
    (clean rows).flush store system = .ok (0, clean rows) system := by
  -- Nothing that is known as it is stored is dirty, so the count is zero.
  have tidy : (clean rows).rows.countP TrackedRow.isDirty = 0 := by
    refine List.countP_eq_zero.mpr fun tracked member => ?_
    obtain ⟨row, -, rfl⟩ := List.mem_map.mp member
    simp [TrackedRow.isDirty]
  simp [flush, bind, EStateM.bind, flushRows_clean, pure, EStateM.pure, tidy]

end WorkUnit

namespace Stage

variable {stage : Stage σ} {engine : Engine σ} {criteria : FeedCriteria}

/-- The subscribers among some that are meant and have no row, in their order. -/
def newcomers (criteria : FeedCriteria) (rows : List Subscription) (subscribers : List (Subscriber σ)) :
    List (Subscriber σ) :=
  subscribers.filter fun subscriber =>
    criteria.admits subscriber.id subscriber.group && decide (subscriber.id ∉ Rows.ids rows)

/-- The rows of some subscribers, as discovery adds them. -/
def freshRows (subscribers : List (Subscriber σ)) : List Subscription := subscribers.map Engine.freshSubscription

/-- The report of a newcomer. -/
def introduction (subscriber : Subscriber σ) : Notice := .discovered subscriber.id subscriber.group

/-- A subscriber that is not meant, or has a row, is passed over. -/
theorem discoverOne_known {known : List String} {unit : WorkUnit} {subscriber : Subscriber σ}
    (unwanted : ¬ (criteria.admits subscriber.id subscriber.group = true ∧ subscriber.id ∉ known)) :
    engine.discoverOne criteria known unit subscriber = pure unit := if_neg unwanted

/-- For a newcomer a row is kept back behind the others, and that is reported. -/
theorem Hosts.discoverOne_newcomer (hosted : stage.Hosts engine) {rows fresh : List Subscription}
    {subscriber : Subscriber σ} (distinct : (Rows.ids (rows ++ fresh)).Nodup)
    (meant : criteria.admits subscriber.id subscriber.group = true)
    (absent : subscriber.id ∉ Rows.ids (rows ++ fresh)) (system : σ) :
    engine.discoverOne criteria (Rows.ids rows) (.expecting rows fresh) subscriber system =
      .ok (.expecting rows (fresh ++ [Engine.freshSubscription subscriber]))
        (stage.observe (introduction subscriber) system) := by
  -- The subscriber has no row yet, neither stored nor kept back.
  rw [Rows.ids_append, List.mem_append, not_or] at absent
  obtain ⟨unstored, unlisted⟩ := absent
  -- No row with the id has been kept back yet, so this one takes no other one's place.
  have grown : (WorkUnit.expecting rows fresh).add (Engine.freshSubscription subscriber) =
      .expecting rows (fresh ++ [Engine.freshSubscription subscriber]) := by
    have last : Rows.enlist (Engine.freshSubscription subscriber) fresh =
        fresh ++ [Engine.freshSubscription subscriber] := if_neg unlisted
    rw [← last]
    exact WorkUnit.add_fresh distinct unstored
  rw [Engine.discoverOne, if_pos ⟨meant, unstored⟩, hosted.note_bind, grown]
  rfl

/-- Going through subscribers of distinct ids keeps a row back for each newcomer among them, in their order, and
writes nothing. -/
theorem Hosts.enlist_ends (hosted : stage.Hosts engine) {rows : List Subscription} :
    ∀ (subscribers : List (Subscriber σ)) (fresh : List Subscription) (system : σ),
      (Rows.ids (rows ++ fresh)).Nodup → (subscribers.map Subscriber.id).Nodup →
      (∀ id ∈ Rows.ids fresh, id ∉ subscribers.map Subscriber.id) →
      Ends (subscribers.foldlM (engine.discoverOne criteria (Rows.ids rows)) (.expecting rows fresh)) system
        fun unit after => unit = .expecting rows (fresh ++ freshRows (newcomers criteria rows subscribers)) ∧
          (Rows.ids (rows ++ (fresh ++ freshRows (newcomers criteria rows subscribers)))).Nodup ∧
          stage.rows.read after = stage.rows.read system ∧ stage.log after = stage.log system ∧
          stage.calls after = stage.calls system ∧ stage.journal after =
            stage.journal system ++ (newcomers criteria rows subscribers).map introduction := by
  -- The rows that are kept back for the first subscribers stand in front of those for the others.
  intro subscribers
  induction subscribers with
  | nil => exact fun fresh system distinct _ _ => Meets.pure (by simpa [newcomers, freshRows] using distinct)
  | cons subscriber rest ih =>
    intro fresh system distinct single apart
    simp only [List.map_cons, List.nodup_cons] at single
    have apartRest : ∀ id ∈ Rows.ids fresh, id ∉ rest.map Subscriber.id :=
      fun id old later => apart id old (by simp [later])
    rw [List.foldlM_cons]
    by_cases wanted : criteria.admits subscriber.id subscriber.group = true ∧ subscriber.id ∉ Rows.ids rows
    · -- The row of a newcomer has an id of its own.
      have absent : subscriber.id ∉ Rows.ids (rows ++ fresh) := by
        rw [Rows.ids_append, List.mem_append, not_or]
        exact ⟨wanted.2, fun old => apart _ old (by simp)⟩
      have joined : newcomers criteria rows (subscriber :: rest) =
          subscriber :: newcomers criteria rows rest := by simp [newcomers, wanted.1, wanted.2]
      apply Meets.run_bind (hosted.discoverOne_newcomer distinct wanted.1 absent system)
      apply (ih (fresh ++ [Engine.freshSubscription subscriber]) _ ?_ single.2 ?_).mono
      · intro unit after ends
        simpa [joined, freshRows] using ends
      · rw [← List.append_assoc, Rows.ids_append]
        refine distinct.append (by simp) fun id old new => ?_
        obtain rfl : id = subscriber.id := by simpa [Rows.ids, Engine.freshSubscription] using new
        exact absent old
      · -- No later subscriber has the id of this one.
        intro id old later
        rw [Rows.ids_append, List.mem_append] at old
        rcases old with old | own
        · exact apartRest id old later
        · obtain rfl : id = subscriber.id := by simpa [Rows.ids, Engine.freshSubscription] using own
          exact single.1 later
    · -- Any other subscriber makes no difference.
      have passed : newcomers criteria rows (subscriber :: rest) = newcomers criteria rows rest := by
        have unmeant : (criteria.admits subscriber.id subscriber.group &&
            decide (subscriber.id ∉ Rows.ids rows)) = false := by simpa [not_and] using wanted
        simp only [newcomers, List.filter_cons, unmeant, Bool.false_eq_true, if_false]
      rw [discoverOne_known wanted, pure_bind, passed]
      exact ih fresh system distinct single.2 apartRest

/-- Storing rows that are kept back leaves the stored rows as they are, and adds the others behind them. -/
theorem Hosts.flush_expecting (hosted : stage.Hosts engine) {fresh : List Subscription} {system : σ}
    (apart : (Rows.ids (stage.rows.read system ++ fresh)).Nodup) :
    Ends ((WorkUnit.expecting (stage.rows.read system) fresh).flush engine.store) system fun flushed after =>
      stage.Aside system after ∧ flushed.2 = .clean (stage.rows.read after) ∧ ∃ added,
        stage.rows.read after = stage.rows.read system ++ added ∧ added.map unstamped = fresh.map unstamped := by
  -- The unit consists of two parts, which are written one after another.
  unfold WorkUnit.flush WorkUnit.expecting
  rw [List.mapM_append, bind_assoc]
  -- The rows that are known as they are stored come first.
  apply Meets.run_bind (WorkUnit.flushRows_clean _ _ _)
  rw [bind_assoc]
  apply Meets.bind (hosted.addRows_ends _ _ system rfl apart)
  intro saved after ends
  obtain ⟨aside, added, rfl, stored, fields⟩ := ends
  exact Meets.pure ⟨aside, by simp [WorkUnit.clean, stored], added, stored, fields⟩

/-- A row that is added for a subscriber that is meant is meant, too. -/
theorem admits_fresh {subscriber : Subscriber σ} (meant : criteria.admits subscriber.id subscriber.group = true)
    {row : Subscription} (fields : row.unstamped = Engine.freshSubscription subscriber) :
    criteria.toSubscriptions.admits row = true := by
  -- Neither of the two restrictions looks at a status.
  have id : row.id = subscriber.id := congrArg Subscription.id fields
  have group : row.group = subscriber.group := congrArg Subscription.group fields
  have same : criteria.toSubscriptions.admits row = criteria.admits row.id row.group := by
    simp [SubscriptionCriteria.admits, FeedCriteria.toSubscriptions, FeedCriteria.admits, anyOf]
  rw [same, id, group, meant]

/-- What discovery does to a store: the rows that were there stay as they are, and behind them comes one new row for
each newcomer, in the order of registration. -/
structure Reconciled (stage : Stage σ) (engine : Engine σ) (criteria : FeedCriteria) (before : σ) (unit : WorkUnit)
    (after : σ) : Prop where
  unit : unit = .clean (stage.rows.read after)
  rows : ∃ added, stage.rows.read after = stage.rows.read before ++ added ∧
    added.map unstamped = freshRows (newcomers criteria (stage.rows.read before) engine.registry.subscribers) ∧
    ∀ row ∈ added, criteria.toSubscriptions.admits row = true
  distinct : (Rows.ids (stage.rows.read after)).Nodup
  log : stage.log after = stage.log before
  calls : stage.calls after = stage.calls before
  journal : stage.journal after = stage.journal before ++
    (newcomers criteria (stage.rows.read before) engine.registry.subscribers).map introduction

/-- Discovery reconciles the store with the registered subscribers. -/
theorem Hosts.discover_reconciles (hosted : stage.Hosts engine)
    (single : (engine.registry.subscribers.map Subscriber.id).Nodup) {system : σ}
    (distinct : (Rows.ids (stage.rows.read system)).Nodup) :
    Ends (engine.discover criteria {}) system (stage.Reconciled engine criteria system) := by
  -- The newcomers are collected first, and their rows are stored at the end.
  apply Meets.run_bind (hosted.find_all_run distinct)
  have empty : WorkUnit.clean (stage.rows.read system) = .expecting (stage.rows.read system) [] := by
    simp [WorkUnit.expecting, WorkUnit.clean]
  rw [empty]
  apply Meets.bind (hosted.enlist_ends engine.registry.subscribers [] system (by simpa using distinct) single
    (by simp))
  intro unit middle ends
  rw [List.nil_append] at ends
  obtain ⟨rfl, apart, rows, log, calls, journal⟩ := ends
  rw [← rows] at apart ⊢
  apply Meets.bind (hosted.flush_expecting apart)
  intro flushed after ends
  obtain ⟨count, unit⟩ := flushed
  obtain ⟨aside, rfl, added, stored, fields⟩ := ends
  -- A new row has no stamp before it is written.
  have bare : ∀ subscribers : List (Subscriber σ), (freshRows subscribers).map unstamped = freshRows subscribers := by
    intro subscribers
    simp only [freshRows, List.map_map]
    rfl
  refine Meets.pure ⟨rfl, ⟨added, by rw [stored, rows], by rw [fields, bare, rows], fun row member => ?_⟩, ?_,
    aside.log.trans log, aside.calls.trans calls, by rw [aside.journal, journal]⟩
  · -- Each of the new rows belongs to a newcomer, who is meant.
    have present : row.unstamped ∈ added.map unstamped := List.mem_map_of_mem member
    rw [fields, bare] at present
    obtain ⟨subscriber, joined, own⟩ := List.mem_map.mp present
    have meant := (List.mem_filter.mp joined).2
    rw [Bool.and_eq_true] at meant
    exact admits_fresh meant.1 own.symm
  · -- The new rows have the ids of the newcomers.
    rw [stored, Rows.ids_append, Rows.ids_of_unstamped fields, ← Rows.ids_append]
    exact apart

/-- Where nobody is new, discovery does nothing. -/
theorem Hosts.discover_idle (hosted : stage.Hosts engine) {system : σ}
    (distinct : (Rows.ids (stage.rows.read system)).Nodup)
    (known : ∀ subscriber ∈ engine.registry.subscribers, criteria.admits subscriber.id subscriber.group = true →
      subscriber.id ∈ Rows.ids (stage.rows.read system)) :
    engine.discover criteria {} system = .ok (.clean (stage.rows.read system)) system := by
  -- Each subscriber is passed over, so the unit stays clean.
  have passed : ∀ subscribers : List (Subscriber σ),
      (∀ subscriber ∈ subscribers, subscriber ∈ engine.registry.subscribers) →
      subscribers.foldlM (engine.discoverOne criteria (Rows.ids (stage.rows.read system)))
        (WorkUnit.clean (stage.rows.read system)) = pure (.clean (stage.rows.read system)) := by
    intro subscribers registered
    induction subscribers with
    | nil => rfl
    | cons subscriber rest ih =>
      have unwanted : ¬ (criteria.admits subscriber.id subscriber.group = true ∧
          subscriber.id ∉ Rows.ids (stage.rows.read system)) :=
        fun wanted => wanted.2 (known subscriber (registered subscriber (by simp)) wanted.1)
      rw [List.foldlM_cons, discoverOne_known unwanted, pure_bind]
      exact ih fun other member => registered other (by simp [member])
  have listed := passed engine.registry.subscribers fun _ member => member
  unfold Rows.ids at listed
  simp [Engine.discover, bind, EStateM.bind, hosted.find_all_run distinct, listed, pure, EStateM.pure,
    WorkUnit.flush_clean]

/-- After discovery everybody who is meant has a row. -/
theorem Reconciled.complete {before after : σ} {unit : WorkUnit}
    (reconciled : stage.Reconciled engine criteria before unit after) :
    ∀ subscriber ∈ engine.registry.subscribers, criteria.admits subscriber.id subscriber.group = true →
      subscriber.id ∈ Rows.ids (stage.rows.read after) := by
  -- Whoever has no row before is given one.
  obtain ⟨added, stored, fields, -⟩ := reconciled.rows
  intro subscriber registered meant
  rw [stored, Rows.ids_append, List.mem_append]
  by_cases old : subscriber.id ∈ Rows.ids (stage.rows.read before)
  · exact Or.inl old
  · -- Whoever had no row is a newcomer.
    have joined : subscriber ∈ newcomers criteria (stage.rows.read before) engine.registry.subscribers :=
      List.mem_filter.mpr ⟨registered, by simp [meant, old]⟩
    have present : Engine.freshSubscription subscriber ∈ added.map unstamped :=
      fields ▸ List.mem_map_of_mem joined
    obtain ⟨row, member, own⟩ := List.mem_map.mp present
    have named : row.id = subscriber.id := congrArg Subscription.id own
    exact Or.inr (named ▸ Rows.id_mem_ids member)

/-- Whatever an engine is asked to do, it starts with discovery. -/
theorem Hosts.perform_discovers (hosted : stage.Hosts engine) (operation : Operation) :
    ∃ rest : WorkUnit → Action σ Unit,
      operation.perform engine = engine.discover operation.criteria {} >>= rest := by
  -- What follows differs from operation to operation.
  cases operation <;>
  · simp only [Operation.perform, Engine.boot, Engine.run, Engine.teardown, Engine.remove, Engine.reactivate,
      Engine.pause, Engine.subscriptions, hosted.guarded_eq, bind_assoc]
    exact ⟨_, rfl⟩

/-- What is listed after discovery. -/
theorem Hosts.subscriptions_run (hosted : stage.Hosts engine) {system after : σ}
    (discovered : engine.discover criteria {} system = .ok (.clean (stage.rows.read after)) after)
    (distinct : (Rows.ids (stage.rows.read after)).Nodup) :
    engine.subscriptions criteria system =
      .ok (Rows.find (stage.rows.read after) criteria.toSubscriptions) after := by
  -- The list is what is found after discovery, and finding fails with nothing.
  simp [Engine.subscriptions, hosted.guarded_eq, bind, EStateM.bind, discovered, hosted.find_run distinct, pure,
    EStateM.pure]

/-- Discovery is an idempotent reconciliation: it adds a new row for each newcomer and nothing else, and the second time
it does nothing. Every operation starts with it, and goes on from where it ends, on the store before it as on the one
that it leaves. So listing subscriptions twice in a row writes nothing the second time, and gives the same list. -/
theorem Hosts.discovery_idempotent (hosted : stage.Hosts engine)
    (single : (engine.registry.subscribers.map Subscriber.id).Nodup) {system : σ}
    (distinct : (Rows.ids (stage.rows.read system)).Nodup) (criteria : FeedCriteria) :
    Ends (engine.discover criteria {}) system fun unit after =>
      stage.Reconciled engine criteria system unit after ∧ engine.discover criteria {} after = .ok unit after ∧
      (∀ operation : Operation, operation.criteria = criteria → ∃ rest : WorkUnit → Action σ Unit,
        operation.perform engine = engine.discover criteria {} >>= rest ∧
        operation.perform engine system = rest unit after ∧ operation.perform engine after = rest unit after) ∧
      ∃ listed, engine.subscriptions criteria system = .ok listed after ∧
        engine.subscriptions criteria after = .ok listed after := by
  -- The first discovery leaves a store on which the second one is idle.
  have reconciles : Ends (engine.discover criteria {}) system (stage.Reconciled engine criteria system) :=
    hosted.discover_reconciles single distinct
  obtain ⟨unit, after, run, reconciled⟩ := reconciles.run
  obtain rfl := reconciled.unit
  -- Nobody is new any more.
  have again := hosted.discover_idle reconciled.distinct reconciled.complete
  refine Meets.of_run run ⟨reconciled, again, fun operation meant => ?_, _,
    hosted.subscriptions_run run reconciled.distinct, hosted.subscriptions_run again reconciled.distinct⟩
  -- Both runs go on from the same store with the same unit of work.
  obtain ⟨rest, shape⟩ := hosted.perform_discovers operation
  rw [meant] at shape
  exact ⟨rest, shape, by simp only [shape, bind, EStateM.bind, run],
    by simp only [shape, bind, EStateM.bind, again]⟩

end Stage

namespace World

/-- Three subscribers, the last of which wants the messages of the past only. -/
def crew : List (Subscriber World) :=
  [reacting "first" fun _ => .done, reacting "second" fun _ => .done, reacting "third" (fun _ => .done) .once]

/-- All subscriptions but the second. -/
def selection : FeedCriteria := { ids := some ["third", "old", "first"] }

/-- A world in which only somebody who is no longer registered has a row. -/
def hiring : World :=
  { clock := ⟨⟨7⟩⟩, rows := [{ id := "old", status := .active, position := 3, lastSavedAt := some ⟨5⟩ }] }

/-- The world after discovery. -/
def hired : World := (((feeder crew .never).discover selection {}).outcome hiring).2

/-- The old row keeps its stamp, the two newcomers follow in the order of registration, and that is all. -/
theorem hiring_idempotent :
    (stage.rows.read hired).map (fun row => (row.id, row.runMode, row.status, row.lastSavedAt)) =
        [("old", .fromBeginning, .active, some ⟨5⟩), ("first", .fromBeginning, .new, some ⟨7⟩),
          ("third", .once, .new, some ⟨7⟩)] ∧
      ∃ unit, stage.Reconciled (feeder crew .never) selection hiring unit hired ∧
        (feeder crew .never).discover selection {} hired = .ok unit hired := by
  -- The general theorem gives what discovery leaves, and the rows are computed.
  have idempotent := Stage.Hosts.discovery_idempotent (hosts crew .never {}) (by decide)
    (show (Rows.ids (stage.rows.read hiring)).Nodup by decide) selection
  obtain ⟨unit, after, run, reconciled, again, -⟩ := idempotent.run
  have same : hired = after := by simp only [hired, outcome, run]
  exact ⟨by decide +kernel, unit, same ▸ reconciled, same ▸ again⟩

end World

end EventFeed
