import EventFeed.Proofs.Discovery
import EventFeed.Proofs.Tallies

/-! Farewells: a teardown calls the hooks of outdated subscriptions and keeps them all, a removal calls the hooks of the
subscriptions that are meant and deletes them all, whatever the hooks come to. -/

namespace EventFeed

open EventFeed.Action
open Subscription (unstamped)

variable {σ : Type}

/-- A call of subscriber code, and how it ended. -/
structure HookCall where
  /-- The id of the subscriber. -/
  id : String
  hook : HookName
  outcome : HandlerOutcome
deriving DecidableEq

/-- The failure that a call has come to, if it has failed. -/
def HookCall.failure? (call : HookCall) : Option SubscriptionFailure := call.outcome.failure? call.id

namespace Engine

/-- The teardown hook of the subscriber with an id, if there are both. -/
def teardownOf? (engine : Engine σ) (id : String) : Option (Hook σ) :=
  (engine.registry.get? id).bind Subscriber.teardown

/-- Those among some subscriptions whose subscribers have a teardown hook, in the same order. -/
def departing (engine : Engine σ) (rows : List Subscription) : List Subscription :=
  rows.filter fun row => (engine.teardownOf? row.id).isSome

end Engine

namespace Stage

/-- A view of the calls of subscriber code so far: each call of a hook or a handler of a registered subscriber adds
itself, and nothing that an engine does on its own adds anything. -/
structure Registers (stage : Stage σ) (engine : Engine σ) (record : σ → List HookCall) : Prop where
  observe : ∀ notice system, record (stage.observe notice system) = record system
  write : ∀ rows system, record (stage.rows.write rows system) = record system
  setup : ∀ subscriber ∈ engine.registry.subscribers, ∀ hook, subscriber.setup = some hook → ∀ system,
    record (hook system).2 = record system ++ [⟨subscriber.id, .setup, (hook system).1⟩]
  teardown : ∀ subscriber ∈ engine.registry.subscribers, ∀ hook, subscriber.teardown = some hook → ∀ system,
    record (hook system).2 = record system ++ [⟨subscriber.id, .teardown, (hook system).1⟩]
  handlers : ∀ subscriber ∈ engine.registry.subscribers, ∀ entry ∈ subscriber.handlers, ∃ place, ∀ message system,
    record (entry.handle message system).2 =
      record system ++ [⟨subscriber.id, .handler place, (entry.handle message system).1⟩]

/-- Between two systems the teardown hooks of some subscriptions have been called, those of subscribers that have one,
once each and in this order; no other code has been called, and these are the failures that the calls have come to. -/
def Departs (engine : Engine σ) (record : σ → List HookCall) (rows : List Subscription)
    (failures : List SubscriptionFailure) (before after : σ) : Prop :=
  ∃ calls, record after = record before ++ calls ∧
    calls.map (fun call => (call.id, call.hook)) =
      (engine.departing rows).map (fun row => (row.id, HookName.teardown)) ∧
    failures = calls.filterMap HookCall.failure?

variable {stage : Stage σ} {engine : Engine σ} {record : σ → List HookCall} {criteria : FeedCriteria}
variable {row : Subscription} {system : σ}

section Departs

variable {first second third : σ} {front back : List Subscription} {some more : List SubscriptionFailure}

/-- Where nothing has been recorded, nobody has departed. -/
theorem departs_nil (same : record second = record first) : Departs engine record [] [] first second :=
  ⟨[], by rw [same, List.append_nil], rfl, rfl⟩

/-- A subscription whose subscriber has no hook departs without a call. -/
theorem departs_silent (absent : engine.teardownOf? row.id = none) (same : record second = record first) :
    Departs engine record [row] [] first second :=
  ⟨[], by rw [same, List.append_nil], by simp [Engine.departing, absent], rfl⟩

/-- First some depart, and then others. -/
theorem Departs.trans (one : Departs engine record front some first second)
    (two : Departs engine record back more second third) :
    Departs engine record (front ++ back) (some ++ more) first third := by
  -- The calls of both stretches follow one another, and so do their failures.
  obtain ⟨calls, recorded, own, rfl⟩ := one
  obtain ⟨others, further, theirs, rfl⟩ := two
  exact ⟨calls ++ others, by rw [further, recorded, List.append_assoc],
    by simp [Engine.departing, own, theirs], List.filterMap_append.symm⟩

/-- What is not recorded may follow. -/
theorem Departs.rest (departs : Departs engine record front some first second) (same : record third = record second) :
    Departs engine record front some first third := by
  -- What is recorded is the same.
  obtain ⟨calls, recorded, own⟩ := departs
  exact ⟨calls, same.trans recorded, own⟩

/-- It may precede as well. -/
theorem Departs.begin (departs : Departs engine record front some second third) (same : record second = record first) :
    Departs engine record front some first third := by
  -- What is recorded is the same.
  obtain ⟨calls, recorded, own⟩ := departs
  exact ⟨calls, by rw [recorded, same], own⟩

end Departs

/-- A call gives what the code has come to, unless a panic ends everything. -/
theorem call_gives (id : String) (hook : Hook σ) (system : σ) :
    Meets (engine.call hook) system (fun result after => after = (hook system).2 ∧
      failuresOf id result = ((hook system).1.failure? id).toList)
      (fun abort after => Panics engine abort ∧ after = (hook system).2) := by
  -- The system is the one that the code has left, whatever has become of the call.
  unfold Meets Engine.call
  rcases hook system with ⟨outcome, next⟩
  cases outcome with
  | done => exact ⟨rfl, rfl⟩
  | failed error => exact ⟨rfl, rfl⟩
  | panicked payload =>
    cases caught : engine.config.catchPanics with
    | true => exact ⟨rfl, rfl⟩
    | false => exact ⟨⟨caught, payload, rfl⟩, rfl⟩

section Hooks

variable (hosted : stage.Hosts engine) (caught : engine.config.catchPanics = true)
  (behaves : ∀ subscriber ∈ engine.registry.subscribers, stage.Behaves subscriber)
  (registers : stage.Registers engine record)

include caught behaves registers in
/-- The hook of a subscription that departs is called, and the rows stay. -/
theorem call_departs {hook : Hook σ} (declared : engine.teardownOf? row.id = some hook) (system : σ) :
    Ends (engine.call hook) system fun result after => stage.rows.read after = stage.rows.read system ∧
      Departs engine record [row] (failuresOf row.id result) system after := by
  -- The hook belongs to a registered subscriber with the id of the row.
  obtain ⟨subscriber, known, declares⟩ := Option.bind_eq_some_iff.mp declared
  have registered := List.mem_of_find?_eq_some known
  have named : subscriber.id = row.id := by simpa using List.find?_some known
  refine ends_of_caught caught ((call_gives row.id hook system).mono ?_)
  rintro result after ⟨rfl, failures⟩
  refine ⟨((behaves subscriber registered).teardown hook declares system).rows,
    [⟨row.id, .teardown, (hook system).1⟩], ?_, by simp [Engine.departing, declared], ?_⟩
  · rw [registers.teardown subscriber registered hook declares system, named]
  · rw [failures]
    cases failed : (hook system).1.failure? row.id <;> simp [HookCall.failure?, failed]

include hosted registers in
/-- A failure of a hook is reported as it was captured. -/
theorem Hosts.teardownFailure_run (error : HandlerError) (system : σ) :
    Ends (engine.teardownFailure row error) system fun failure after => failure = ⟨row.id, .ofHandler error⟩ ∧
      stage.rows.read after = stage.rows.read system ∧ record after = record system :=
  hosted.note_meets (Meets.pure ⟨rfl, stage.read_observe _ _, registers.observe _ _⟩)

include hosted caught behaves registers

/-- A subscription is torn down, and stays. -/
theorem Hosts.teardownOne_departs (failures : List SubscriptionFailure) (row : Subscription) (system : σ) :
    Ends (engine.teardownOne failures row) system fun next after => stage.rows.read after = stage.rows.read system ∧
      ∃ more, next = failures ++ more ∧ Departs engine record [row] more system after := by
  -- Without a hook nothing departs, whatever is reported.
  have silent : ∀ notice, engine.teardownOf? row.id = none →
      stage.rows.read (stage.observe notice system) = stage.rows.read system ∧
        ∃ more, failures = failures ++ more ∧ Departs engine record [row] more system (stage.observe notice system) :=
    fun notice absent => ⟨stage.read_observe _ _, [], by simp, departs_silent absent (registers.observe _ _)⟩
  unfold Engine.teardownOne
  split
  · -- Without a subscriber there is no hook.
    rename_i unknown
    exact hosted.note_meets (Meets.pure (silent _ (by simp [Engine.teardownOf?, unknown])))
  rename_i subscriber known
  split
  · rename_i without
    exact hosted.note_meets (Meets.pure (silent _ (by simp [Engine.teardownOf?, known, without])))
  rename_i hook declared
  have own : engine.teardownOf? row.id = some hook := by simp [Engine.teardownOf?, known, declared]
  refine (call_departs caught behaves registers own system).bind fun result middle ends => ?_
  obtain ⟨rows, departs⟩ := ends
  cases result with
  | ok _ =>
    exact hosted.note_meets (Meets.pure ⟨(stage.read_observe _ _).trans rows, [], by simp,
      departs.rest (registers.observe _ _)⟩)
  | error error =>
    refine (hosted.teardownFailure_run registers error middle).bind fun failure after ends => ?_
    obtain ⟨rfl, same, recorded⟩ := ends
    exact Meets.pure ⟨same.trans rows, _, rfl, departs.rest recorded⟩

/-- A subscription that is removed is torn down in the same way. -/
theorem Hosts.farewell_departs (row : Subscription) (system : σ) :
    Ends (engine.farewell row) system fun failures after => stage.rows.read after = stage.rows.read system ∧
      Departs engine record [row] failures system after := by
  -- Without a hook nothing departs, and otherwise the hook is called first.
  unfold Engine.farewell
  split
  · rename_i absent
    exact Meets.pure ⟨rfl, departs_silent absent rfl⟩
  rename_i hook declared
  refine (call_departs caught behaves registers declared system).bind fun result middle ends => ?_
  obtain ⟨rows, departs⟩ := ends
  cases result with
  | ok _ => exact Meets.pure ⟨rows, departs⟩
  | error error =>
    refine (hosted.teardownFailure_run registers error middle).bind fun failure after ends => ?_
    obtain ⟨rfl, same, recorded⟩ := ends
    exact Meets.pure ⟨same.trans rows, departs.rest recorded⟩

/-- Then it is deleted, and no other one is. -/
theorem Hosts.removeOne_departs (state : List SubscriptionFailure × WorkUnit) (row : Subscription) (system : σ) :
    Ends (engine.removeOne state row) system fun next after =>
      stage.rows.read after = Rows.remove (stage.rows.read system) row.id ∧
        ∃ more, next.1 = state.1 ++ more ∧ Departs engine record [row] more system after := by
  -- The row is deleted after its farewell, which has left the rows as they were.
  refine (hosted.farewell_departs caught behaves registers row system).bind fun failures middle ends => ?_
  obtain ⟨rows, departs⟩ := ends
  refine Meets.run_bind (hosted.remove_run state.2 row middle) (hosted.note_meets (Meets.pure ?_))
  exact ⟨by simp [rows], failures, rfl, departs.rest ((registers.observe _ _).trans (registers.write _ _))⟩

/-- Subscriptions are torn down one after another. -/
theorem Hosts.teardown_all (found : List Subscription) (system : σ) :
    Ends (found.foldlM engine.teardownOne []) system fun failures after =>
      stage.rows.read after = stage.rows.read system ∧ Departs engine record found failures system after := by
  -- The subscriptions that are done have departed, and nothing is known of those that are left.
  refine (Meets.foldlM (fun failures left between => ∃ done, found = done ++ left ∧
    stage.rows.read between = stage.rows.read system ∧ Departs engine record done failures system between) ?_ found []
    system ⟨[], rfl, rfl, departs_nil rfl⟩).mono ?_
  · rintro failures row rest between ⟨done, rfl, rows, departs⟩
    refine (hosted.teardownOne_departs caught behaves registers failures row between).mono ?_
    rintro next after ⟨same, more, rfl, further⟩
    exact ⟨done ++ [row], by simp, same.trans rows, departs.trans further⟩
  · rintro failures after ⟨done, rfl, rows, departs⟩
    rw [List.append_nil]
    exact ⟨rows, departs⟩

/-- Subscriptions are removed one after another, and what is left are the rows with other ids. -/
theorem Hosts.remove_all (found : List Subscription) (unit : WorkUnit) (system : σ) :
    Ends (found.foldlM engine.removeOne ([], unit)) system fun state after =>
      stage.rows.read after = (stage.rows.read system).filter (fun row => decide (row.id ∉ Rows.ids found)) ∧
        Departs engine record found state.1 system after := by
  -- As before, and no row has the id of one that is done.
  refine (Meets.foldlM (fun state left between => ∃ done, found = done ++ left ∧
    stage.rows.read between = (stage.rows.read system).filter (fun row => decide (row.id ∉ Rows.ids done)) ∧
    Departs engine record done state.1 system between) ?_ found ([], unit) system
    ⟨[], rfl, by simp, departs_nil rfl⟩).mono ?_
  · rintro ⟨failures, unit⟩ row rest between ⟨done, rfl, rows, departs⟩
    refine (hosted.removeOne_departs caught behaves registers (failures, unit) row between).mono ?_
    rintro next after ⟨removed, more, grown, further⟩
    refine ⟨done ++ [row], by simp, ?_, grown ▸ departs.trans further⟩
    -- One more id is missing.
    rw [removed, rows, Rows.remove, List.filter_filter]
    refine List.filter_congr fun other _ => Bool.eq_iff_iff.mpr ?_
    simp [and_comm]
  · rintro state after ⟨done, rfl, rows, departs⟩
    rw [List.append_nil]
    exact ⟨rows, departs⟩

end Hooks

/-- Discovery calls nobody. -/
theorem Hosts.discover_silent (hosted : stage.Hosts engine) (registers : stage.Registers engine record)
    (criteria : FeedCriteria) (system : σ) :
    Meets (engine.discover criteria {}) system (fun _ after => record after = record system) fun _ _ => True := by
  -- Reports and writes are nothing to the record.
  have lasting : stage.Lasting fun between => record between = record system :=
    ⟨fun _ same => (registers.observe _ _).trans same, fun same => (registers.write _ _).trans same⟩
  exact hosted.discover_outlasts lasting criteria {} system rfl

/-- No new row is outdated. -/
theorem find_outdated {rows added : List Subscription} {subscribers : List (Subscriber σ)}
    (fields : added.map unstamped = freshRows subscribers) :
    Rows.find (rows ++ added) (criteria.withStatuses [.outdated]) =
      Rows.find rows (criteria.withStatuses [.outdated]) := by
  -- A row that was just added is new.
  have none : Rows.find added (criteria.withStatuses [.outdated]) = [] := by
    refine List.filter_eq_nil_iff.mpr fun row member => ?_
    have fresh : row.unstamped ∈ freshRows subscribers := fields ▸ List.mem_map_of_mem member
    obtain ⟨subscriber, -, own⟩ := List.mem_map.mp fresh
    have status : row.status = .new := (congrArg Subscription.status own).symm
    simp [SubscriptionCriteria.admits, FeedCriteria.withStatuses, anyOf, status]
  rw [Rows.find, List.filter_append]
  simp only [Rows.find] at none ⊢
  rw [none, List.append_nil]

/-- A teardown keeps, and a removal deletes. Both discover first, and then call the teardown hooks of the subscriptions
that they are for, once each and in the order of the store, and no other code: the outdated ones that are meant, or all
that are meant, new ones included. A teardown leaves every row that was there as it was. A removal leaves the rows that
are not meant, in their order and with all of their fields, and no other ones, whatever the hooks come to. What is
returned are the failures of the hooks, in that order and as they were captured. -/
theorem Hosts.teardown_keeps_remove_deletes (hosted : stage.Hosts engine) (caught : engine.config.catchPanics = true)
    (behaves : ∀ subscriber ∈ engine.registry.subscribers, stage.Behaves subscriber)
    (single : (engine.registry.subscribers.map Subscriber.id).Nodup) (registers : stage.Registers engine record)
    (distinct : (Rows.ids (stage.rows.read system)).Nodup) (criteria : FeedCriteria) :
    Ends (engine.teardown criteria) system (fun failures after =>
      (∃ added, stage.rows.read after = stage.rows.read system ++ added ∧ added.map unstamped =
        freshRows (newcomers criteria (stage.rows.read system) engine.registry.subscribers)) ∧
      Departs engine record (Rows.find (stage.rows.read system) (criteria.withStatuses [.outdated])) failures system
        after) ∧
    Ends (engine.remove criteria) system (fun failures after =>
      (∃ added, added.map unstamped =
          freshRows (newcomers criteria (stage.rows.read system) engine.registry.subscribers) ∧
        Departs engine record (Rows.find (stage.rows.read system ++ added) criteria.toSubscriptions) failures system
          after) ∧
      stage.rows.read after = (stage.rows.read system).filter fun row => !criteria.toSubscriptions.admits row) := by
  -- The discovery is the same for both, and calls nobody.
  have reconciles : Ends (engine.discover criteria {}) system (stage.Reconciled engine criteria system) :=
    hosted.discover_reconciles single distinct
  have discovers := reconciles.also (hosted.discover_silent registers criteria system)
  constructor
  · refine hosted.guarded_meets (discovers.bind fun unit middle ends => ?_)
    obtain ⟨reconciled, silent⟩ := ends
    obtain rfl := reconciled.unit
    obtain ⟨added, stored, fields, -⟩ := reconciled.rows
    refine Meets.run_bind (hosted.find_run reconciled.distinct _) ?_
    refine (hosted.teardown_all caught behaves registers _ middle).mono fun failures after ends => ?_
    obtain ⟨rows, departs⟩ := ends
    rw [stored, find_outdated fields] at departs
    exact ⟨⟨added, rows.trans stored, fields⟩, departs.begin silent⟩
  · refine hosted.guarded_meets (discovers.bind fun unit middle ends => ?_)
    obtain ⟨reconciled, silent⟩ := ends
    obtain rfl := reconciled.unit
    obtain ⟨added, stored, fields, meant⟩ := reconciled.rows
    refine Meets.run_bind (hosted.find_run reconciled.distinct _) ?_
    refine (hosted.remove_all caught behaves registers _ _ middle).bind fun state after ends => Meets.pure ?_
    obtain ⟨rows, departs⟩ := ends
    rw [Rows.filter_found reconciled.distinct, stored, List.filter_append] at rows
    rw [stored] at departs
    -- Whoever is discovered is meant, and goes at once.
    have gone : added.filter (fun row => !criteria.toSubscriptions.admits row) = [] :=
      List.filter_eq_nil_iff.mpr fun row member => by simp [meant row member]
    rw [gone, List.append_nil] at rows
    exact ⟨⟨added, fields, departs.begin silent⟩, rows⟩

end Stage

namespace World

/-- How calls end on one farewell tour: one subscriber fails when it is torn down, and another one panics. -/
def partingVerdict (note : CallNote) : HandlerOutcome :=
  if note.hook = .teardown ∧ note.name = "stubborn" then .failed { error := ⟨"still busy", []⟩ }
  else if note.hook = .teardown ∧ note.name = "jumpy" then .panicked .other
  else .done

/-- The last call decides how it ends. -/
def partingJudge (calls : List CallNote) : HandlerOutcome := (calls.getLast?.map partingVerdict).getD .done

/-- A subscriber with a teardown hook. -/
def parting (id : String) : Subscriber World :=
  { reacting id partingJudge with teardown := some (react partingJudge { name := id, hook := .teardown }) }

/-- Four subscribers with teardown hooks, and one without. -/
def tour : List (Subscriber World) :=
  [parting "novel", parting "stubborn", parting "calm", reacting "mute" partingJudge, parting "jumpy"]

/-- None of them touches rows or reports. -/
theorem tour_behaves : ∀ subscriber ∈ tour, stage.Behaves subscriber := by
  -- Some of them have a teardown hook too, which does as little as the others.
  have quiet : ∀ id, stage.Behaves (reacting id partingJudge) := fun id => (reacting_contained ..).behaves
  have torn : ∀ id, stage.Behaves (parting id) := by
    refine fun id => ⟨(quiet id).setup, fun hook declared => ?_, (quiet id).handlers⟩
    obtain rfl := Option.some.inj declared
    exact (react_noted partingJudge _).onward
  intro subscriber member
  simp only [tour, List.mem_cons, List.not_mem_nil, or_false] at member
  rcases member with rfl | rfl | rfl | rfl | rfl <;> first | exact torn _ | exact quiet _

/-- The calls on the tour, and how they ended. -/
def partings (world : World) : List HookCall :=
  world.calls.map fun note => ⟨note.name, note.hook, partingVerdict note⟩

/-- Each call adds itself. -/
theorem partings_react (note : CallNote) (world : World) :
    partings (react partingJudge note world).2 =
      partings world ++ [⟨note.name, note.hook, (react partingJudge note world).1⟩] := by
  simp [partings, react, noteCall, partingJudge]

/-- They can be told from the journal of calls. -/
theorem tour_registers (retry : RetryStrategy) : stage.Registers (feeder tour retry) partings := by
  -- Each of them reacts to whatever it is called for, and notes the call.
  have shape : ∀ subscriber ∈ tour, (∀ hook, subscriber.setup = some hook →
      hook = react partingJudge { name := subscriber.id, hook := .setup }) ∧
      (∀ hook, subscriber.teardown = some hook →
        hook = react partingJudge { name := subscriber.id, hook := .teardown }) ∧
      ∀ entry ∈ subscriber.handlers, ∀ message,
        entry.handle message = react partingJudge (handlerNote subscriber.id message 0) := by
    intro subscriber member
    simp only [tour, List.mem_cons, List.not_mem_nil, or_false] at member
    rcases member with rfl | rfl | rfl | rfl | rfl <;> simp [parting, reacting, eq_comm]
  refine ⟨fun _ _ => rfl, fun _ _ => rfl, fun subscriber member hook declared world => ?_,
    fun subscriber member hook declared world => ?_, fun subscriber member entry own => ⟨0, fun message world => ?_⟩⟩
  · rw [(shape subscriber member).1 hook declared]
    exact partings_react _ world
  · rw [(shape subscriber member).2.1 hook declared]
    exact partings_react _ world
  · rw [(shape subscriber member).2.2 entry own message]
    exact partings_react _ world

/-- A world at the end of a tour: somebody who is registered has no row, and somebody who has one is not registered. -/
def encore : World :=
  { rows := [{ id := "jumpy", status := .outdated }, { id := "gone", status := .outdated },
      { id := "mute", status := .outdated, position := 4 }, { id := "calm", status := .active, position := 9 },
      { id := "stubborn", status := .outdated, lastSavedAt := some ⟨1⟩ }] }

/-- Everybody but one. -/
def allButCalm : FeedCriteria := { ids := some ["jumpy", "gone", "mute", "stubborn", "novel"] }

/-- A teardown calls the two outdated subscribers with hooks, and a removal calls the newcomer as well and leaves the
row that is not meant. -/
theorem encore_keeps_and_deletes :
    partings (((feeder tour .never).teardown allButCalm).outcome encore).2 =
        [⟨"jumpy", .teardown, .panicked .other⟩,
          ⟨"stubborn", .teardown, .failed { error := ⟨"still busy", []⟩ }⟩] ∧
      (partings (((feeder tour .never).remove allButCalm).outcome encore).2).map HookCall.id =
        ["jumpy", "stubborn", "novel"] ∧
      (((feeder tour .never).remove allButCalm).outcome encore).2.rows =
        [{ id := "calm", status := .active, position := 9 }] ∧
      Ends ((feeder tour .never).remove allButCalm) encore (fun failures after => ∃ added,
        Stage.Departs (feeder tour .never) partings (Rows.find (encore.rows ++ added) allButCalm.toSubscriptions)
          failures encore after) := by
  have laws := Stage.Hosts.teardown_keeps_remove_deletes (hosts tour .never {}) rfl tour_behaves (by decide)
    (tour_registers .never) (show (Rows.ids (stage.rows.read encore)).Nodup by decide) allButCalm
  refine ⟨by decide +kernel, by decide +kernel, by decide +kernel, laws.2.mono fun failures after ends => ?_⟩
  obtain ⟨⟨added, -, departs⟩, -⟩ := ends
  exact ⟨added, departs⟩

end World

end EventFeed
