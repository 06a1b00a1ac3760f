import EventFeed.Proofs.Bonds

/-! Operations in tandem: on systems with a bond, every operation gives the same answer, and leaves systems with that
bond. -/

namespace EventFeed

open EventFeed.Action
open WorkUnit (Even)

/-- What an operation gives back. -/
inductive Operation.Answer where
  | report (report : FeedReport)
  | failures (failures : List SubscriptionFailure)
  | found (rows : List Subscription)
  | done
deriving DecidableEq

/-- Does what an engine is asked to do, and gives back what it returns. -/
def Operation.ask {σ : Type} (engine : Engine σ) : Operation → Action σ Answer
  | boot criteria limit => return .report (← engine.boot criteria limit)
  | run criteria limit => return .report (← engine.run criteria limit)
  | teardown criteria => return .failures (← engine.teardown criteria)
  | remove criteria => return .failures (← engine.remove criteria)
  | reactivate criteria => do
    engine.reactivate criteria
    return .done
  | pause criteria => do
    engine.pause criteria
    return .done
  | subscriptions criteria => return .found (← engine.subscriptions criteria)

variable {σ : Type}

namespace Stage

variable {stage : Stage σ} {engine : Engine σ} {criteria : FeedCriteria} {meant : String → Bool} {bond : σ → σ → Prop}

/-- A target with the subscriber of its id, which is meant. -/
def Serves (engine : Engine σ) (meant : String → Bool) (target : Target σ) : Prop :=
  engine.registry.get? target.subscription.id = some target.subscriber ∧ meant target.subscription.id = true

theorem Serves.turn {target : Target σ} (serves : Serves engine meant target) {next : Subscription}
    (named : next.id = target.subscription.id) : Serves engine meant { target with subscription := next } := by
  -- The subscriber is the same, and the id too.
  rw [Serves, named]
  exact serves

/-- The targets are kept back on both sides. -/
theorem even_updateAll {targets : List (Target σ)} (serves : ∀ target ∈ targets, Serves engine meant target)
    {one two : WorkUnit} (even : Even meant one two) :
    Even meant (Engine.updateAll targets one) (Engine.updateAll targets two) := by
  -- The induction is on the targets.
  induction targets generalizing one two with
  | nil => exact even
  | cons target rest ih =>
    exact ih (fun other member => serves other (by simp [member])) (even.update (serves target (by simp)).2)

/-- Windows that differ in what their units know of others only. -/
def Paired (engine : Engine σ) (meant : String → Bool) (one two : Window σ) : Prop :=
  ∃ unit, two = { one with unit } ∧ Even meant one.unit unit ∧ ∀ target ∈ one.targets, Serves engine meant target

/-- What becomes of a subscription at the end of the log, with its id. -/
def Settling (bond : σ → σ → Prop) (change : Subscription → Action σ Subscription) : Prop :=
  ∀ row, Alongside bond (fun first second => first = second ∧ first.id = row.id) (change row) (change row)

/-- Failures that are the same, and units that are even. -/
def Alike (meant : String → Bool) (one two : List SubscriptionFailure × WorkUnit) : Prop :=
  one.1 = two.1 ∧ Even meant one.2 two.2

section Operations

variable (hosted : stage.Hosts engine) (bonded : stage.Bond engine criteria meant bond)

include hosted bonded

/-- Looking for targets. -/
theorem Bond.targets (status : Status) {one two : WorkUnit} (even : Even meant one two) :
    Alongside bond (fun first second => first.1 = second.1 ∧ (∀ target ∈ first.1, Serves engine meant target) ∧
      Even meant first.2 second.2) (engine.targets criteria status one) (engine.targets criteria status two) := by
  -- Both sides find the same rows, so they make the same targets of them.
  refine (bonded.find hosted even (narrows_withStatuses _)).bind fun first second ends => ?_
  obtain ⟨found, one⟩ := first
  obtain ⟨_, two⟩ := second
  obtain ⟨rfl, own, even⟩ := ends
  refine .pure ⟨rfl, fun target member => ?_, even⟩
  obtain ⟨row, present, known⟩ := List.mem_filterMap.mp member
  obtain ⟨subscriber, registered, rfl⟩ := Option.map_eq_some_iff.mp known
  exact ⟨registered, own row present⟩

/-- The offer of a message to a target. -/
theorem Bond.offer {status : Status} {index : Nat} {message : Message} {target : Target σ}
    (serves : Serves engine meant target) :
    Alongside bond (fun first second => first = second ∧ Serves engine meant first.1)
      (engine.offer status index message target) (engine.offer status index message target) := by
  -- Both sides are in the same case, as the target and the results are the same.
  unfold Engine.offer
  simp only
  split
  · exact .pure ⟨rfl, serves⟩
  split
  · exact (bonded.note hosted _).bind fun _ _ _ => .pure ⟨rfl, serves⟩
  obtain ⟨registered, named⟩ := found_meant serves.1 serves.2
  refine (bonded.note hosted _).bind fun _ _ _ => (bonded.handle registered named message).bind fun result _ same => ?_
  obtain rfl := same
  cases result with
  | ok _ => exact (bonded.note hosted _).bind fun _ _ _ => .pure ⟨rfl, serves.turn rfl⟩
  | error error =>
    refine (bonded.fail hosted _ error).bind fun failed _ same => ?_
    obtain ⟨rfl, kept⟩ := same
    exact .pure ⟨rfl, serves.turn kept⟩

/-- Writing targets. -/
theorem Bond.persist {targets : List (Target σ)} (serves : ∀ target ∈ targets, Serves engine meant target)
    {one two : WorkUnit} (even : Even meant one two) :
    Alongside bond (Even meant) (engine.persist one targets) (engine.persist two targets) :=
  (bonded.flush hosted (even_updateAll serves even)).bind fun _ _ even => .pure even

/-- A message for all targets. -/
theorem Bond.offerAll {status : Status} {index : Nat} {message : Message} {one two : Window σ}
    (paired : Paired engine meant one two) :
    Alongside bond (Paired engine meant) (engine.offerAll status index message one)
      (engine.offerAll status index message two) := by
  -- The targets are the same on both sides, and only the units differ.
  obtain ⟨unit, rfl, even, serves⟩ := paired
  refine (Alongside.mapM one.targets fun target member => bonded.offer hosted (serves target member)).bind
    fun offered _ same => ?_
  obtain ⟨rfl, kept⟩ := same
  refine .pure ⟨unit, rfl, even, fun target member => ?_⟩
  obtain ⟨offer, present, rfl⟩ := List.mem_map.mp member
  exact kept offer present

/-- Writing a window. -/
theorem Bond.persistWindow {one two : Window σ} (paired : Paired engine meant one two) :
    Alongside bond (Paired engine meant) (engine.persistWindow one) (engine.persistWindow two) := by
  -- The units stay even, and nothing else of the window changes.
  obtain ⟨unit, rfl, even, serves⟩ := paired
  exact (bonded.persist hosted serves even).bind fun first second even => .pure ⟨second, rfl, even, serves⟩

/-- Writing a window when the interval is over. -/
theorem Bond.flushWhenDue {one two : Window σ} (paired : Paired engine meant one two) :
    Alongside bond (Paired engine meant) (engine.flushWhenDue one) (engine.flushWhenDue two) := by
  -- Whether a write is due depends on what both sides have in common.
  obtain ⟨unit, rfl, even, serves⟩ := paired
  unfold Engine.flushWhenDue
  split
  · refine (bonded.persistWindow hosted ⟨unit, rfl, even, serves⟩).bind fun first second paired => ?_
    obtain ⟨next, rfl, even, serves⟩ := paired
    exact .pure ⟨next, rfl, even, serves⟩
  · exact .pure ⟨unit, rfl, even, serves⟩

/-- Messages for all targets. -/
theorem Bond.deliver {status : Status} {limit : Option Nat} (items : List LogItem) {one two : Window σ}
    (paired : Paired engine meant one two) :
    Alongside bond (Paired engine meant) (engine.deliver status limit one items)
      (engine.deliver status limit two items) := by
  -- The induction is on the items, which are the same on both sides.
  induction items generalizing one two with
  | nil =>
    obtain ⟨unit, rfl, even, serves⟩ := paired
    exact .pure ⟨unit, rfl, even, serves⟩
  | cons item rest ih =>
    cases item with
    | error error => exact fun _ _ related => ⟨rfl, related⟩
    | ok entry =>
      refine Alongside.bind (.pure rfl : Alongside bond Eq (pure entry) (pure entry)) fun entry _ same => ?_
      obtain rfl := same
      refine (bonded.offerAll hosted paired).bind fun one two paired =>
        (bonded.flushWhenDue hosted paired).bind fun one two paired => ?_
      obtain ⟨unit, rfl, even, serves⟩ := paired
      -- The limit is reached on both sides, or on neither.
      simp only
      split
      · exact bonded.persistWindow hosted ⟨unit, rfl, even, serves⟩
      · exact ih ⟨unit, rfl, even, serves⟩

/-- A window of messages. -/
theorem Bond.process {status : Status} {limit : Option Nat} {one two : Window σ}
    (paired : Paired engine meant one two) :
    Alongside bond (Paired engine meant) (engine.process status limit one) (engine.process status limit two) := by
  -- The messages that are loaded are the same on both sides.
  obtain ⟨unit, rfl, even, serves⟩ := paired
  refine (bonded.note hosted _).bind fun _ _ _ => ?_
  refine (bonded.load hosted _ _).bind fun items _ same => ?_
  obtain rfl := same
  exact bonded.deliver hosted items ⟨unit, rfl, even, serves⟩

/-- Feeding. -/
theorem Bond.feed {status : Status} {limit : Option Nat} {idle : Notice} {change : Subscription → Action σ Subscription}
    (settling : Settling bond change) {errors : List SubscriptionFailure} {targets : List (Target σ)}
    (serves : ∀ target ∈ targets, Serves engine meant target) {one two : WorkUnit} (even : Even meant one two) :
    Alongside bond Eq (engine.feed status limit idle change errors targets one)
      (engine.feed status limit idle change errors targets two) := by
  -- Whether anybody is fed, and whether the log came to its end, is the same on both sides.
  unfold Engine.feed
  split
  · exact (bonded.note hosted _).bind fun _ _ _ => .pure rfl
  refine (bonded.process hosted ⟨two, rfl, even, serves⟩).bind fun first second paired => ?_
  obtain ⟨unit, rfl, even, serves⟩ := paired
  simp only
  split
  · refine Alongside.bind (?_ : Alongside bond
      (fun next other => next = other ∧ ∀ target ∈ next, Serves engine meant target) _ _) fun next _ same => ?_
    · refine Alongside.mapM first.targets fun target member => ?_
      split
      · refine (settling target.subscription).bind fun next _ same => ?_
        obtain ⟨rfl, named⟩ := same
        exact .pure ⟨rfl, (serves target member).turn named⟩
      · exact .pure ⟨rfl, serves target member⟩
    · obtain ⟨rfl, served⟩ := same
      exact (bonded.persist hosted served even).bind fun _ _ _ => .pure rfl
  · exact .pure rfl

/-- The end of a subscription that is done with the log. -/
theorem Bond.finish (row : Subscription) : Alongside bond (fun first second => first = second ∧ first.id = row.id)
    (engine.finish row) (engine.finish row) :=
  (bonded.note hosted _).bind fun _ _ _ => .pure ⟨rfl, rfl⟩

theorem Bond.caughtUp : Settling bond engine.caughtUp := by
  -- The run mode is the same on both sides.
  intro row
  unfold Engine.caughtUp
  split
  · exact bonded.finish hosted row
  · exact (bonded.note hosted _).bind fun _ _ _ => .pure ⟨rfl, rfl⟩

theorem Bond.keptUp : Settling bond engine.keptUp := by
  -- The run mode is the same on both sides.
  intro row
  unfold Engine.keptUp
  split
  · exact bonded.finish hosted row
  · exact .pure ⟨rfl, rfl⟩

/-- A boot. -/
theorem Bond.boot (limit : Option Nat) :
    Alongside bond Eq (engine.boot criteria limit) (engine.boot criteria limit) := by
  -- Phase by phase, with units that stay even.
  unfold Engine.boot
  rw [hosted.guarded_eq]
  refine (bonded.discover hosted).bind fun _ _ even => (bonded.retry hosted _ even).bind fun _ _ even =>
    (bonded.markDetached hosted _ even).bind fun _ _ even => (bonded.setupNew hosted even).bind fun one two ends => ?_
  obtain ⟨errors, one⟩ := one
  obtain ⟨_, two⟩ := two
  obtain ⟨rfl, even⟩ := ends
  refine (bonded.targets hosted _ even).bind fun first second ends => ?_
  obtain ⟨targets, one⟩ := first
  obtain ⟨_, two⟩ := second
  obtain ⟨rfl, serves, even⟩ := ends
  exact bonded.feed hosted (bonded.caughtUp hosted) serves even

/-- A run. -/
theorem Bond.run (limit : Option Nat) : Alongside bond Eq (engine.run criteria limit) (engine.run criteria limit) := by
  -- Phase by phase, with units that stay even.
  unfold Engine.run
  rw [hosted.guarded_eq]
  refine (bonded.discover hosted).bind fun _ _ even => (bonded.retry hosted _ even).bind fun _ _ even =>
    (bonded.markDetached hosted _ even).bind fun _ _ even => (bonded.targets hosted _ even).bind
      fun first second ends => ?_
  obtain ⟨targets, one⟩ := first
  obtain ⟨_, two⟩ := second
  obtain ⟨rfl, serves, even⟩ := ends
  exact bonded.feed hosted (bonded.keptUp hosted) serves even

/-- A failure of a teardown hook. -/
theorem Bond.teardownFailure (row : Subscription) (error : HandlerError) :
    Alongside bond Eq (engine.teardownFailure row error) (engine.teardownFailure row error) :=
  (bonded.note hosted _).bind fun _ _ _ => .pure rfl

/-- A teardown. -/
theorem Bond.tearDown : Alongside bond Eq (engine.teardown criteria) (engine.teardown criteria) := by
  -- Both sides find the same rows, and tear them down one after another.
  unfold Engine.teardown
  rw [hosted.guarded_eq]
  refine (bonded.discover hosted).bind fun _ _ even => (bonded.find hosted even (narrows_withStatuses _)).bind
    fun first second ends => ?_
  obtain ⟨found, one⟩ := first
  obtain ⟨_, two⟩ := second
  obtain ⟨rfl, own, even⟩ := ends
  refine Alongside.foldlM found (fun row member failures _ same => ?_) rfl
  obtain rfl := same
  unfold Engine.teardownOne
  split
  · exact (bonded.note hosted _).bind fun _ _ _ => .pure rfl
  rename_i subscriber known
  obtain ⟨registered, named⟩ := found_meant known (own row member)
  split
  · exact (bonded.note hosted _).bind fun _ _ _ => .pure rfl
  rename_i hook declared
  refine (call_alongside (bonded.code subscriber registered named (.teardown declared))).bind fun result _ same => ?_
  obtain rfl := same
  cases result with
  | ok _ => exact (bonded.note hosted _).bind fun _ _ _ => .pure rfl
  | error error =>
    refine (bonded.teardownFailure hosted row error).bind fun failure _ same => ?_
    obtain rfl := same
    exact .pure rfl

/-- The failures of a teardown hook that is run because its subscription is removed. -/
theorem Bond.farewell {row : Subscription} (own : meant row.id = true) :
    Alongside bond Eq (engine.farewell row) (engine.farewell row) := by
  -- Whether there is a hook, and what comes of it, is the same on both sides.
  unfold Engine.farewell
  split
  · exact .pure rfl
  rename_i hook declared
  obtain ⟨subscriber, known, declared⟩ := Option.bind_eq_some_iff.mp declared
  obtain ⟨registered, named⟩ := found_meant known own
  refine (call_alongside (bonded.code subscriber registered named (.teardown declared))).bind fun result _ same => ?_
  obtain rfl := same
  cases result with
  | ok _ => exact .pure rfl
  | error error =>
    refine (bonded.teardownFailure hosted row error).bind fun failure _ same => ?_
    obtain rfl := same
    exact .pure rfl

/-- One removal. -/
theorem Bond.removeOne {row : Subscription} (own : meant row.id = true) {one two : List SubscriptionFailure × WorkUnit}
    (alike : Alike meant one two) :
    Alongside bond (Alike meant) (engine.removeOne one row) (engine.removeOne two row) := by
  -- The row is one that is meant, so it is deleted on both sides and erased from both units.
  have removed : Alongside bond (fun _ _ => True) (Action.ofStep (engine.store.remove row))
      (Action.ofStep (engine.store.remove row)) := by
    intro left right related
    rw [hosted.store]
    exact ⟨trivial, bonded.write related (Rows.remove_beside (bonded.rows related) own)⟩
  unfold Engine.removeOne
  refine (bonded.farewell hosted own).bind fun failures _ same => ?_
  obtain rfl := same
  refine Alongside.bind (removed.bind fun _ _ _ => .pure (alike.2.erase own)) fun one two even => ?_
  exact (bonded.note hosted _).bind fun _ _ _ => .pure ⟨by rw [alike.1], even⟩

/-- A removal. -/
theorem Bond.remove : Alongside bond Eq (engine.remove criteria) (engine.remove criteria) := by
  -- Both sides find the same rows, and remove them one after another.
  unfold Engine.remove
  rw [hosted.guarded_eq]
  refine (bonded.discover hosted).bind fun _ _ even => (bonded.find hosted even narrows_toSubscriptions).bind
    fun first second ends => ?_
  obtain ⟨found, one⟩ := first
  obtain ⟨_, two⟩ := second
  obtain ⟨rfl, own, even⟩ := ends
  have all : Alongside bond (Alike meant) (found.foldlM engine.removeOne ([], one))
      (found.foldlM engine.removeOne ([], two)) :=
    .foldlM found (fun row member first second alike => bonded.removeOne hosted (own row member) alike) ⟨rfl, even⟩
  exact all.bind fun first second alike => .pure alike.1

/-- A reactivation. -/
theorem Bond.reactivate :
    Alongside bond (fun _ _ => True) (engine.reactivate criteria) (engine.reactivate criteria) := by
  -- A pass over the same rows, where the registry says which of them go back.
  unfold Engine.reactivate
  rw [hosted.guarded_eq]
  refine (bonded.discover hosted).bind fun _ _ even => bonded.pass hosted (narrows_withStatuses _)
    (fun row own one two even => ?_) (fun _ _ _ => .pure trivial) even
  unfold Engine.reactivateOne
  split
  · exact (bonded.note hosted _).bind fun _ _ _ => .pure (even.update own)
  · exact (bonded.note hosted _).bind fun _ _ _ => .pure even

/-- A pause. -/
theorem Bond.pause : Alongside bond (fun _ _ => True) (engine.pause criteria) (engine.pause criteria) := by
  -- A pass over the same rows, all of which are changed.
  unfold Engine.pause
  rw [hosted.guarded_eq]
  refine (bonded.discover hosted).bind fun _ _ even => bonded.pass hosted (narrows_withStatuses _)
    (fun row own one two even => ?_) (fun _ _ _ => .pure trivial) even
  exact (bonded.note hosted _).bind fun _ _ _ => .pure (even.update own)

/-- A request for subscriptions. -/
theorem Bond.subscriptions : Alongside bond Eq (engine.subscriptions criteria) (engine.subscriptions criteria) := by
  -- Discovery, and then a find, which answers the same on both sides.
  unfold Engine.subscriptions
  rw [hosted.guarded_eq]
  exact (bonded.discover hosted).bind fun _ _ even => (bonded.find hosted even narrows_toSubscriptions).bind
    fun first second ends => .pure ends.1

end Operations

/-- An operation does the same on systems with a bond for its criteria, and gives the same answer. -/
theorem Bond.ask (hosted : stage.Hosts engine) {operation : Operation}
    (bonded : stage.Bond engine operation.criteria meant bond) :
    Alongside bond Eq (operation.ask engine) (operation.ask engine) := by
  -- Operation by operation, with the criteria that it has.
  cases operation with
  | boot criteria limit => exact (bonded.boot hosted limit).bind fun _ _ same => .pure (congrArg _ same)
  | run criteria limit => exact (bonded.run hosted limit).bind fun _ _ same => .pure (congrArg _ same)
  | teardown criteria => exact (bonded.tearDown hosted).bind fun _ _ same => .pure (congrArg _ same)
  | remove criteria => exact (bonded.remove hosted).bind fun _ _ same => .pure (congrArg _ same)
  | reactivate criteria => exact (bonded.reactivate hosted).bind fun _ _ _ => .pure rfl
  | pause criteria => exact (bonded.pause hosted).bind fun _ _ _ => .pure rfl
  | subscriptions criteria => exact (bonded.subscriptions hosted).bind fun _ _ same => .pure (congrArg _ same)

end Stage

end EventFeed
