import EventFeed.Proofs.Headway
import EventFeed.Proofs.Setbacks
import EventFeed.Proofs.Twins

/-! The cadence of writes: how often positions are written while messages are fed makes no difference to what is fed,
reported and called, and no other one to what is stored than the stamps. -/

namespace EventFeed

open EventFeed.Action
open Subscription (unstamped)

variable {σ τ : Type}

/-- A call that feeds messages. -/
inductive FeedCall where
  | boot (criteria : FeedCriteria) (limit : Option Nat)
  | run (criteria : FeedCriteria) (limit : Option Nat)

namespace Engine

/-- Answers a call that feeds messages. -/
def feedOnce (engine : Engine σ) : FeedCall → Action σ FeedReport
  | .boot criteria limit => engine.boot criteria limit
  | .run criteria limit => engine.run criteria limit

/-- Answers such calls one after another. -/
def feedEach (engine : Engine σ) (calls : List FeedCall) : Action σ (List FeedReport) :=
  calls.mapM engine.feedOnce

/-- The engine with another interval between its writes. -/
def flushing (engine : Engine σ) (interval : Option Nat) : Engine σ :=
  { engine with config := { engine.config with flushInterval := interval } }

variable {engine : Engine σ} {interval : Option Nat}

/-- Calls of subscriber code do not depend on the interval. -/
theorem callAll_flushing (message : Message) (handlers : List (Handler σ)) :
    (engine.flushing interval).callAll message handlers = engine.callAll message handlers := by
  -- An interval is no part of what a call looks at.
  induction handlers with
  | nil => rfl
  | cons handler rest ih =>
    rw [callAll, callAll, ih]
    rfl

/-- Offers do not depend on the interval. -/
theorem offerAll_flushing (status : Status) (index : Nat) (message : Message) (window : Window σ) :
    (engine.flushing interval).offerAll status index message window = engine.offerAll status index message window := by
  -- The interval stands in the configuration, and of that an offer looks only at the treatment of panics.
  have handled : ∀ subscriber : Subscriber σ,
      (engine.flushing interval).handle subscriber message = engine.handle subscriber message :=
    fun subscriber => callAll_flushing message _
  have offered : (engine.flushing interval).offer status index message = engine.offer status index message := by
    funext target
    unfold offer
    rw [handled]
    rfl
  rw [offerAll, offered]
  rfl

end Engine

namespace Stage

variable {stage : Stage σ} {engine : Engine σ} {view : σ → τ} {criteria : FeedCriteria} {left right : σ}
  {status : Status} {limit : Option Nat}

theorem Hosts.flushing (hosted : stage.Hosts engine) (interval : Option Nat) :
    stage.Hosts (engine.flushing interval) := ⟨hosted.load, hosted.store, hosted.observe⟩

theorem Sight.flushing (sight : stage.Sight engine view) (interval : Option Nat) :
    stage.Sight (engine.flushing interval) view :=
  ⟨sight.write, sight.log, sight.calls, sight.observe, sight.code, sight.retries⟩

/-- Targets that stand opposite to each other: a registered subscriber, and a subscription that is the same but for
stamps. -/
structure Opposite (engine : Engine σ) (target other : Target σ) : Prop where
  fields : target.subscription.unstamped = other.subscription.unstamped
  subscriber : target.subscriber = other.subscriber
  registered : target.subscriber ∈ engine.registry.subscribers

/-- The subscriptions of such targets are the same but for stamps. -/
theorem opposite_all {targets others : List (Target σ)} (opposite : List.Forall₂ (Opposite engine) targets others) :
    (Target.all targets).map unstamped = (Target.all others).map unstamped := by
  -- Targets are compared one with another, and so are their rows.
  refine Rows.forall₂_unstamped.mp ?_
  rw [Target.all, Target.all, List.forall₂_map_left_iff, List.forall₂_map_right_iff]
  exact opposite.imp fun _ _ same => same.fields

/-- The subscribers of such targets are registered, on either side. -/
theorem opposite_registered {targets others : List (Target σ)}
    (opposite : List.Forall₂ (Opposite engine) targets others) :
    (∀ target ∈ targets, target.subscriber ∈ engine.registry.subscribers) ∧
      ∀ other ∈ others, other.subscriber ∈ engine.registry.subscribers := by
  -- Each pair has one subscriber, which is registered.
  induction opposite with
  | nil => simp
  | cons same _ ih =>
    refine ⟨?_, ?_⟩
    · simpa using ⟨same.registered, ih.1⟩
    · simpa using ⟨same.subscriber ▸ same.registered, ih.2⟩

/-- Two windows that have come to the same, while what is stored of their targets may be from other times. -/
structure Drifting (stage : Stage σ) (engine : Engine σ) (view : σ → τ) (one two : Window σ) (left right : σ) :
    Prop where
  mine : stage.Open one left
  yours : stage.Open two right
  view : view left = view right
  targets : List.Forall₂ (Opposite engine) one.targets two.targets
  errors : one.errors = two.errors
  processed : one.processed = two.processed
  agree : Rows.AgreeBut (Rows.ids (Target.all one.targets)) (stage.rows.read left) (stage.rows.read right)

/-- Where targets that stand opposite to each other are written, systems that agree on the other rows become twins. -/
theorem twins_of_stored {targets others : List (Target σ)} {after last : σ}
    (opposite : List.Forall₂ (Opposite engine) targets others)
    (agree : Rows.AgreeBut (Rows.ids (Target.all targets)) (stage.rows.read left) (stage.rows.read right))
    (mine : stage.Stored targets left after) (yours : stage.Stored others right last) :
    (stage.rows.read after).map unstamped = (stage.rows.read last).map unstamped := by
  -- Both stores are what they were with the targets in their places.
  rw [mine.fields, yours.fields, knownRows, knownRows, agree _ rfl]
  exact Rows.overlay_alike (opposite_all opposite)

/-- Writing targets leaves the view as it is. -/
theorem Sight.persist_view (sight : stage.Sight engine view) (hosted : stage.Hosts engine) (unit : WorkUnit)
    (targets : List (Target σ)) (system : σ) :
    Meets (engine.persist unit targets) system (fun _ after => view after = view system) (fun _ _ => True) :=
  (sight.flush_view hosted (Engine.updateAll targets unit) system).bind fun _ _ same => Meets.pure same

section Feeding

variable (hosted : stage.Hosts engine) (sight : stage.Sight engine view)
  (caught : engine.config.catchPanics = true)
  (behaves : ∀ subscriber ∈ engine.registry.subscribers, stage.Behaves subscriber)

include hosted sight caught behaves

/-- The offer of a message to targets that stand opposite to each other. -/
theorem Opposite.offer {target other : Target σ} (opposite : Opposite engine target other)
    (same : view left = view right) (index : Nat) (message : Message) :
    InStep (engine.offer status index message target) (engine.offer status index message other) left right
      fun offered answer after last => (Opposite engine offered.1 answer.1 ∧ offered.2 = answer.2) ∧
        view after = view last ∧ stage.rows.read after = stage.rows.read left ∧
        stage.rows.read last = stage.rows.read right := by
  obtain ⟨fields, subscriber, registered⟩ := opposite
  -- Whether the message is handed over depends on what both sides share.
  have alike := Subscription.alike_of_unstamped fields
  unfold Engine.offer
  simp only [alike.status, alike.position, alike.id, ← subscriber]
  split
  · exact .pure ⟨⟨⟨fields, subscriber, registered⟩, rfl⟩, same, rfl, rfl⟩
  split
  · exact hosted.note_inStep (.pure ⟨⟨⟨fields, subscriber, registered⟩, rfl⟩, sight.observe _ same, by simp, by simp⟩)
  refine hosted.note_inStep ((sight.handle caught behaves (sight.observe _ same) registered message).bind
    fun result _ between middle ends => ?_)
  obtain ⟨rfl, looks, mine, yours⟩ := ends
  rw [stage.read_observe] at mine yours
  cases result with
  | ok _ =>
    refine hosted.note_inStep (.pure ⟨⟨⟨?_, rfl, registered⟩, rfl⟩, sight.observe _ looks, by simpa using mine,
      by simpa using yours⟩)
    rw [Subscription.eq_of_unstamped fields]
    rfl
  | error error =>
    refine .run_bind (hosted.fail_run _ error between) (hosted.fail_run _ error middle) (.pure ?_)
    rw [alike.id, alike.status, alike.position]
    exact ⟨⟨⟨Subscription.fail_unstamped fields _, rfl, registered⟩, rfl⟩, sight.observe _ looks,
      by simpa using mine, by simpa using yours⟩

/-- A message for all targets. -/
theorem Drifting.offerAll {one two : Window σ} (drifting : stage.Drifting engine view one two left right)
    (entry : Nat × Message) :
    InStep (engine.offerAll status entry.1 entry.2 one) (engine.offerAll status entry.1 entry.2 two) left right
      (stage.Drifting engine view) := by
  -- Each target is offered the message on both sides; the rows that are stored are not touched by that.
  obtain ⟨mine, yours, looks, targets, errors, processed, agree⟩ := drifting
  obtain ⟨registered, registeredOther⟩ := opposite_registered targets
  have steps : ∀ target other, Opposite engine target other → ∀ between middle, view between = view middle →
      InStep (engine.offer status entry.1 entry.2 target) (engine.offer status entry.1 entry.2 other) between middle
        fun offered answer after last => (Opposite engine offered.1 answer.1 ∧ offered.2 = answer.2) ∧
          view after = view last :=
    fun target other opposite between middle same => (opposite.offer hosted sight caught behaves same _ _).mono
      fun _ _ _ _ offered => ⟨offered.1, offered.2.1⟩
  have offers : InStep (engine.offerAll status entry.1 entry.2 one) (engine.offerAll status entry.1 entry.2 two) left
      right fun next other after last => List.Forall₂ (Opposite engine) next.targets other.targets ∧
        next.errors = other.errors ∧ next.processed = other.processed ∧ view after = view last := by
    refine (InStep.mapM steps targets looks).bind fun offered answers after last ends => .pure ?_
    obtain ⟨members, looks⟩ := ends
    refine ⟨?_, ?_, by rw [processed], looks⟩
    · rw [List.forall₂_map_left_iff, List.forall₂_map_right_iff]
      exact members.imp fun _ _ same => same.1
    · have failures : offered.map Prod.snd = answers.map Prod.snd := by
        rw [← List.forall₂_eq_eq_eq, List.forall₂_map_left_iff, List.forall₂_map_right_iff]
        exact members.imp fun _ _ same => same.2
      have shape : ∀ results : List (Target σ × Option SubscriptionFailure),
          results.filterMap Prod.snd = (results.map Prod.snd).filterMap id := by simp [List.filterMap_map]
      rw [errors, shape, shape, failures]
  -- On either side the rows and the ids stay.
  refine (offers.also (hosted.offerAll_polls mine (fun target member => behaves _ (registered target member)) entry)
    (hosted.offerAll_polls yours (fun target member => behaves _ (registeredOther target member)) entry)).mono
      fun next other after last ends => ?_
  obtain ⟨⟨targets, errors, processed, looks⟩, polled, polledOther⟩ := ends
  refine ⟨polled.isOpen, polledOther.isOpen, looks, targets, errors, processed, ?_⟩
  rw [polled.ids, polled.rows, polledOther.rows]
  exact agree

omit caught behaves in
/-- Both windows are written. -/
theorem Drifting.persistWindow {one two : Window σ} (drifting : stage.Drifting engine view one two left right) :
    InStep (engine.persistWindow one) (engine.persistWindow two) left right fun next other after last =>
      stage.Drifting engine view next other after last ∧
        (stage.rows.read after).map unstamped = (stage.rows.read last).map unstamped := by
  -- A write can fail on neither side, and the view is one that writes do not change.
  obtain ⟨mine, yours, looks, targets, errors, processed, agree⟩ := drifting
  have written : ∀ window system, Meets (engine.persistWindow window) system
      (fun _ after => view after = view system) (fun _ _ => True) := fun window system =>
    (sight.persist_view hosted window.unit window.targets system).bind fun _ _ same => Meets.pure same
  refine .of_ends ((hosted.persistWindow_ends mine).also (written one left))
    ((hosted.persistWindow_ends yours).also (written two right)) fun next other after last first second => ?_
  obtain ⟨⟨rfl, isOpen, stored⟩, same⟩ := first
  obtain ⟨⟨rfl, isOpenOther, storedOther⟩, sameOther⟩ := second
  have rows := twins_of_stored targets agree stored storedOther
  exact ⟨⟨isOpen, isOpenOther, same.trans (looks.trans sameOther.symm), targets, errors, processed,
    fun others _ => Rows.overlay_unstamped others rows⟩, rows⟩

omit caught behaves in
/-- A write that may be due leaves a window as it is, but for what its unit knows, and touches the rows of its targets
only. -/
theorem Sight.flushWhenDue_ends {window : Window σ} {system : σ} (isOpen : stage.Open window system) :
    Ends (engine.flushWhenDue window) system fun next after => stage.Open next after ∧
      next.targets = window.targets ∧ next.errors = window.errors ∧ next.processed = window.processed ∧
      view after = view system ∧ Rows.AgreeBut (Rows.ids (Target.all window.targets)) (stage.rows.read after)
        (stage.rows.read system) := by
  -- If nothing is due the window stays as it is, and otherwise its targets are written.
  have written : Meets (engine.flushWhenDue window) system (fun _ after => view after = view system)
      (fun _ _ => True) := by
    unfold Engine.flushWhenDue
    split
    · exact ((sight.persist_view hosted window.unit window.targets system).bind fun _ _ same =>
        Meets.pure same).bind fun _ _ same => Meets.pure same
    · exact Meets.pure rfl
  have saves : stage.Saves fun _ _ _ errors _ => errors = window.errors := fun _ _ _ _ _ _ _ same _ => same
  have ends := @Hosts.flushWhenDue_ends _ _ _ hosted _ saves [] [] _ _ isOpen rfl
  refine (ends.also written).mono fun _ _ ends => ?_
  obtain ⟨⟨isOpen, processed, targets, agree, errors⟩, same⟩ := ends
  exact ⟨isOpen, targets, errors, processed, same, agree⟩

variable {interval other : Option Nat}

omit caught behaves in
/-- Writes that may be due, under one interval on the one side and under another one on the other. -/
theorem Drifting.flushWhenDue {one two : Window σ} (drifting : stage.Drifting engine view one two left right) :
    InStep ((engine.flushing interval).flushWhenDue one) ((engine.flushing other).flushWhenDue two) left right
      (stage.Drifting engine view) := by
  -- One side may write while the other does not, so the two writes are followed apart and compared at their ends.
  obtain ⟨mine, yours, looks, targets, errors, processed, agree⟩ := drifting
  refine .of_ends ((sight.flushing interval).flushWhenDue_ends (hosted.flushing interval) mine)
    ((sight.flushing other).flushWhenDue_ends (hosted.flushing other) yours)
    fun next changed after last first second => ?_
  obtain ⟨isOpen, same, failures, count, view, touched⟩ := first
  obtain ⟨isOpenOther, sameOther, failuresOther, countOther, viewOther, touchedOther⟩ := second
  have ids := Rows.ids_of_unstamped (opposite_all targets)
  refine ⟨isOpen, isOpenOther, view.trans (looks.trans viewOther.symm), by rwa [same, sameOther],
    failures.trans (errors.trans failuresOther.symm), count.trans (processed.trans countOther.symm), ?_⟩
  -- Neither write has touched the other rows.
  rw [same]
  exact touched.trans (agree.trans fun shadows named => (touchedOther shadows (named.trans ids)).symm)

/-- A message is offered, and then writes may be due. -/
theorem Drifting.turn {one two : Window σ} (drifting : stage.Drifting engine view one two left right)
    (entry : Nat × Message) :
    InStep ((engine.flushing interval).turn status one entry) ((engine.flushing other).turn status two entry) left
      right (stage.Drifting engine view) := by
  -- The interval matters to the second half of the turn only.
  rw [Engine.turn, Engine.turn, Engine.offerAll_flushing, Engine.offerAll_flushing]
  exact (drifting.offerAll hosted sight caught behaves entry).bind fun _ _ _ _ offered =>
    offered.flushWhenDue hosted sight

/-- What the delivery of the same messages leaves on both sides: at the end of the log the targets may not be written
yet, and under a limit they are. -/
structure Landed (stage : Stage σ) (engine : Engine σ) (view : σ → τ) (one two : Window σ) (left right : σ) :
    Prop where
  mine : one.unit = .clean (stage.rows.read left) ∧ stage.InHand one.targets left
  yours : two.unit = .clean (stage.rows.read right) ∧ stage.InHand two.targets right
  view : view left = view right
  targets : List.Forall₂ (Opposite engine) one.targets two.targets
  errors : one.errors = two.errors
  processed : one.processed = two.processed
  finished : one.finished = two.finished
  agree : Rows.AgreeBut (Rows.ids (Target.all one.targets)) (stage.rows.read left) (stage.rows.read right)
  stored : one.finished = false →
    (stage.rows.read left).map unstamped = (stage.rows.read right).map unstamped

/-- The delivery of messages. -/
theorem Drifting.deliver : ∀ (entries : List (Nat × Message)) {one two : Window σ} {left right : σ},
    stage.Drifting engine view one two left right →
    InStep ((engine.flushing interval).deliver status limit one (entries.map .ok))
      ((engine.flushing other).deliver status limit two (entries.map .ok)) left right
      (stage.Landed engine view) := by
  -- The windows take the same turns, since the number of messages decides where they stop.
  intro entries
  induction entries with
  | nil =>
    intro one two left right drifting
    obtain ⟨mine, yours, looks, targets, errors, processed, agree⟩ := drifting
    exact .pure ⟨⟨mine.clean, mine.inHand⟩, ⟨yours.clean, yours.inHand⟩, looks, targets, errors, processed, rfl, agree,
      fun absurd => by cases absurd⟩
  | cons entry rest ih =>
    intro one two left right drifting
    rw [List.map_cons, Engine.deliver_cons, Engine.deliver_cons]
    refine (drifting.turn hosted sight caught behaves entry).bind fun next changed after last turned => ?_
    rw [turned.processed]
    split
    · -- At the limit both windows are written.
      refine (turned.persistWindow hosted sight).mono fun _ _ _ _ ends => ?_
      obtain ⟨⟨mine, yours, looks, targets, errors, processed, agree⟩, rows⟩ := ends
      exact ⟨⟨mine.clean, mine.inHand⟩, ⟨yours.clean, yours.inHand⟩, looks, targets, errors, processed,
        mine.unfinished.trans yours.unfinished.symm, agree, fun _ => rows⟩
    · exact ih turned

/-- The messages that are ahead are loaded and delivered on both sides. -/
theorem Drifting.process {one two : Window σ} (drifting : stage.Drifting engine view one two left right) :
    InStep ((engine.flushing interval).process status limit one) ((engine.flushing other).process status limit two)
      left right (stage.Landed engine view) := by
  obtain ⟨mine, yours, looks, targets, errors, processed, agree⟩ := drifting
  -- Positions are no stamps, so both windows load the same messages.
  have positions : (one.targets.map fun target => target.subscription.position) =
      two.targets.map fun target => target.subscription.position := by
    rw [← List.forall₂_eq_eq_eq, List.forall₂_map_left_iff, List.forall₂_map_right_iff]
    exact targets.imp fun _ _ same => (Subscription.alike_of_unstamped same.fields).position
  have start : Engine.lowestPosition one.targets = Engine.lowestPosition two.targets := by
    rw [Engine.lowestPosition, Engine.lowestPosition, positions]
  unfold Engine.process
  simp only [start, targets.length_eq]
  refine (hosted.flushing interval).note_inStep ?_
  refine .run_bind ((hosted.flushing interval).load_run _ _) ((hosted.flushing other).load_run _ _) ?_
  -- The report touches neither the log nor the rows.
  have observed := sight.observe (.loading (Engine.lowestPosition two.targets) two.targets.length) looks
  rw [above, above, sight.log observed]
  refine Drifting.deliver hosted sight caught behaves _ ⟨⟨?_, mine.inHand.of_ids rfl ?_, mine.unfinished⟩,
    ⟨?_, yours.inHand.of_ids rfl ?_, yours.unfinished⟩, observed, targets, errors, processed, ?_⟩
  all_goals simp only [stage.read_observe]
  · exact mine.clean
  · exact yours.clean
  · exact agree

/-- A change of subscriptions that reports the same on both sides, and changes them alike. -/
def Changes (view : σ → τ) (change : Subscription → Action σ Subscription) : Prop :=
  ∀ row other, row.unstamped = other.unstamped → ∀ left right, view left = view right →
    InStep (change row) (change other) left right fun next changed after last =>
      next.unstamped = changed.unstamped ∧ view after = view last

omit caught behaves in
theorem Sight.caughtUp_changes : Changes view engine.caughtUp := by
  -- What becomes of a row is decided by its mode, which stamps do not touch.
  intro row other same left right looks
  have alike := Subscription.alike_of_unstamped same
  unfold Engine.caughtUp Engine.finish
  rw [alike.runMode, alike.id, alike.position]
  split
  all_goals
    refine hosted.note_inStep (.pure ⟨?_, sight.observe _ looks⟩)
    rw [Subscription.eq_of_unstamped same]
    rfl

omit caught behaves in
theorem Sight.keptUp_changes : Changes view engine.keptUp := by
  -- What becomes of a row is decided by its mode, which stamps do not touch.
  intro row other same left right looks
  have alike := Subscription.alike_of_unstamped same
  unfold Engine.keptUp Engine.finish
  rw [alike.runMode, alike.id, alike.position]
  split
  · refine hosted.note_inStep (.pure ⟨?_, sight.observe _ looks⟩)
    rw [Subscription.eq_of_unstamped same]
    rfl
  · refine .pure ⟨?_, looks⟩
    rw [Subscription.eq_of_unstamped same]
    rfl

omit hosted sight caught behaves in
/-- The targets that are left at the end of the log are changed alike. -/
theorem Changes.settleTargets {change : Subscription → Action σ Subscription} (changes : Changes view change)
    {targets others : List (Target σ)} (opposite : List.Forall₂ (Opposite engine) targets others)
    (looks : view left = view right) :
    InStep (Engine.settleTargets status change targets) (Engine.settleTargets status change others) left right
      fun next changed after last => List.Forall₂ (Opposite engine) next changed ∧ view after = view last := by
  -- Targets stand opposite to each other in the same status, so the same ones are changed.
  refine InStep.mapM (fun target other same between middle looks => ?_) opposite looks
  obtain ⟨fields, subscriber, registered⟩ := same
  rw [(Subscription.alike_of_unstamped fields).status]
  split
  · exact (changes _ _ fields _ _ looks).bind fun _ _ _ _ ends => .pure ⟨⟨ends.1, subscriber, registered⟩, ends.2⟩
  · exact .pure ⟨⟨fields, subscriber, registered⟩, looks⟩

/-- Targets are fed on both sides. -/
theorem Twins.feed {idle : Notice} {change : Subscription → Action σ Subscription}
    {settled : Subscription → Subscription} (changes : Changes view change) (settles : stage.Settles change settled)
    (named : ∀ row, (settled row).id = row.id) {targets others : List (Target σ)} {errors : List SubscriptionFailure}
    (twins : stage.Twins view left right) (inHand : stage.InHand targets left) (inHandOther : stage.InHand others right)
    (opposite : List.Forall₂ (Opposite engine) targets others) :
    InStep ((engine.flushing interval).feed status limit idle change errors targets (.clean (stage.rows.read left)))
      ((engine.flushing other).feed status limit idle change errors others (.clean (stage.rows.read right))) left right
      fun report answer after last => report = answer ∧ stage.Twins view after last := by
  -- Somebody is fed on both sides or on neither.
  cases opposite with
  | nil =>
    -- Nobody is fed on either side.
    refine ⟨_, _, _, _, (hosted.flushing interval).feed_idle left, (hosted.flushing other).feed_idle right, rfl,
      sight.observe _ twins.view, ?_, ?_⟩
    · simpa using twins.rows
    · simpa using twins.distinct
  | cons first rest =>
    have opposite := List.Forall₂.cons first rest
    simp only [Engine.feed, List.isEmpty_cons, Bool.false_eq_true, if_false]
    have drifting : stage.Drifting engine view { unit := .clean (stage.rows.read left), targets := _, errors }
        { unit := .clean (stage.rows.read right), targets := _, errors } left right :=
      ⟨⟨rfl, inHand, rfl⟩, ⟨rfl, inHandOther, rfl⟩, twins.view, opposite, rfl, rfl,
        fun others _ => Rows.overlay_unstamped others twins.rows⟩
    refine (drifting.process hosted sight caught behaves).bind fun window shadow between middle landed => ?_
    obtain ⟨⟨clean, inHand⟩, ⟨cleanOther, inHandOther⟩, looks, targets, errors, processed, finished, agree, stored⟩ :=
      landed
    rw [← finished, processed, errors]
    cases done : window.finished with
    -- A window that the limit has ended is written already.
    | false => exact .pure ⟨rfl, looks, stored done, inHand.stored⟩
    | true =>
      -- Those that are left are changed, and all are written.
      refine ((changes.settleTargets targets looks).also (settleTargets_ends settles window.targets between)
        (settleTargets_ends settles shadow.targets middle)).bind fun next changed after last ends => ?_
      obtain ⟨⟨opposite, looks⟩, ⟨shape, -, rows⟩, ⟨shapeOther, -, rowsOther⟩⟩ := ends
      have own : Rows.ids (Target.all next) = Rows.ids (Target.all window.targets) := by
        rw [shape, ids_settled named]
      have ownOther : Rows.ids (Target.all changed) = Rows.ids (Target.all shadow.targets) := by
        rw [shapeOther, ids_settled named]
      rw [clean, cleanOther, ← rows, ← rowsOther]
      rw [← own, ← rows, ← rowsOther] at agree
      have persisted := hosted.persist_ends (inHand.of_ids own (by rw [rows]))
      have persistedOther := hosted.persist_ends (inHandOther.of_ids ownOther (by rw [rowsOther]))
      refine (InStep.of_ends (persisted.also (sight.persist_view hosted _ next after))
        (persistedOther.also (sight.persist_view hosted _ changed last)) fun _ _ final ending mine yours => ?_).bind
          fun _ _ final ending (twins : stage.Twins view final ending) => .pure ⟨rfl, twins⟩
      obtain ⟨⟨-, inHand, stored⟩, same⟩ := mine
      obtain ⟨⟨-, -, storedOther⟩, sameOther⟩ := yours
      exact ⟨same.trans (looks.trans sameOther.symm), twins_of_stored opposite agree stored storedOther, inHand.stored⟩

omit hosted sight caught behaves in
/-- What is found in a status on both sides stands opposite to each other, and so do the targets. -/
theorem Twins.targets (twins : stage.Twins view left right) (status : Status) :
    List.Forall₂ (Opposite engine) (targetsIn engine criteria status (stage.rows.read left))
      (targetsIn engine criteria status (stage.rows.read right)) := by
  -- The same rows are found in the same order, but for stamps.
  have found := twins.found (criteria.withStatuses [status])
  unfold targetsIn
  generalize Rows.find (stage.rows.read left) (criteria.withStatuses [status]) = rows at found
  generalize Rows.find (stage.rows.read right) (criteria.withStatuses [status]) = others at found
  induction found with
  | nil => exact .nil
  | @cons row other _ _ facing _ ih =>
    rw [List.filterMap_cons, List.filterMap_cons, Subscription.id_of_unstamped facing.1]
    -- Both have the same subscriber, or none.
    cases known : engine.registry.get? other.id with
    | none => exact ih
    | some subscriber => exact .cons ⟨facing.1, rfl, List.mem_of_find?_eq_some known⟩ ih

/-- What comes before the feeding of a boot. -/
theorem Twins.prepare (twins : stage.Twins view left right) (criteria : FeedCriteria) :
    InStep (engine.prepare criteria) (engine.prepare criteria) left right fun first second after last =>
      first.1 = second.1 ∧ stage.Cleared view first.2 second.2 after last := by
  -- The phases follow one another, each from twins to twins.
  refine (twins.discover hosted sight).bind fun one two _ _ cleared => ?_
  obtain ⟨rfl, rfl, twins⟩ := cleared
  refine (twins.retry hosted sight _).bind fun one two _ _ cleared => ?_
  obtain ⟨rfl, rfl, twins⟩ := cleared
  refine (twins.markDetached hosted sight _).bind fun one two _ _ cleared => ?_
  obtain ⟨rfl, rfl, twins⟩ := cleared
  exact twins.setupNew hosted sight caught behaves

omit caught behaves in
/-- What comes before the feeding of a run. -/
theorem Twins.muster (twins : stage.Twins view left right) (criteria : FeedCriteria) :
    InStep (engine.muster criteria) (engine.muster criteria) left right (stage.Cleared view) := by
  -- The phases follow one another, each from twins to twins.
  refine (twins.discover hosted sight).bind fun one two _ _ cleared => ?_
  obtain ⟨rfl, rfl, twins⟩ := cleared
  refine (twins.retry hosted sight _).bind fun one two _ _ cleared => ?_
  obtain ⟨rfl, rfl, twins⟩ := cleared
  exact twins.markDetached hosted sight _

/-- A boot does the same on both sides, whatever the intervals. -/
theorem Twins.boot (twins : stage.Twins view left right) :
    InStep ((engine.flushing interval).boot criteria limit) ((engine.flushing other).boot criteria limit) left right
      fun report answer after last => report = answer ∧ stage.Twins view after last := by
  -- The interval is looked at by the feeding only, and what comes before it is the same on both sides.
  rw [Engine.boot_eq, Engine.boot_eq, (hosted.flushing interval).guarded_eq, (hosted.flushing other).guarded_eq]
  have prepared := twins.prepare hosted sight caught behaves criteria
  refine InStep.bind prepared fun first second after last ends => ?_
  obtain ⟨errors, one⟩ := first
  obtain ⟨_, two⟩ := second
  obtain ⟨rfl, rfl, rfl, twins⟩ := ends
  refine .run_bind ((hosted.flushing interval).targets_run twins.distinct)
    ((hosted.flushing other).targets_run twins.distinctRight) ?_
  exact twins.feed hosted sight caught behaves (sight.caughtUp_changes hosted) hosted.caughtUp_settles caughtUp_id
    (inHand_targetsIn twins.distinct) (inHand_targetsIn twins.distinctRight) (twins.targets .booting)

/-- So does a run. -/
theorem Twins.run (twins : stage.Twins view left right) :
    InStep ((engine.flushing interval).run criteria limit) ((engine.flushing other).run criteria limit) left right
      fun report answer after last => report = answer ∧ stage.Twins view after last := by
  -- The interval is looked at by the feeding only, and what comes before it is the same on both sides.
  rw [Engine.run_eq, Engine.run_eq, (hosted.flushing interval).guarded_eq, (hosted.flushing other).guarded_eq]
  have mustered := twins.muster hosted sight criteria
  refine InStep.bind mustered fun one two after last cleared => ?_
  obtain ⟨rfl, rfl, twins⟩ := cleared
  refine .run_bind ((hosted.flushing interval).targets_run twins.distinct)
    ((hosted.flushing other).targets_run twins.distinctRight) ?_
  exact twins.feed hosted sight caught behaves (sight.keptUp_changes hosted) hosted.keptUp_settles keptUp_id
    (inHand_targetsIn twins.distinct) (inHand_targetsIn twins.distinctRight) (twins.targets .active)

/-- A call is answered with the same report, and leaves twins. -/
theorem Twins.feedOnce (twins : stage.Twins view left right) (call : FeedCall) :
    InStep ((engine.flushing interval).feedOnce call) ((engine.flushing other).feedOnce call) left right
      fun report answer after last => report = answer ∧ stage.Twins view after last := by
  -- A call is a boot or a run.
  cases call with
  | boot criteria limit => exact twins.boot hosted sight caught behaves
  | run criteria limit => exact twins.run hosted sight caught behaves

/-- So are calls one after another. -/
theorem Twins.feedEach (twins : stage.Twins view left right) (calls : List FeedCall) :
    InStep ((engine.flushing interval).feedEach calls) ((engine.flushing other).feedEach calls) left right
      fun reports answers after last => reports = answers ∧ stage.Twins view after last := by
  -- Each call leaves twins for the next one.
  unfold Engine.feedEach
  induction calls generalizing left right with
  | nil =>
    rw [List.mapM_nil, List.mapM_nil]
    exact .pure ⟨rfl, twins⟩
  | cons call rest ih =>
    rw [List.mapM_cons, List.mapM_cons]
    refine (twins.feedOnce hosted sight caught behaves call).bind fun report _ _ _ ends => ?_
    obtain ⟨rfl, twins⟩ := ends
    refine (ih twins).bind fun reports _ _ _ ends => ?_
    obtain ⟨rfl, twins⟩ := ends
    exact .pure ⟨rfl, twins⟩

end Feeding

/-- The interval between writes is a matter of durability only. Where panics are caught and neither subscribers nor the
strategy for retries can see how rows are stamped, boots and runs with any criteria and limits come to the same under
any two intervals: they return the same reports, make the same calls in the same order, and leave the same rows but for
the stamps of their last writes. -/
theorem Hosts.flushInterval_unseen (hosted : stage.Hosts engine) (caught : engine.config.catchPanics = true)
    (behaves : ∀ subscriber ∈ engine.registry.subscribers, stage.Behaves subscriber)
    (sight : stage.Sight engine view) {system : σ} (distinct : (Rows.ids (stage.rows.read system)).Nodup)
    (interval other : Option Nat) (calls : List FeedCall) :
    ∃ reports left right, (engine.flushing interval).feedEach calls system = .ok reports left ∧
      (engine.flushing other).feedEach calls system = .ok reports right ∧
      stage.calls left = stage.calls right ∧ view left = view right ∧
      (stage.rows.read left).map unstamped = (stage.rows.read right).map unstamped := by
  -- A system is a twin of itself.
  obtain ⟨reports, _, left, right, run, answer, rfl, twins⟩ :=
    (twins_self distinct).feedEach hosted sight caught behaves calls
  exact ⟨reports, left, right, run, answer, sight.calls twins.view, twins.view, twins.rows⟩

end Stage

namespace World

/-- Code that notes its call and ends as the calls of its subscriber say, one second later. -/
def linger (judge : List CallNote → HandlerOutcome) (note : CallNote) : Hook World := fun world =>
  (judge (callsOf note.name world.calls ++ [note]), (world.noteCall note).advance ⟨nanosPerSecond, by decide⟩)

/-- A subscriber whose calls take time. -/
def lingering (id : String) (judge : List CallNote → HandlerOutcome) : Subscriber World :=
  { reacting id judge with
    setup := some (linger judge { name := id, hook := .setup })
    handlers := [⟨none, fun message => linger judge (handlerNote id message 0)⟩] }

/-- A steady subscriber and a shaky one, whose calls take time. -/
def unhurried : Engine World :=
  feeder [lingering "steady" (verdict "steady"), lingering "shaky" (verdict "shaky")] .always

/-- A world without its rows. -/
def apart (world : World) : World := { world with rows := [] }

/-- Such code does only what is allowed, and does not see the rows. -/
theorem linger_unseeing (judge : List CallNote → HandlerOutcome) (note : CallNote) :
    stage.Discreet (linger judge note) ∧
      Stage.Bonded (fun left right => apart left = apart right) (linger judge note) := by
  -- What the code looks at and what it changes are both apart from the rows.
  refine ⟨fun world => ⟨rfl, rfl, List.prefix_refl _⟩, fun left right same => ?_⟩
  have calls : (apart left).calls = (apart right).calls := congrArg World.calls same
  have next := congrArg (fun world : World => (world.noteCall note).advance ⟨nanosPerSecond, by decide⟩) same
  exact ⟨congrArg (fun calls => judge (callsOf note.name calls ++ [note])) calls, next⟩

/-- All code of those subscribers is such code. -/
theorem unhurried_code {subscriber : Subscriber World} (registered : subscriber ∈ unhurried.registry.subscribers)
    {hook : Hook World} (code : subscriber.Code hook) : ∃ judge note, hook = linger judge note := by
  -- Each of the two has a setup hook and one handler, and neither has a teardown hook.
  rcases List.mem_pair.mp registered with rfl | rfl
  all_goals
    cases code with
    | setup declared => exact ⟨_, _, (Option.some.inj declared).symm⟩
    | teardown declared => cases declared
    | handler member message =>
      obtain rfl := List.mem_singleton.mp member
      exact ⟨_, _, rfl⟩

theorem unhurried_behaves : ∀ subscriber ∈ unhurried.registry.subscribers, stage.Behaves subscriber := by
  -- All code of theirs is of the one kind that does no harm.
  intro subscriber registered
  have discreet : ∀ {hook}, subscriber.Code hook → stage.Discreet hook := by
    intro hook code
    obtain ⟨judge, note, rfl⟩ := unhurried_code registered code
    exact (linger_unseeing judge note).1
  exact ⟨fun hook declared => discreet (.setup declared), fun hook declared => discreet (.teardown declared),
    fun entry member message => discreet (.handler member message)⟩

/-- They, and the engine, go by what is apart from the rows. -/
theorem unhurried_sight : stage.Sight unhurried apart := by
  -- What engines see of a system is a part of what is apart from the rows.
  have seen : ∀ {α : Type} (part : World → α) {left right : World}, apart left = apart right →
      part (apart left) = part (apart right) := fun part _ _ same => congrArg part same
  refine ⟨fun _ _ => rfl, fun same => seen (fun world => world.log.entries) same, fun same => seen World.calls same,
    fun notice same => seen (observe notice) same, ?_, fun _ _ => rfl⟩
  intro subscriber registered hook code
  obtain ⟨judge, note, rfl⟩ := unhurried_code registered code
  exact (linger_unseeing judge note).2

/-- Two boots, the first under a limit, and a run of the steady subscriber alone. -/
def feedCalls : List FeedCall := [.boot {} (some 1), .boot {} none, .run { ids := some ["steady"] } none]

/-- Whether positions are written after each message or at the end of each window, the shaky subscriber fails once, in
the second boot; only the stamps differ. -/
theorem telling_flushInterval_unseen : ∃ reports left right,
    (unhurried.flushing none).feedEach feedCalls (telling ["a", "b", "c"]) = .ok reports left ∧
    (unhurried.flushing (some 0)).feedEach feedCalls (telling ["a", "b", "c"]) = .ok reports right ∧
    reports.map (fun report => report.errors.length) = [0, 1, 0] ∧
    stage.calls left = stage.calls right ∧
    (stage.rows.read left).map unstamped = (stage.rows.read right).map unstamped ∧
    stage.rows.read left ≠ stage.rows.read right := by
  -- The general theorem gives what is the same; the failure and the stamps are computed.
  have hosted : stage.Hosts unhurried := hosts ..
  have distinct : (Rows.ids (stage.rows.read (telling ["a", "b", "c"]))).Nodup := by decide +kernel
  obtain ⟨reports, left, right, run, answer, calls, -, rows⟩ :=
    hosted.flushInterval_unseen rfl unhurried_behaves unhurried_sight distinct none (some 0) feedCalls
  have failed : (((unhurried.flushing none).feedEach feedCalls).outcome (telling ["a", "b", "c"])).1.toOption.map
      (fun reports => reports.map fun report => report.errors.length) = some [0, 1, 0] := by decide +kernel
  have stamped : (((unhurried.flushing none).feedEach feedCalls).outcome (telling ["a", "b", "c"])).2.rows ≠
      (((unhurried.flushing (some 0)).feedEach feedCalls).outcome (telling ["a", "b", "c"])).2.rows := by
    decide +kernel
  rw [outcome_of_run run] at failed
  rw [outcome_of_run run, outcome_of_run answer] at stamped
  exact ⟨reports, left, right, run, answer, Option.some.inj failed, calls, rows, stamped⟩

end World

end EventFeed
