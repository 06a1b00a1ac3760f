import EventFeed.Proofs.Delivery
import EventFeed.Proofs.World

/-! Isolation: a window feeds each target as if it were fed alone, whatever the
others do with the messages. -/

namespace EventFeed

open EventFeed.Action

variable {σ : Type}

/-- A rule for each subscriber that says how its calls end. -/
abbrev Verdict : Type := String → List CallNote → HandlerOutcome

/-- What the offer of a message to a target comes to: the target afterwards, a
failure or none, and further calls. -/
def serve (judge : List CallNote → HandlerOutcome) (status : Status) (entry : Nat × Message)
    (target : Target σ) (own : List CallNote) : (Target σ × Option SubscriptionFailure) × List CallNote :=
  if target.subscription.status ≠ status ∨ entry.1 ≤ target.subscription.position then ((target, none), [])
  else
    -- The handlers are called, and the subscription moves on or stops.
    match answer judge target.subscriber entry.2 own with
    | (made, none) =>
      (({ target with subscription := target.subscription.changePosition entry.1 }, none), made)
    | (made, some error) =>
      (({ target with subscription := target.subscription.fail (.ofHandler error) },
        some ⟨target.subscription.id, .ofHandler error⟩), made)

/-- A round of offers: each target is served with the calls that its subscriber has received by then. -/
def serveAll (verdict : Verdict) (status : Status) (entry : Nat × Message) :
    List (Target σ) → List CallNote → List (Target σ × Option SubscriptionFailure) × List CallNote
  | [], _ => ([], [])
  | target :: rest, calls =>
    let id := target.subscriber.id
    let (offered, made) := serve (verdict id) status entry target (callsOf id calls)
    -- Later targets see the calls that were made for this one.
    let (others, more) := serveAll verdict status entry rest (calls ++ made)
    (offered :: others, made ++ more)

/-- All that the delivery of messages to self-contained subscribers changes. -/
structure Scene (σ : Type) where
  targets : List (Target σ)
  calls : List CallNote
  errors : List SubscriptionFailure

namespace Scene

/-- The scene after one more message. -/
def next (verdict : Verdict) (status : Status) (scene : Scene σ) (entry : Nat × Message) : Scene σ :=
  let (offered, made) := serveAll verdict status entry scene.targets scene.calls
  { targets := offered.map Prod.fst
    calls := scene.calls ++ made
    errors := scene.errors ++ offered.filterMap Prod.snd }

/-- The scene after some messages. -/
def play (verdict : Verdict) (status : Status) (scene : Scene σ) (entries : List (Nat × Message)) : Scene σ :=
  entries.foldl (next verdict status) scene

end Scene

/-- One subscription fed alone: each message above its position is handed
over, until the first failure. -/
def alone (judge : List CallNote → HandlerOutcome) (subscriber : Subscriber σ) :
    List (Nat × Message) → Subscription → List CallNote → Subscription × List CallNote
  | [], row, own => (row, own)
  | (index, message) :: rest, row, own =>
    if index ≤ row.position then alone judge subscriber rest row own
    else
      match answer judge subscriber message own with
      | (made, none) => alone judge subscriber rest (row.changePosition index) (own ++ made)
      -- The first failure ends the delivery.
      | (made, some error) => (row.fail (.ofHandler error), own ++ made)

section Rounds

variable {judge : List CallNote → HandlerOutcome} {verdict : Verdict} {status : Status}
  {entry : Nat × Message} {target : Target σ} {own : List CallNote}

theorem serve_subscriber : (serve judge status entry target own).1.1.subscriber = target.subscriber := by
  -- Only the subscription of a target ever changes.
  unfold serve
  split
  · rfl
  · split <;> rfl

theorem serve_id : (serve judge status entry target own).1.1.subscription.id = target.subscription.id := by
  -- Neither moving on nor failing changes the id.
  unfold serve
  split
  · rfl
  · split <;> rfl

theorem serve_names :
    ∀ note ∈ (serve judge status entry target own).2, note.name = target.subscriber.id := by
  -- Whatever calls are made, they are made of the target's subscriber.
  have named : ∀ note ∈ (answer judge target.subscriber entry.2 own).1, note.name = target.subscriber.id :=
    respond_names
  unfold serve
  split
  · simp
  · split <;> rename_i shape <;> rw [shape] at named <;> exact named

/-- A round keeps the subscribers of the targets. -/
theorem serveAll_subscribers (targets : List (Target σ)) (calls : List CallNote) :
    ((serveAll verdict status entry targets calls).1.map Prod.fst).map Target.subscriber =
      targets.map Target.subscriber := by
  -- Each target keeps its subscriber, whatever calls were made before it.
  induction targets generalizing calls with
  | nil => rfl
  | cons target rest ih => simp only [serveAll, List.map_cons, serve_subscriber, ih]

/-- A round keeps the ids of the targets. -/
theorem serveAll_ids (targets : List (Target σ)) (calls : List CallNote) :
    Rows.ids (Target.all ((serveAll verdict status entry targets calls).1.map Prod.fst)) =
      Rows.ids (Target.all targets) := by
  -- Each target keeps its id, whatever calls were made before it.
  induction targets generalizing calls with
  | nil => rfl
  | cons target rest ih =>
    have later := ih (calls ++ (serve (verdict target.subscriber.id) status entry target
      (callsOf target.subscriber.id calls)).2)
    simp only [Target.all, serveAll, List.map_cons, Rows.ids_cons, serve_id] at later ⊢
    rw [later]

/-- In a round each target is served as if it were the only one. -/
theorem serveAll_fst {targets : List (Target σ)}
    (distinct : (targets.map fun target => target.subscriber.id).Nodup) (calls : List CallNote) :
    (serveAll verdict status entry targets calls).1 = targets.map fun target =>
      (serve (verdict target.subscriber.id) status entry target
        (callsOf target.subscriber.id calls)).1 := by
  -- Targets are served one after another, so each of them comes after the calls of those before it.
  induction targets generalizing calls with
  | nil => rfl
  | cons target rest ih =>
    rw [List.map_cons, List.nodup_cons] at distinct
    simp only [serveAll, List.map_cons, ih distinct.2]
    congr 1
    -- The calls of the first target are none of the others'.
    apply List.map_congr_left
    intro other member
    have different : target.subscriber.id ≠ other.subscriber.id := by
      intro same
      exact distinct.1 (same ▸ List.mem_map_of_mem member)
    rw [callsOf_append, callsOf_other serve_names different, List.append_nil]

/-- In a round a subscriber that has no target receives no calls. -/
theorem serveAll_absent {id : String} {targets : List (Target σ)}
    (absent : id ∉ targets.map fun target => target.subscriber.id) (calls : List CallNote) :
    callsOf id (serveAll verdict status entry targets calls).2 = [] := by
  -- The calls that are made for a target name its subscriber, which is another one.
  induction targets generalizing calls with
  | nil => rfl
  | cons target rest ih =>
    rw [List.map_cons, List.mem_cons, not_or] at absent
    have foreign : target.subscriber.id ≠ id := Ne.symm absent.1
    simp only [serveAll, callsOf_append, callsOf_other serve_names foreign, List.nil_append]
    exact ih absent.2 _

/-- In a round the subscriber of each target receives the calls that it would
receive if it were the only one. -/
theorem serveAll_calls {targets : List (Target σ)}
    (distinct : (targets.map fun target => target.subscriber.id).Nodup) (calls : List CallNote) :
    ∀ target ∈ targets, callsOf target.subscriber.id (serveAll verdict status entry targets calls).2 =
      (serve (verdict target.subscriber.id) status entry target (callsOf target.subscriber.id calls)).2 := by
  -- The calls of a round are sorted by the subscribers that made them.
  induction targets generalizing calls with
  | nil => simp
  | cons head rest ih =>
    rw [List.map_cons, List.nodup_cons] at distinct
    intro target member
    -- The calls of a round are those of the first target, and then those of the others.
    have made := @serve_names σ (verdict head.subscriber.id) status entry head
      (callsOf head.subscriber.id calls)
    simp only [serveAll, callsOf_append]
    rcases List.mem_cons.mp member with same | later
    · -- The others are served by other subscribers, so they add no calls of this one.
      subst same
      rw [callsOf_own made, serveAll_absent distinct.1, List.append_nil]
    · -- The first target adds no calls of the later one, and changes nothing for it.
      have different : head.subscriber.id ≠ target.subscriber.id := by
        intro same
        exact distinct.1 (same ▸ List.mem_map_of_mem later)
      rw [callsOf_other made different, List.nil_append, ih distinct.2 _ target later, callsOf_append,
        callsOf_other made different, List.append_nil]

/-- What a target comes to alone: nothing if it is not in the status to begin with. -/
def aloneIn (judge : List CallNote → HandlerOutcome) (status : Status) (entries : List (Nat × Message))
    (target : Target σ) (own : List CallNote) : Target σ × List CallNote :=
  if target.subscription.status = status then
    let (row, calls) := alone judge target.subscriber entries target.subscription own
    ({ target with subscription := row }, calls)
  else (target, own)

/-- Alone, a target is served the first message, and then the others. -/
theorem aloneIn_cons (unfailed : status ≠ .error) (rest : List (Nat × Message)) :
    aloneIn judge status (entry :: rest) target own =
      aloneIn judge status rest (serve judge status entry target own).1.1
        (own ++ (serve judge status entry target own).2) := by
  -- The target is not in the status, or past the message, or it is handed the message.
  by_cases current : target.subscription.status = status
  · by_cases past : entry.1 ≤ target.subscription.position
    · simp [aloneIn, alone, serve, current, past]
    · -- A subscription that has failed is not in the status any more.
      have stopped : ∀ error, (target.subscription.fail error).status ≠ status := fun error => unfailed.symm
      have kept : (target.subscription.changePosition entry.1).status = status := current
      cases shape : answer judge target.subscriber entry.2 own with
      | mk made error =>
        cases error with
        | none => simp [aloneIn, alone, serve, current, past, shape, kept]
        | some error => simp [aloneIn, alone, serve, current, past, shape, stopped]
  · simp [aloneIn, serve, current]

/-- Each target of a scene comes to what it comes to alone, and so do the calls of its subscriber. -/
theorem Scene.play_alone (unfailed : status ≠ .error) (entries : List (Nat × Message)) (scene : Scene σ)
    (distinct : (scene.targets.map fun target => target.subscriber.id).Nodup) :
    (scene.play verdict status entries).targets = scene.targets.map (fun target =>
      (aloneIn (verdict target.subscriber.id) status entries target
        (callsOf target.subscriber.id scene.calls)).1) ∧
    ∀ target ∈ scene.targets, callsOf target.subscriber.id (scene.play verdict status entries).calls =
      (aloneIn (verdict target.subscriber.id) status entries target
        (callsOf target.subscriber.id scene.calls)).2 := by
  -- Each message is a round, in which every target is served as if it were alone.
  induction entries generalizing scene with
  | nil =>
    -- Without messages nothing happens, in the scene or alone.
    have unread : ∀ (judge : List CallNote → HandlerOutcome) (target : Target σ) (own : List CallNote),
        aloneIn judge status [] target own = (target, own) := by
      intro judge target own
      simp [aloneIn, alone]
    simp [play, unread]
  | cons entry rest ih =>
    -- The targets of the next scene are the targets, each of them served.
    have targets : (scene.next verdict status entry).targets = scene.targets.map fun target =>
        (serve (verdict target.subscriber.id) status entry target
          (callsOf target.subscriber.id scene.calls)).1.1 := by
      simp [next, serveAll_fst distinct, Function.comp_def]
    have calls : ∀ target ∈ scene.targets,
        callsOf target.subscriber.id (scene.next verdict status entry).calls =
          callsOf target.subscriber.id scene.calls ++
            (serve (verdict target.subscriber.id) status entry target
              (callsOf target.subscriber.id scene.calls)).2 := by
      intro target member
      simp [next, serveAll_calls distinct _ target member]
    -- The subscribers stay the same, so they stay distinct.
    have names : (scene.next verdict status entry).targets.map (fun target => target.subscriber.id) =
        scene.targets.map fun target => target.subscriber.id := by
      simp [targets, Function.comp_def, serve_subscriber]
    obtain ⟨after, received⟩ := ih (scene.next verdict status entry) (names ▸ distinct)
    constructor
    · -- Where the others of the scene end is where each of them ends alone.
      show ((scene.next verdict status entry).play verdict status rest).targets = _
      rw [after, targets, List.map_map]
      apply List.map_congr_left
      intro target member
      simp only [Function.comp_apply, serve_subscriber, calls target member, aloneIn_cons unfailed]
    · -- The calls of a subscriber continue those of the first message.
      intro target member
      have served := received _ (targets ▸ List.mem_map_of_mem member)
      simp only [serve_subscriber, calls target member] at served
      rw [aloneIn_cons unfailed]
      exact served

end Rounds

namespace Stage

variable {stage : Stage σ} {engine : Engine σ} {verdict : Verdict} {status : Status}

/-- What is left of the offers of a message: some calls more, and an unchanged
log where nothing is appended. -/
structure Served (stage : Stage σ) (still : Prop) (made : List CallNote) (before after : σ) : Prop where
  calls : stage.calls after = stage.calls before ++ made
  rows : stage.rows.read after = stage.rows.read before
  log : still → stage.log after = stage.log before

/-- A report is no call, and appends nothing. -/
theorem Answered.served {still : Prop} {made : List CallNote} {notice : Notice} {before after : σ}
    (answered : stage.Answered still made (stage.observe notice before) after) :
    stage.Served still made before after := by
  -- The report changes the journal only.
  refine ⟨?_, ?_, ?_⟩
  · simpa using answered.calls
  · simpa using answered.onward.rows
  · simpa using answered.log

/-- A report after the offers changes nothing of what they leave. -/
theorem Served.observe {still : Prop} {made : List CallNote} {before after : σ}
    (served : stage.Served still made before after) (notice : Notice) :
    stage.Served still made before (stage.observe notice after) := by
  -- The report changes the journal only.
  refine ⟨?_, ?_, ?_⟩
  · simpa using served.calls
  · simpa using served.rows
  · simpa using served.log

/-- A self-contained subscriber is served as its calls say. -/
theorem Hosts.offer_served (hosted : stage.Hosts engine) (caught : engine.config.catchPanics = true)
    {judge : List CallNote → HandlerOutcome} {target : Target σ}
    (contained : stage.SelfContained judge target.subscriber) (entry : Nat × Message) (system : σ) :
    Ends (engine.offer status entry.1 entry.2 target) system fun offered after =>
      offered = (serve judge status entry target
        (callsOf target.subscriber.id (stage.calls system))).1 ∧
      stage.Served (stage.Resting target.subscriber) (serve judge status entry target
        (callsOf target.subscriber.id (stage.calls system))).2 system after := by
  -- An offer passes a target by, or hands it the message.
  unfold Engine.offer
  simp only
  split
  · rename_i other
    -- A target in another status is passed by.
    exact Meets.pure (by simpa [serve, other] using ⟨by simp, rfl, fun _ => rfl⟩)
  rename_i current
  split
  · rename_i past
    -- A target that is past the message is reported and passed by.
    exact hosted.note_meets (Meets.pure (by simpa [serve, past] using ⟨by simp, by simp, by simp⟩))
  rename_i behind
  rw [ne_eq, Decidable.not_not] at current
  -- The message is handed over, and what comes of it is reported.
  apply hosted.note_meets
  apply Meets.bind (handle_noted caught contained entry.2 _)
  intro result middle answered
  obtain ⟨rfl, answered⟩ := answered
  have served := answered.served
  rw [stage.calls_observe] at served ⊢
  cases shape : answer judge target.subscriber entry.2
      (callsOf target.subscriber.id (stage.calls system)) with
  | mk made error =>
    rw [shape] at served
    cases error with
    | none =>
      -- The subscription moves on to the message.
      have result : serve judge status entry target (callsOf target.subscriber.id (stage.calls system)) =
          (({ target with subscription := target.subscription.changePosition entry.1 }, none), made) := by
        simp [serve, current, behind, shape]
      rw [result]
      exact hosted.note_meets (Meets.pure ⟨rfl, served.observe _⟩)
    | some error =>
      -- The subscription fails, and the failure is reported.
      have result : serve judge status entry target (callsOf target.subscriber.id (stage.calls system)) =
          (({ target with subscription := target.subscription.fail (.ofHandler error) },
            some ⟨target.subscription.id, .ofHandler error⟩), made) := by
        simp [serve, current, behind, shape]
      rw [result]
      exact Meets.run_bind (hosted.fail_run target.subscription error middle)
        (Meets.pure ⟨rfl, served.observe _⟩)

/-- How far delivery has come: what it has changed is what the scene comes to. -/
structure Playing (stage : Stage σ) (verdict : Verdict) (status : Status) (scene : Scene σ) (start : σ)
    (read : List (Nat × Message)) (targets : List (Target σ)) (errors : List SubscriptionFailure)
    (system : σ) : Prop where
  contained : ∀ subscriber ∈ targets.map Target.subscriber,
    stage.SelfContained (verdict subscriber.id) subscriber
  scene : scene.play verdict status read = ⟨targets, stage.calls system, errors⟩
  log : (∀ subscriber ∈ targets.map Target.subscriber, stage.Resting subscriber) →
    stage.log system = stage.log start

/-- How far a round of offers has come: what is done and what the rest comes to make up the round. -/
structure Serving (stage : Stage σ) (verdict : Verdict) (status : Status) (entry : Nat × Message)
    (targets : List (Target σ)) (before : σ) (done : List (Target σ × Option SubscriptionFailure))
    (left : List (Target σ)) (system : σ) : Prop where
  offered : done ++ (serveAll verdict status entry left (stage.calls system)).1 =
    (serveAll verdict status entry targets (stage.calls before)).1
  calls : stage.calls system ++ (serveAll verdict status entry left (stage.calls system)).2 =
    stage.calls before ++ (serveAll verdict status entry targets (stage.calls before)).2
  rows : stage.rows.read system = stage.rows.read before
  left : ∀ target ∈ left, target ∈ targets
  log : (∀ subscriber ∈ targets.map Target.subscriber, stage.Resting subscriber) →
    stage.log system = stage.log before

/-- One more target is served. -/
theorem Serving.next {entry : Nat × Message} {targets : List (Target σ)} {before system after : σ}
    {done : List (Target σ × Option SubscriptionFailure)} {target : Target σ} {rest : List (Target σ)}
    (serving : stage.Serving verdict status entry targets before done (target :: rest) system)
    (served : stage.Served (stage.Resting target.subscriber)
      (serve (verdict target.subscriber.id) status entry target
        (callsOf target.subscriber.id (stage.calls system))).2 system after) :
    stage.Serving verdict status entry targets before (done ++ [(serve (verdict target.subscriber.id) status
      entry target (callsOf target.subscriber.id (stage.calls system))).1]) rest after := by
  -- What the rest comes to starts with the calls that have been made by now.
  obtain ⟨offered, calls, rows, left, log⟩ := serving
  simp only [serveAll] at offered calls
  refine ⟨?_, ?_, served.rows.trans rows, ?_, ?_⟩
  · rw [served.calls, List.append_assoc]
    exact offered
  · rw [served.calls, List.append_assoc]
    exact calls
  · intro other member
    exact left other (by simp [member])
  · intro resting
    have own := resting _ (List.mem_map_of_mem (left target (by simp)))
    exact (served.log own).trans (log resting)

/-- A round of offers is a step of the scene. -/
theorem Hosts.playing_offers (hosted : stage.Hosts engine) (caught : engine.config.catchPanics = true)
    (scene : Scene σ) (start : σ) :
    stage.Offers engine status (fun read _ => stage.Playing verdict status scene start read)
      fun _ _ => False := by
  -- The round is followed target by target, with the calls that are made in it.
  intro read entry rest targets errors system inHand playing
  obtain ⟨contained, shape, log⟩ := playing
  -- Before the first offer the whole round is left.
  have serving : stage.Serving verdict status entry targets system [] targets system :=
    ⟨rfl, rfl, rfl, fun _ member => member, fun _ => rfl⟩
  apply Meets.mono (Meets.mapM (stage.Serving verdict status entry targets system) ?_ targets [] system
    serving)
  · intro offered after serving
    -- The round is over when nobody is left.
    have results : offered = (serveAll verdict status entry targets (stage.calls system)).1 := by
      simpa [serveAll] using serving.offered
    have calls : stage.calls after =
        stage.calls system ++ (serveAll verdict status entry targets (stage.calls system)).2 := by
      simpa [serveAll] using serving.calls
    subst results
    refine ⟨serving.rows, serveAll_ids targets _, ?_, ?_, ?_⟩
    · rw [serveAll_subscribers]
      exact contained
    · -- The messages that were read and this one make up the next scene.
      simp only [Scene.play, List.foldl_append, List.foldl_cons, List.foldl_nil] at shape ⊢
      rw [shape, calls]
      rfl
    · rw [serveAll_subscribers]
      intro resting
      exact (serving.log resting).trans (log resting)
  · -- The next target is served with the calls that were made by then.
    intro done target rest between serving
    have member := serving.left target (by simp)
    apply Meets.mono (hosted.offer_served caught (contained _ (List.mem_map_of_mem member)) entry between)
    intro offered after one
    obtain ⟨rfl, served⟩ := one
    exact serving.next served

/-- Writing the targets is no step of the scene. -/
theorem playing_saves (scene : Scene σ) (start : σ) :
    stage.Saves fun read _ => stage.Playing verdict status scene start read := by
  -- Neither the calls nor the log are touched.
  intro read rest targets errors system after inHand playing stored
  refine ⟨playing.contained, ?_, ?_⟩
  · rw [stored.aside.calls]
    exact playing.scene
  · intro resting
    exact stored.aside.log.trans (playing.log resting)

/-- Before the first message, nothing has changed. -/
theorem playing_start {targets : List (Target σ)} {errors : List SubscriptionFailure} {system : σ}
    (contained : ∀ subscriber ∈ targets.map Target.subscriber,
      stage.SelfContained (verdict subscriber.id) subscriber) (notice : Notice) :
    stage.Playing verdict status ⟨targets, stage.calls system, errors⟩ system [] targets errors
      (stage.observe notice system) := by
  -- A scene without messages is what it was.
  refine ⟨contained, ?_, ?_⟩
  · simp [Scene.play]
  · simp

/-- After a window each target stands where it would stand alone, and its subscriber has received
what it would have received. -/
theorem Hosts.process_alone (hosted : stage.Hosts engine) (caught : engine.config.catchPanics = true)
    (fed : status = .booting ∨ status = .active) {limit : Option Nat} {window : Window σ} {system : σ}
    (isOpen : stage.Open window system) (unread : window.processed = 0)
    (current : ∀ target ∈ window.targets, target.subscription.status = status)
    (named : ∀ target ∈ window.targets, target.subscriber.id = target.subscription.id)
    (contained : ∀ target ∈ window.targets,
      stage.SelfContained (verdict target.subscriber.id) target.subscriber) :
    Ends (engine.process status limit window) system fun final after =>
      let fedAlone := fun target : Target σ => alone (verdict target.subscriber.id) target.subscriber
        (readUnder limit (stage.ahead window.targets system)) target.subscription
        (callsOf target.subscriber.id (stage.calls system))
      final.targets = window.targets.map (fun target => { target with subscription := (fedAlone target).1 }) ∧
      ∀ target ∈ window.targets,
        callsOf target.subscriber.id (stage.calls after) = (fedAlone target).2 := by
  have unfailed : status ≠ .error := by rcases fed with rfl | rfl <;> simp
  -- Subscribers have the ids of their subscriptions, and these are distinct.
  have distinct : (window.targets.map fun target => target.subscriber.id).Nodup := by
    have ids : (window.targets.map fun target => target.subscriber.id) =
        Rows.ids (Target.all window.targets) := by
      simp only [Rows.ids, Target.all, List.map_map]
      exact List.map_congr_left named
    rw [ids]
    exact isOpen.inHand.distinct
  have containedAll : ∀ subscriber ∈ window.targets.map Target.subscriber,
      stage.SelfContained (verdict subscriber.id) subscriber := by
    intro subscriber member
    obtain ⟨target, present, rfl⟩ := List.mem_map.mp member
    exact contained target present
  -- The window comes to what the scene comes to, and in the scene each target is alone.
  apply Meets.mono (hosted.process_meets (hosted.playing_offers caught _ system)
    (playing_saves _ system) isOpen unread (playing_start containedAll _))
  intro final after delivered
  obtain ⟨rest, playing⟩ := delivered.holds
  rw [List.nil_append] at playing
  have solo := @Scene.play_alone σ verdict status unfailed
    (readUnder limit (stage.ahead window.targets system))
    ⟨window.targets, stage.calls system, window.errors⟩ distinct
  rw [playing.scene] at solo
  obtain ⟨targets, calls⟩ := solo
  -- All targets are in the status, so each of them is fed alone.
  have whole : ∀ target ∈ window.targets, ∀ judge entries own, aloneIn judge status entries target own =
      ({ target with subscription := (alone judge target.subscriber entries target.subscription own).1 },
        (alone judge target.subscriber entries target.subscription own).2) := by
    intro target member judge entries own
    simp [aloneIn, current target member]
  constructor
  · apply targets.trans
    apply List.map_congr_left
    intro target member
    rw [whole target member]
  · intro target member
    apply (calls target member).trans
    rw [whole target member]

end Stage

namespace World

/-- One subscriber in the middle of the log and a shaky one at its beginning, both of them active. -/
def midway : World :=
  { telling ["a", "b", "c"] with
    rows := [{ id := "steady", status := .active, position := 1 }, { id := "shaky", status := .active }] }

/-- The window in which both are fed. -/
def midwayWindow : Window World where
  unit := .clean midway.rows
  targets := Stage.targetsIn (feeder pair .never { flushInterval := some 1 }) {} .active midway.rows

/-- In a window of three messages the shaky subscriber stops at the second one, and the other one
does not notice. -/
theorem midway_process_alone :
    Ends ((feeder pair .never { flushInterval := some 1 }).process .active (some 3) midwayWindow) midway
      fun final after =>
        (final.targets.map fun target => (target.subscription.position, target.subscription.status)) =
          [(3, .active), (1, .error)] ∧
        (midwayWindow.targets.map fun target =>
          (callsOf target.subscriber.id (stage.calls after)).length) = [2, 2] := by
  -- Both targets come from the stored rows.
  have isOpen : stage.Open midwayWindow midway :=
    ⟨rfl, ⟨by decide +kernel, by decide +kernel, by decide +kernel⟩, rfl⟩
  have registered : ∀ target ∈ midwayWindow.targets, target.subscriber ∈ pair :=
    Stage.registered_of_targetsIn
  apply Meets.mono (Stage.Hosts.process_alone (hosts pair .never _) rfl (Or.inr rfl) isOpen rfl
    (by decide +kernel) (by decide +kernel) fun target member => pair_contained _ (registered target member))
  intro final after ⟨targets, calls⟩
  constructor
  · rw [targets]
    decide +kernel
  · -- The counts are those of the calls that each would have received alone.
    have counted := List.map_congr_left fun target member => congrArg List.length (calls target member)
    rw [counted]
    decide +kernel

end World

end EventFeed
