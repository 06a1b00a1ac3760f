import EventFeed.Proofs.Errands

/-! Feeding, report by report: each target is handed the next message of its subscription, and who is left at the
end of a window is past all that was loaded for it. -/

namespace EventFeed

open EventFeed.Action
open Subscription (unstamped)

variable {σ : Type}

/-- While a subscription is in a status, the loaded messages above its position are left. -/
def Attends (loaded : List Nat) (status : Status) (left : List Nat) (row : Subscription) : Prop :=
  row.status = status → ∀ index ∈ loaded, row.position < index → index ∈ left

/-- A subscription that is past the first index, or no longer in the status, goes on with the others. -/
theorem Attends.next {loaded : List Nat} {status : Status} {index : Nat} {left : List Nat}
    {row next : Subscription} (attends : Attends loaded status (index :: left) row)
    (past : next.status = status → row.status = status ∧ row.position ≤ next.position ∧
      index ≤ next.position) : Attends loaded status left next := by
  -- The first index is not above the new position.
  intro current other member further
  obtain ⟨was, onward, reached⟩ := past current
  rcases List.mem_cons.mp (attends was other member (by omega)) with rfl | after
  · omega
  · exact after

/-- A subscription for which nothing is left is past all that was loaded. -/
theorem Attends.through {loaded : List Nat} {row : Subscription} (attends : Attends loaded row.status [] row) :
    ∀ index ∈ loaded, index ≤ row.position := by
  -- An index above the position would still be left.
  intro index member
  by_contra behind
  have absurd := attends rfl index member (Nat.lt_of_not_le behind)
  cases absurd

/-- A target that is meant and has the subscriber of its id, and for which no message is left out. -/
structure Tended (engine : Engine σ) (operation : Operation) (log : List (Nat × Message)) (loaded : List Nat)
    (status : Status) (left : List Nat) (target : Target σ) : Prop where
  found : engine.registry.get? target.subscription.id = some target.subscriber
  meant : operation.criteria.admits target.subscription.id target.subscription.group = true
  ready : Ready log status left target.subscription
  attends : Attends loaded status left target.subscription

/-- A target stays tended while the log grows. -/
theorem Tended.grow {engine : Engine σ} {operation : Operation} {log longer : List (Nat × Message)}
    {loaded : List Nat} {status : Status} {left : List Nat} {target : Target σ}
    (tended : Tended engine operation log loaded status left target) (listed : Listed log left)
    (grown : log <+: longer) (ascending : (longer.map Prod.fst).Pairwise (· < ·)) :
    Tended engine operation longer loaded status left target :=
  ⟨tended.found, tended.meant, tended.ready.grow listed grown ascending, tended.attends⟩

namespace Stage

variable {stage : Stage σ} {engine : Engine σ} {operation : Operation} {first : Chronicle} {loaded : List Nat}
  {status : Status} {known : List Subscription} {system : σ}

/-- Targets in hand are known as they are. -/
theorem InHand.mem_knownRows {front back : List (Target σ)} {target : Target σ}
    (inHand : stage.InHand (front ++ target :: back) system) :
    target.subscription ∈ stage.knownRows (front ++ target :: back) system :=
  Rows.mem_overlay inHand.distinct (by simp [Target.all]) (inHand.known _ (by simp [Target.all, Rows.ids]))

/-- A change of one of the targets in hand takes its place among the rows that are known. -/
theorem InHand.knownRows_middle {front back : List (Target σ)} {target next : Target σ} {after : σ}
    (inHand : stage.InHand (front ++ target :: back) system) (id : next.subscription.id = target.subscription.id)
    (rows : stage.rows.read after = stage.rows.read system) :
    stage.knownRows (front ++ next :: back) after =
      Rows.put next.subscription (stage.knownRows (front ++ target :: back) system) := by
  -- The ids of the targets differ, so exactly one row is replaced.
  have apart : (Rows.ids (Target.all front ++ target.subscription :: Target.all back)).Nodup := by
    simpa [Target.all] using inHand.distinct
  simpa [knownRows, Target.all, rows] using Rows.overlay_middle id apart

/-- What the offer of a message to a target leaves. -/
structure Handed (stage : Stage σ) (engine : Engine σ) (operation : Operation) (first : Chronicle)
    (loaded : List Nat) (status : Status) (left : List Nat) (known : List Subscription) (target : Target σ)
    (before : σ) (next : Target σ) (after : σ) : Prop where
  id : next.subscription.id = target.subscription.id
  tended : Tended engine operation (stage.log after) loaded status left next
  rows : stage.rows.read after = stage.rows.read before
  log : stage.log before <+: stage.log after
  recorded : stage.Recorded engine operation first loaded (Rows.put next.subscription known) after

/-- A target is handed its next message, and any other message is passed over. -/
theorem Hosts.offer_hands (hosted : stage.Hosts engine) {index : Nat} {left : List Nat} {message : Message}
    {target : Target σ}
    (behaves : ∀ subscriber ∈ engine.registry.subscribers, stage.Behaves subscriber)
    (fed : operation.fed = some status) (distinct : (Rows.ids known).Nodup)
    (member : target.subscription ∈ known) (listed : Listed (stage.log system) (index :: left))
    (tended : Tended engine operation (stage.log system) loaded status (index :: left) target)
    (read : index ∈ loaded)
    (recorded : stage.Recorded engine operation first loaded known system) :
    Meets (engine.offer status index message target) system (fun offered after =>
      stage.Handed engine operation first loaded status left known target system offered.1 after)
      (stage.Severed engine operation first) := by
  -- The cases are those of the offer, and each is a deed on the row of the target, or none at all.
  have own : Rows.put target.subscription known = known := Rows.put_of_mem distinct member
  have registered := List.mem_of_find?_eq_some tended.found
  -- A target goes on with what is left once it is past the message, or no longer in the status.
  have onward : ∀ {after} {row : Subscription}, stage.log system <+: stage.log after →
      row.id = target.subscription.id → row.group = target.subscription.group →
      (row.status = status → target.subscription.status = status ∧
        target.subscription.position ≤ row.position ∧ index ≤ row.position) →
      Tended engine operation (stage.log after) loaded status left { target with subscription := row } := by
    intro after row grown id group past
    have later := tended.grow listed grown (stage.ascending after)
    exact ⟨id ▸ tended.found, id ▸ group ▸ tended.meant, later.ready.next past, later.attends.next past⟩
  unfold Engine.offer
  simp only
  split
  · -- A target in another status is passed by.
    rename_i other
    exact Meets.pure ⟨rfl, onward (List.prefix_refl _) rfl rfl fun current => absurd current other, rfl,
      List.prefix_refl _, own.symm ▸ recorded⟩
  rename_i current
  rw [ne_eq, Decidable.not_not] at current
  split
  · -- A target that is past the message reports that, and stays.
    rename_i past
    exact hosted.note_meets (Meets.pure ⟨rfl,
      onward (by simp) rfl rfl fun _ => ⟨current, Nat.le_refl _, past⟩, by simp, by simp,
      own.symm ▸ recorded.observe rfl⟩)
  rename_i behind
  rw [Nat.not_le] at behind
  have working : operation.fed = some target.subscription.status := current ▸ fed
  -- From here on the message is handed over, and the log may grow while it is handled.
  have handed : ∀ {after}, stage.Onward (stage.observe
      (.dispatching target.subscription.id index message.eventType) system) after →
      stage.log system <+: stage.log after ∧ stage.rows.read after = stage.rows.read system ∧
        stage.journal after = stage.journal system ++
          [.dispatching target.subscription.id index message.eventType] := by
    intro after moved
    exact ⟨by simpa using moved.log, by simpa using moved.rows, by simpa using moved.journal⟩
  have awaits : ∀ {after}, stage.log system <+: stage.log after →
      Awaits (stage.log after) target.subscription index := fun grown =>
    (tended.ready.grow listed grown (stage.ascending _)).awaits (listed.grow grown) current behind
  apply hosted.note_meets
  refine ((handle_meets (behaves _ registered) message _).weaken (fun _ _ moved => moved) ?_).bind ?_
  · intro abort after early
    obtain ⟨uncaught, moved⟩ := early
    obtain ⟨grown, rows, journal⟩ := handed moved
    -- A panic that nobody catches breaks the handling off.
    have later := Chronicle.Leads.step recorded (.grow grown (stage.ascending after))
    have broken := later.step (.deed member tended.meant
      (.breakOff working tended.found (awaits grown) read message.eventType uncaught.1))
    exact ⟨uncaught, loaded, _, by simpa [Recorded, chronicle, journal, rows] using broken⟩
  intro result middle moved
  obtain ⟨grown, rows, journal⟩ := handed moved
  have later := Chronicle.Leads.step recorded (.grow grown (stage.ascending middle))
  cases result with
  | ok _ =>
    -- The message was handled, and the subscription moves to it.
    have step := later.step (.deed member tended.meant
      (.handle working tended.found (awaits grown) read message.eventType))
    exact hosted.note_meets (Meets.pure ⟨rfl, onward (by simpa using grown) rfl rfl
      fun _ => ⟨current, Nat.le_max_left _ _, Nat.le_max_right _ _⟩, by simpa using rows, by simpa using grown,
      by simpa [Recorded, chronicle, journal, rows] using step⟩)
  | error error =>
    -- The message was not handled, and the subscription stops before it.
    apply Meets.run_bind (hosted.fail_run target.subscription error middle)
    have step := later.step (.deed member tended.meant
      (.failHandle working tended.found (awaits grown) read message.eventType (.ofHandler error)))
    refine Meets.pure ⟨rfl, onward (by simpa using grown) rfl rfl fun absurd => ?_, by simpa using rows,
      by simpa using grown, by simpa [Recorded, chronicle, journal, rows] using step⟩
    rcases Operation.fed_cases fed with rfl | rfl <;> cases absurd

/-- The invariant of delivery: every target is tended, and everything so far is recorded. -/
structure Distributing (stage : Stage σ) (engine : Engine σ) (operation : Operation) (first : Chronicle)
    (loaded : List Nat) (status : Status) (left : List Nat) (targets : List (Target σ)) (system : σ) : Prop where
  within : ∀ index ∈ left, index ∈ loaded
  listed : Listed (stage.log system) left
  tended : ∀ target ∈ targets, Tended engine operation (stage.log system) loaded status left target
  recorded : stage.Recorded engine operation first loaded (stage.knownRows targets system) system

/-- How far a round of offers has come: the targets in front have been offered the message. -/
structure Serve (stage : Stage σ) (engine : Engine σ) (operation : Operation) (first : Chronicle)
    (loaded : List Nat) (status : Status) (index : Nat) (left : List Nat) (before : σ)
    (front back : List (Target σ)) (system : σ) : Prop where
  within : ∀ other ∈ index :: left, other ∈ loaded
  listed : Listed (stage.log system) (index :: left)
  offered : ∀ target ∈ front, Tended engine operation (stage.log system) loaded status left target
  waiting : ∀ target ∈ back, Tended engine operation (stage.log system) loaded status (index :: left) target
  rows : stage.rows.read system = stage.rows.read before
  recorded : stage.Recorded engine operation first loaded (stage.knownRows (front ++ back) system) system

/-- One more target is offered the message. -/
theorem Hosts.serve_meets (hosted : stage.Hosts engine) {index : Nat} {left : List Nat} {message : Message}
    {front back : List (Target σ)} {target : Target σ} {before : σ}
    (behaves : ∀ subscriber ∈ engine.registry.subscribers, stage.Behaves subscriber)
    (fed : operation.fed = some status) (inHand : stage.InHand (front ++ target :: back) system)
    (serve : stage.Serve engine operation first loaded status index left before front (target :: back) system) :
    Meets (engine.offer status index message target) system (fun offered after =>
      offered.1.subscription.id = target.subscription.id ∧
      stage.Serve engine operation first loaded status index left before (front ++ [offered.1]) back after)
      (stage.Severed engine operation first) := by
  -- The targets in front have been offered the message already, and those behind still wait for it.
  have distinct : (Rows.ids (stage.knownRows (front ++ target :: back) system)).Nodup := by
    simpa [knownRows] using inHand.stored
  refine (hosted.offer_hands behaves fed distinct inHand.mem_knownRows serve.listed (serve.waiting target (by simp))
    (serve.within index (by simp)) serve.recorded).mono ?_
  intro offered after handed
  have ascending := stage.ascending after
  refine ⟨handed.id, serve.within, serve.listed.grow handed.log, ?_, ?_, handed.rows.trans serve.rows, ?_⟩
  · -- The target joins those that have been offered the message.
    intro other present
    rcases List.mem_append.mp present with inFront | here
    · exact (serve.offered other inFront).grow serve.listed.tail handed.log ascending
    · rw [List.mem_singleton.mp here]
      exact handed.tended
  · exact fun other present =>
      (serve.waiting other (by simp [present])).grow serve.listed handed.log ascending
  · -- The subscription takes its place among the rows that are known.
    have places := inHand.knownRows_middle handed.id handed.rows
    rw [List.append_assoc, List.singleton_append, places]
    exact handed.recorded

/-- Offering a message to every target keeps the invariant of delivery. -/
theorem Hosts.distributing_offers (hosted : stage.Hosts engine) {entries : List (Nat × Message)}
    (behaves : ∀ subscriber ∈ engine.registry.subscribers, stage.Behaves subscriber)
    (fed : operation.fed = some status) :
    stage.Offers engine status (fun read left targets _ system => read ++ left = entries ∧
      stage.Distributing engine operation first loaded status (left.map Prod.fst) targets system)
      (stage.Severed engine operation first) := by
  -- The targets are gone through one after another.
  intro read entry rest targets errors system inHand ends
  obtain ⟨whole, distributing⟩ := ends
  refine (Meets.mapM (fun done back between =>
    Rows.ids (Target.all (done.map Prod.fst ++ back)) = Rows.ids (Target.all targets) ∧
    stage.Serve engine operation first loaded status entry.1 (rest.map Prod.fst) system (done.map Prod.fst) back
      between) ?_ targets [] system
    ⟨rfl, distributing.within, distributing.listed, by simp, distributing.tended, rfl, distributing.recorded⟩).mono ?_
  · intro done target back between ends
    obtain ⟨ids, serve⟩ := ends
    have inHandNow := inHand.of_ids ids (by rw [serve.rows])
    apply (hosted.serve_meets behaves fed inHandNow serve).mono
    intro offered after ends
    obtain ⟨id, serve⟩ := ends
    refine ⟨?_, by simpa using serve⟩
    rw [← ids]
    simp [Target.all, id]
  · -- In the end everybody has been offered the message.
    intro offered after ends
    obtain ⟨ids, serve⟩ := ends
    simp only [List.append_nil, List.nil_append] at ids serve
    exact ⟨serve.rows, ids, by simpa using whole, fun index member => serve.within index (by simp [member]),
      serve.listed.tail, serve.offered, by simpa using serve.recorded⟩

/-- Writing the targets keeps the invariant of delivery. -/
theorem distributing_saves {entries : List (Nat × Message)} :
    stage.Saves fun read left targets _ system => read ++ left = entries ∧
      stage.Distributing engine operation first loaded status (left.map Prod.fst) targets system := by
  -- The log stays, and what is known is what is written.
  intro read rest targets errors system after inHand ends written
  obtain ⟨aside, fields, spared⟩ := written
  obtain ⟨whole, within, listed, tended, recorded⟩ := ends
  refine ⟨whole, within, aside.log.symm ▸ listed, aside.log.symm ▸ tended,
    recorded.saved aside fields (Rows.overlay_again fields) fun row known stored => ?_⟩
  -- A row that stays as it is, and is known as it is, still is.
  have kept := spared row known stored
  exact ⟨kept, Rows.mem_overlay_of_mem inHand.stored known stored kept⟩

/-- What is loaded for some targets leaves out none of their messages. -/
theorem distributing_start {targets : List (Target σ)}
    (found : ∀ target ∈ targets, engine.registry.get? target.subscription.id = some target.subscriber ∧
      operation.criteria.admits target.subscription.id target.subscription.group = true)
    (recorded : stage.Recorded engine operation first loaded (stage.knownRows targets system) system) :
    stage.Distributing engine operation first (stage.indices system) status ((stage.ahead targets system).map Prod.fst)
      targets (stage.observe (.loading (Engine.lowestPosition targets) targets.length) system) := by
  -- Loading starts at the lowest position, so that no target misses a message.
  have kept : ((stage.ahead targets system).map Prod.fst).Sublist ((stage.log system).map Prod.fst) :=
    List.filter_sublist.map Prod.fst
  -- An index above the position of a target is above the lowest position.
  have loads : ∀ target ∈ targets, ∀ index ∈ stage.indices system, target.subscription.position < index →
      index ∈ (stage.ahead targets system).map Prod.fst := by
    intro target member index present further
    obtain ⟨entry, logged, rfl⟩ := List.mem_map.mp present
    have lowest := lowestPosition_le member
    refine List.mem_map_of_mem (List.mem_filter.mpr ⟨logged, ?_⟩)
    simpa using Nat.lt_of_le_of_lt lowest further
  refine ⟨fun index member => kept.subset member, ⟨(stage.ascending system).sublist kept, ?_⟩, ?_, ?_⟩
  · simpa using fun index member => kept.subset member
  · intro target member
    refine ⟨(found target member).1, (found target member).2, ?_, ?_⟩
    · intro _ index present further
      rw [stage.log_observe] at present
      exact Or.inl (loads target member index present further)
    · exact fun _ index present further => loads target member index present further
  · have step := Chronicle.Leads.step recorded (.load (Engine.lowestPosition targets) targets.length)
    simpa [Recorded, chronicle, indices, knownRows] using step

/-- What a change leaves that is made to a subscription at the end of a window. -/
structure Closed (stage : Stage σ) (engine : Engine σ) (operation : Operation) (loaded : List Nat)
    (row : Subscription) (before : σ) (next : Subscription) (after : σ) : Prop where
  deed : ∃ notices, Deed engine operation (stage.log before) loaded notices row next ∧
    stage.journal after = stage.journal before ++ notices
  rows : stage.rows.read after = stage.rows.read before
  log : stage.log after = stage.log before

/-- A subscription that has caught up becomes active, or is finished. -/
theorem Hosts.caughtUp_closes (hosted : stage.Hosts engine) (fed : operation.fed = some .booting)
    {row : Subscription} (status : row.status = .booting) (through : ∀ index ∈ loaded, index ≤ row.position) :
    Ends (engine.caughtUp row) system (stage.Closed engine operation loaded row system) := by
  -- The run mode decides which of the two it is.
  unfold Engine.caughtUp
  split
  · rename_i mode
    exact hosted.note_meets (Meets.pure
      ⟨⟨_, .finish (status.symm ▸ fed) mode through, by simp⟩, by simp, by simp⟩)
  · rename_i mode
    exact hosted.note_meets (Meets.pure ⟨⟨_, .activate fed status mode through, by simp⟩, by simp, by simp⟩)

/-- A subscription that kept up forgets its retries, or is finished. -/
theorem Hosts.keptUp_closes (hosted : stage.Hosts engine) (fed : operation.fed = some .active)
    {row : Subscription} (status : row.status = .active) (through : ∀ index ∈ loaded, index ≤ row.position) :
    Ends (engine.keptUp row) system (stage.Closed engine operation loaded row system) := by
  -- The run mode decides which of the two it is.
  unfold Engine.keptUp
  split
  · rename_i mode
    exact hosted.note_meets (Meets.pure
      ⟨⟨_, .finish (status.symm ▸ fed) mode through, by simp⟩, by simp, by simp⟩)
  · rename_i mode
    exact Meets.pure ⟨⟨_, .recover fed status mode through, by simp⟩, rfl, rfl⟩

/-- The changes that targets in a status go through at the end of a window are deeds. -/
theorem settleTargets_records {change : Subscription → Action σ Subscription}
    (closes : ∀ row between, row.status = status → (∀ index ∈ loaded, index ≤ row.position) →
      Ends (change row) between (stage.Closed engine operation loaded row between))
    {targets : List (Target σ)} (inHand : stage.InHand targets system)
    (distributing : stage.Distributing engine operation first loaded status [] targets system) :
    Ends (Engine.settleTargets status change targets) system fun next after =>
      Rows.ids (Target.all next) = Rows.ids (Target.all targets) ∧
        stage.rows.read after = stage.rows.read system ∧
        stage.Recorded engine operation first loaded (stage.knownRows next after) after := by
  -- The targets are changed one after another, and those that are left are still as they were.
  refine (Meets.mapM (fun done left between => Rows.ids (Target.all (done ++ left)) = Rows.ids (Target.all targets) ∧
    (∀ target ∈ left, target ∈ targets) ∧ stage.rows.read between = stage.rows.read system ∧
    stage.Recorded engine operation first loaded (stage.knownRows (done ++ left) between) between)
    ?_ targets [] system ⟨rfl, fun _ member => member, rfl, distributing.recorded⟩).mono ?_
  · intro done target left between ends
    obtain ⟨ids, waiting, rows, recorded⟩ := ends
    have tended := distributing.tended target (waiting target (by simp))
    have others : ∀ other ∈ left, other ∈ targets := fun other member => waiting other (by simp [member])
    split
    · rename_i current
      -- A target in the status is past all that was loaded.
      have inHandNow : stage.InHand (done ++ target :: left) between := inHand.of_ids ids (by rw [rows])
      have through : ∀ index ∈ loaded, index ≤ target.subscription.position := by
        have attends := tended.attends
        rw [← current] at attends
        exact attends.through
      apply (closes target.subscription between current through).bind
      intro next after ends
      obtain ⟨⟨notices, deed, journal⟩, same, log⟩ := ends
      have id := deed.named.1
      have changed := recorded.deed inHandNow.mem_knownRows tended.meant deed same log journal
      have places : stage.knownRows (done ++ { target with subscription := next } :: left) after = _ :=
        inHandNow.knownRows_middle id same
      rw [← places] at changed
      refine Meets.pure ⟨?_, others, same.trans rows, by simpa using changed⟩
      rw [← ids]
      simp [Target.all, id]
    · -- Any other one stays.
      exact Meets.pure ⟨by simpa using ids, others, rows, by simpa using recorded⟩
  · intro next after ends
    obtain ⟨ids, -, rows, recorded⟩ := ends
    exact ⟨by simpa using ids, rows, by simpa using recorded⟩

/-- All messages are read under a limit that they do not reach. -/
theorem readUnder_of_exhausts {α : Type} {limit : Option Nat} {items : List α}
    (all : exhausts limit items.length = true) : readUnder limit items = items := by
  -- The limit is above the number of messages, so taking as many takes all.
  cases limit with
  | none => rfl
  | some limit =>
    have short : items.length < max 1 limit := by simpa [exhausts] using all
    exact List.take_of_length_le (Nat.le_of_lt short)

/-- Feeding targets is a sequence of deeds. -/
theorem Hosts.feed_enters (hosted : stage.Hosts engine) {criteria : FeedCriteria} {limit : Option Nat}
    {idle : Notice} {change : Subscription → Action σ Subscription} {errors : List SubscriptionFailure}
    (behaves : ∀ subscriber ∈ engine.registry.subscribers, stage.Behaves subscriber)
    (fed : operation.fed = some status) (asked : operation.criteria = criteria) (nothing : idle.idle = true)
    (closes : ∀ loaded row between, row.status = status → (∀ index ∈ loaded, index ≤ row.position) →
      Ends (change row) between (stage.Closed engine operation loaded row between))
    (entered : stage.Entered engine operation first loaded system) :
    Meets (engine.feed status limit idle change errors
        (targetsIn engine criteria status (stage.rows.read system)) (.clean (stage.rows.read system)))
      system (fun _ after => ∃ loaded, stage.Entered engine operation first loaded after)
      (stage.Severed engine operation first) := by
  -- The targets are taken as they are stored, the messages are distributed, and each target is closed at the end.
  subst asked
  generalize targets_eq : targetsIn engine operation.criteria status (stage.rows.read system) = targets
  have inHand : stage.InHand targets system := targets_eq ▸ inHand_targetsIn entered.distinct
  have found : ∀ target ∈ targets, engine.registry.get? target.subscription.id = some target.subscriber ∧
      operation.criteria.admits target.subscription.id target.subscription.group = true := by
    intro target member
    obtain ⟨-, meant, -, known⟩ := mem_targetsIn.mp (targets_eq ▸ member)
    exact ⟨known, meant⟩
  -- Before the feeding, the targets are as they are stored.
  have own : stage.knownRows targets system = stage.rows.read system := by
    refine Rows.overlay_of_subset entered.distinct fun row member => ?_
    obtain ⟨target, present, rfl⟩ := List.mem_map.mp member
    exact (mem_targetsIn.mp (targets_eq ▸ present)).1
  by_cases nobody : targets = []
  · -- Where nobody is fed, that is reported and nothing else happens.
    rw [nobody]
    exact Meets.of_run (hosted.feed_idle system) ⟨loaded, entered.observe nothing⟩
  have somebody : targets.isEmpty = false := by simpa using nobody
  simp only [Engine.feed, somebody, Bool.false_eq_true, if_false]
  have isOpen : stage.Open { unit := .clean (stage.rows.read system), targets, errors } system :=
    ⟨rfl, inHand, rfl⟩
  apply (hosted.process_meets (hosted.distributing_offers behaves fed) distributing_saves isOpen rfl
    ⟨List.nil_append _, distributing_start found (own.symm ▸ entered.recorded)⟩).bind
  intro window middle ends
  obtain ⟨clean, inHandFinal, -, -, finished, -, ⟨rest, whole, distributing⟩, saved⟩ := ends
  cases done : window.finished with
  | true =>
    -- At the end of the window nothing is left, and those that are left are settled and written.
    have complete := readUnder_of_exhausts (finished.symm.trans done)
    rw [List.nil_append, complete] at whole
    obtain rfl : rest = [] := by simpa using whole
    apply Meets.bind (settleTargets_records (closes _) inHandFinal distributing).meets
    intro next last ends
    obtain ⟨ids, rows, recorded⟩ := ends
    rw [clean, ← rows]
    apply Meets.bind (hosted.persist_ends (inHandFinal.of_ids ids (by rw [rows]))).meets
    intro unit after ends
    obtain ⟨rfl, inHandAfter, written⟩ := ends
    exact Meets.pure ⟨_, inHandAfter.stored, recorded.flushed written.aside written.fields written.spared⟩
  | false =>
    -- Where the limit has cut the window, all has been written already.
    have written := distributing.recorded.flushed (.refl middle) (saved done) fun _ _ stored => stored
    exact Meets.pure ⟨stage.indices system, inHandFinal.stored, written⟩

end Stage

end EventFeed
