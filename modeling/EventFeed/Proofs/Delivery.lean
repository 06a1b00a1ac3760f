import EventFeed.Proofs.Setup

/-! Delivery: targets are offered one message after another, and their
subscriptions are written in their places. -/

namespace EventFeed

open EventFeed.Action
open Subscription (unstamped)

variable {σ : Type}

/-- The subscriptions of some targets. -/
def Target.all (targets : List (Target σ)) : List Subscription := targets.map Target.subscription

namespace Stage

variable {stage : Stage σ} {engine : Engine σ}

/-- The subscriptions in a status that are meant and have a subscriber, as targets. -/
def targetsIn (engine : Engine σ) (criteria : FeedCriteria) (status : Status) (rows : List Subscription) :
    List (Target σ) :=
  (Rows.find rows (criteria.withStatuses [status])).filterMap fun subscription =>
    (engine.registry.get? subscription.id).map fun subscriber => { subscription, subscriber }

/-- A target has a stored subscription that is meant and in the status, and the subscriber of its id. -/
theorem mem_targetsIn {criteria : FeedCriteria} {status : Status} {rows : List Subscription}
    {target : Target σ} : target ∈ targetsIn engine criteria status rows ↔
      target.subscription ∈ rows ∧ criteria.admits target.subscription.id target.subscription.group = true ∧
        target.subscription.status = status ∧
        engine.registry.get? target.subscription.id = some target.subscriber := by
  -- Both sides go through the rows that are found.
  obtain ⟨subscription, subscriber⟩ := target
  simp only [targetsIn, Rows.find, List.mem_filterMap, List.mem_filter, Option.map_eq_some_iff,
    Target.mk.injEq, FeedCriteria.admits_withStatuses, Bool.and_eq_true, decide_eq_true_eq,
    List.mem_singleton]
  constructor
  · intro listed
    obtain ⟨row, ⟨member, meant, found⟩, other, known, rfl, rfl⟩ := listed
    exact ⟨member, meant, found, known⟩
  · intro wanted
    obtain ⟨member, meant, found, known⟩ := wanted
    exact ⟨subscription, ⟨member, meant, found⟩, subscriber, known, rfl, rfl⟩

/-- Targets have distinct ids when the rows have. -/
theorem distinct_targetsIn {criteria : FeedCriteria} {status : Status} {rows : List Subscription}
    (distinct : (Rows.ids rows).Nodup) :
    (Rows.ids (Target.all (targetsIn engine criteria status rows))).Nodup := by
  -- The subscriptions of the targets are some of the rows, in their order.
  have kept : Target.all (targetsIn engine criteria status rows) =
      (Rows.find rows (criteria.withStatuses [status])).filter fun row => engine.registry.knows row.id := by
    simp only [Target.all, targetsIn, Registry.knows]
    induction Rows.find rows (criteria.withStatuses [status]) with
    | nil => rfl
    -- A row without a subscriber is no target.
    | cons row rest ih =>
      cases known : engine.registry.get? row.id <;> simp [known, ih]
  rw [kept]
  exact distinct.sublist ((List.filter_sublist.trans List.filter_sublist).map Subscription.id)

/-- Targets are found in a clean unit as they are stored. -/
theorem Hosts.targets_run (hosted : stage.Hosts engine) {criteria : FeedCriteria} {status : Status}
    {system : σ} (distinct : (Rows.ids (stage.rows.read system)).Nodup) :
    engine.targets criteria status (.clean (stage.rows.read system)) system =
      .ok (targetsIn engine criteria status (stage.rows.read system), .clean (stage.rows.read system))
        system := by
  -- The subscribers are looked up after the rows have been found.
  have found := hosted.find_run distinct (criteria.withStatuses [status])
  simp [Engine.targets, bind, EStateM.bind, found, pure, EStateM.pure, targetsIn]

/-- Targets that an engine has in hand: their subscriptions are stored under distinct ids. -/
structure InHand (stage : Stage σ) (targets : List (Target σ)) (system : σ) : Prop where
  stored : (Rows.ids (stage.rows.read system)).Nodup
  distinct : (Rows.ids (Target.all targets)).Nodup
  known : ∀ id ∈ Rows.ids (Target.all targets), id ∈ Rows.ids (stage.rows.read system)

/-- Targets stay in hand while neither their ids nor those of the rows change. -/
theorem InHand.of_ids {targets next : List (Target σ)} {before after : σ}
    (inHand : stage.InHand targets before)
    (targets_ids : Rows.ids (Target.all next) = Rows.ids (Target.all targets))
    (rows_ids : Rows.ids (stage.rows.read after) = Rows.ids (stage.rows.read before)) :
    stage.InHand next after := by
  -- Only ids are looked at.
  obtain ⟨stored, distinct, known⟩ := inHand
  rw [← rows_ids] at stored known
  rw [← targets_ids] at distinct known
  exact ⟨stored, distinct, known⟩

/-- Targets that are found among the stored rows are in hand. -/
theorem inHand_targetsIn {criteria : FeedCriteria} {status : Status} {system : σ}
    (distinct : (Rows.ids (stage.rows.read system)).Nodup) :
    stage.InHand (targetsIn engine criteria status (stage.rows.read system)) system := by
  -- Each of them has a stored subscription.
  refine ⟨distinct, distinct_targetsIn distinct, ?_⟩
  intro id member
  obtain ⟨row, present, rfl⟩ := List.mem_map.mp member
  obtain ⟨target, inTargets, rfl⟩ := List.mem_map.mp present
  exact Rows.id_mem_ids (mem_targetsIn.mp inTargets).1

/-- What is found is the subscriber of its id, and is registered. -/
theorem registered_of_targetsIn {criteria : FeedCriteria} {status : Status} {rows : List Subscription} :
    ∀ target ∈ targetsIn engine criteria status rows, target.subscriber ∈ engine.registry.subscribers :=
  fun _ member => List.mem_of_find?_eq_some (mem_targetsIn.mp member).2.2.2

/-- The rows as an engine knows them while it has some targets in hand. -/
def knownRows (stage : Stage σ) (targets : List (Target σ)) (system : σ) : List Subscription :=
  Rows.overlay (Target.all targets) (stage.rows.read system)

/-- Keeping back the subscriptions of targets puts them in the places of their drafts. -/
theorem Keeps.updateAll {targets : List (Target σ)} {unit : WorkUnit} {drafts : List Subscription}
    {system : σ} (keeps : stage.Keeps unit drafts system) (distinct : (Rows.ids (Target.all targets)).Nodup)
    (known : ∀ id ∈ Rows.ids (Target.all targets), id ∈ Rows.ids drafts) :
    ∃ next, stage.Keeps (Engine.updateAll targets unit) next system ∧
      next.map unstamped = (Rows.overlay (Target.all targets) drafts).map unstamped := by
  -- The first target is put in its place, and the others follow.
  induction targets generalizing unit drafts with
  | nil => exact ⟨drafts, keeps, by simp [Target.all]⟩
  | cons target rest ih =>
    simp only [Target.all, List.map_cons, Rows.ids_cons, List.nodup_cons, List.mem_cons] at distinct known
    obtain ⟨absent, distinct⟩ := distinct
    have updated := keeps.update (known _ (Or.inl rfl))
    -- A draft keeps the stamp that it had, which makes no difference without stamps.
    have same : ∀ place : Subscription, (if place.id = target.subscription.id then
        { target.subscription with lastSavedAt := place.lastSavedAt.or target.subscription.lastSavedAt }
        else place).unstamped =
        (if place.id = target.subscription.id then target.subscription else place).unstamped := by
      intro place
      split <;> rfl
    have fields : (drafts.map fun place => if place.id = target.subscription.id then
        { target.subscription with lastSavedAt := place.lastSavedAt.or target.subscription.lastSavedAt }
        else place).map unstamped = (Rows.put target.subscription drafts).map unstamped := by
      simp only [Rows.put, List.map_map]
      exact List.map_congr_left fun place _ => same place
    have ids := Rows.ids_of_unstamped fields
    rw [Rows.ids_put] at ids
    -- The other targets go to other places.
    obtain ⟨next, kept, shape⟩ := ih updated distinct fun id member => ids ▸ known id (Or.inr member)
    refine ⟨next, kept, shape.trans ?_⟩
    rw [Rows.overlay_unstamped _ fields]
    exact congrArg _ (Rows.overlay_cons absent drafts).symm

/-- Keeping back the subscriptions of targets spares a row that the target under its id has, if there is one. -/
theorem spares_updateAll {targets : List (Target σ)} {unit : WorkUnit} {row : Subscription} (spares : unit.Spares row)
    (same : ∀ target ∈ targets, target.subscription.id = row.id → target.subscription = row) :
    (Engine.updateAll targets unit).Spares row := by
  -- Targets with other ids do not touch the row, and one with its id has it.
  induction targets generalizing unit with
  | nil => exact spares
  | cons target rest ih =>
    exact ih (spares.update (same target (by simp))) fun other member => same other (by simp [member])

/-- What the writing of targets leaves: the rows are as they are known, a row that was stored as it is known stays
as it is, and nothing else happens. -/
structure Stored (stage : Stage σ) (targets : List (Target σ)) (before after : σ) : Prop where
  aside : stage.Aside before after
  fields : (stage.rows.read after).map unstamped = (stage.knownRows targets before).map unstamped
  spared : ∀ row ∈ stage.knownRows targets before, row ∈ stage.rows.read before → row ∈ stage.rows.read after

/-- Writing targets stores their subscriptions, and leaves a clean unit. -/
theorem Hosts.persist_ends (hosted : stage.Hosts engine) {targets : List (Target σ)} {system : σ}
    (inHand : stage.InHand targets system) :
    Ends (engine.persist (.clean (stage.rows.read system)) targets) system fun unit after =>
      unit = .clean (stage.rows.read after) ∧ stage.InHand targets after ∧ stage.Stored targets system after := by
  -- The drafts are the rows with the targets in their places.
  obtain ⟨drafts, keeps, shape⟩ := (keeps_clean inHand.stored).updateAll inHand.distinct inHand.known
  -- The flush writes the drafts, as far as they differ from what is stored.
  apply ((keeps.flush hosted).also (hosted.flush_spares _ system)).bind
  intro result after ends
  obtain ⟨count, unit⟩ := result
  obtain ⟨⟨aside, rfl, -, fields, -⟩, spared⟩ := ends
  have same := fields.trans shape
  have ids := Rows.ids_of_unstamped same
  rw [Rows.ids_overlay] at ids
  refine Meets.pure ⟨rfl, inHand.of_ids rfl ids, aside, same, fun row known stored => spared row stored ?_⟩
  -- A target under the id of such a row has the row, as it is stored.
  refine spares_updateAll (WorkUnit.spares_clean inHand.stored stored) fun target member own => ?_
  have listed : target.subscription ∈ Target.all targets := List.mem_map_of_mem member
  have place : target.subscription ∈ stage.knownRows targets system :=
    Rows.mem_overlay inHand.distinct listed (inHand.known _ (Rows.id_mem_ids listed))
  exact Rows.eq_of_id (by rw [knownRows, Rows.ids_overlay]; exact inHand.stored) place known own

/-- The messages that are read under a limit: one in any case, and no more than the limit. -/
def readUnder {α : Type} (limit : Option Nat) (items : List α) : List α :=
  match limit with
  | none => items
  -- A limit of zero lets one message through, too.
  | some limit => items.take (max 1 limit)

/-- Whether so many messages are read to their end under a limit. -/
def exhausts (limit : Option Nat) (count : Nat) : Bool := limit.all fun limit => decide (count < max 1 limit)

section Limits

variable {limit : Option Nat} {count : Nat}

/-- While a limit is not reached, one message more is read under one more. -/
theorem readUnder_cons {α : Type} (further : ¬ limit.any (fun bound => decide (bound ≤ count + 1)) = true)
    (item : α) (rest : List α) : readUnder (limit.map fun bound => bound - count) (item :: rest) =
      item :: readUnder (limit.map fun bound => bound - (count + 1)) rest := by
  -- A limit that is not reached leaves room for one message after this one.
  cases limit with
  | none => rfl
  | some bound =>
    have more : count + 1 < bound := by simpa using further
    have room : max 1 (bound - count) = max 1 (bound - (count + 1)) + 1 := by omega
    simp [readUnder, room]

/-- While a limit is not reached, it is exhausted by the messages when it is by the rest of them. -/
theorem exhausts_succ (further : ¬ limit.any (fun bound => decide (bound ≤ count + 1)) = true)
    (length : Nat) : exhausts (limit.map fun bound => bound - count) (length + 1) =
      exhausts (limit.map fun bound => bound - (count + 1)) length := by
  -- The room and the messages shrink together.
  cases limit with
  | none => rfl
  | some bound =>
    have more : count + 1 < bound := by simpa using further
    simp only [exhausts, Option.map_some, Option.all_some, decide_eq_decide]
    omega

end Limits

/-- A window that an engine has in hand: nothing is kept back but the targets. -/
structure Open (stage : Stage σ) (window : Window σ) (system : σ) : Prop where
  clean : window.unit = .clean (stage.rows.read system)
  inHand : stage.InHand window.targets system
  unfinished : window.finished = false

/-- What an invariant of delivery speaks of: what was read, what is left, the targets, the failures
and the system. -/
abbrev Invariant (σ : Type) : Type :=
  List (Nat × Message) → List (Nat × Message) → List (Target σ) → List SubscriptionFailure → σ → Prop

/-- An invariant that every round of offers keeps. -/
def Offers (stage : Stage σ) (engine : Engine σ) (status : Status) (keeps : Invariant σ)
    (early : Abort → σ → Prop) : Prop :=
  ∀ read entry rest targets errors system, stage.InHand targets system →
    keeps read (entry :: rest) targets errors system →
    Meets (targets.mapM (engine.offer status entry.1 entry.2)) system (fun offered after =>
      stage.rows.read after = stage.rows.read system ∧
      Rows.ids (Target.all (offered.map Prod.fst)) = Rows.ids (Target.all targets) ∧
      keeps (read ++ [entry]) rest (offered.map Prod.fst) (errors ++ offered.filterMap Prod.snd) after) early

/-- An invariant that storing the targets keeps. -/
def Saves (stage : Stage σ) (keeps : Invariant σ) : Prop :=
  ∀ read rest targets errors system after, stage.InHand targets system →
    keeps read rest targets errors system → stage.Stored targets system after →
    keeps read rest targets errors after

/-- Writing a window changes nothing in it but what its unit knows. -/
theorem Hosts.persistWindow_ends (hosted : stage.Hosts engine) {window : Window σ} {system : σ}
    (isOpen : stage.Open window system) :
    Ends (engine.persistWindow window) system fun saved after =>
      saved = { window with unit := .clean (stage.rows.read after) } ∧ stage.Open saved after ∧
      stage.Stored window.targets system after := by
  -- The unit that is left is clean.
  unfold Engine.persistWindow
  rw [isOpen.clean]
  apply (hosted.persist_ends isOpen.inHand).bind
  intro unit after ends
  obtain ⟨rfl, inHand, written⟩ := ends
  exact Meets.pure ⟨rfl, ⟨rfl, inHand, isOpen.unfinished⟩, written⟩

/-- Writing a window when the interval is over keeps what storing keeps. -/
theorem Hosts.flushWhenDue_ends (hosted : stage.Hosts engine) {keeps : Invariant σ}
    (saves : stage.Saves keeps) {read rest : List (Nat × Message)} {window : Window σ} {system : σ}
    (isOpen : stage.Open window system) (holds : keeps read rest window.targets window.errors system) :
    Ends (engine.flushWhenDue window) system fun next after => stage.Open next after ∧
      next.processed = window.processed ∧ next.targets = window.targets ∧
      Rows.AgreeBut (Rows.ids (Target.all window.targets)) (stage.rows.read after)
        (stage.rows.read system) ∧ keeps read rest next.targets next.errors after := by
  -- Either everything is written, or nothing happens.
  unfold Engine.flushWhenDue
  split
  · apply (hosted.persistWindow_ends isOpen).bind
    intro saved after ends
    obtain ⟨rfl, isOpenSaved, written⟩ := ends
    -- After the write the count of messages starts anew.
    exact Meets.pure ⟨⟨rfl, isOpenSaved.inHand, isOpen.unfinished⟩, rfl, rfl, Rows.agreeBut_overlay written.fields,
      saves _ _ _ _ _ _ isOpen.inHand holds written⟩
  · exact Meets.pure ⟨isOpen, rfl, rfl, .refl _ _, holds⟩

/-- A round of offers counts its message, and keeps what each round keeps. -/
theorem offerAll_meets {status : Status} {keeps : Invariant σ} {early : Abort → σ → Prop}
    (offers : stage.Offers engine status keeps early) {read rest : List (Nat × Message)}
    {entry : Nat × Message} {window : Window σ} {system : σ} (isOpen : stage.Open window system)
    (holds : keeps read (entry :: rest) window.targets window.errors system) :
    Meets (engine.offerAll status entry.1 entry.2 window) system (fun next after => stage.Open next after ∧
      next.processed = window.processed + 1 ∧
      Rows.ids (Target.all next.targets) = Rows.ids (Target.all window.targets) ∧
      stage.rows.read after = stage.rows.read system ∧
      keeps (read ++ [entry]) rest next.targets next.errors after) early := by
  -- The offers leave the rows and all ids as they are.
  apply (offers read entry rest window.targets window.errors system isOpen.inHand holds).bind
  intro offered after ends
  obtain ⟨rows, ids, kept⟩ := ends
  exact Meets.pure ⟨⟨by rw [rows]; exact isOpen.clean, isOpen.inHand.of_ids ids (by rw [rows]),
    isOpen.unfinished⟩, rfl, ids, rows, kept⟩

/-- What the delivery of some messages leaves. -/
structure Delivered (stage : Stage σ) (limit : Option Nat) (entries : List (Nat × Message))
    (keeps : Invariant σ) (read : List (Nat × Message)) (before : Window σ) (start : σ) (window : Window σ)
    (after : σ) : Prop where
  clean : window.unit = .clean (stage.rows.read after)
  inHand : stage.InHand window.targets after
  ids : Rows.ids (Target.all window.targets) = Rows.ids (Target.all before.targets)
  agree : Rows.AgreeBut (Rows.ids (Target.all before.targets)) (stage.rows.read after)
    (stage.rows.read start)
  finished : window.finished = exhausts limit entries.length
  processed : window.processed = before.processed + (readUnder limit entries).length
  holds : ∃ rest, keeps (read ++ readUnder limit entries) rest window.targets window.errors after
  saved : window.finished = false →
    (stage.rows.read after).map unstamped = (stage.knownRows window.targets after).map unstamped

/-- Delivery keeps what every round of offers and every write keeps. -/
theorem Hosts.deliver_meets (hosted : stage.Hosts engine) {status : Status} {limit : Option Nat}
    {keeps : Invariant σ} {early : Abort → σ → Prop} (offers : stage.Offers engine status keeps early)
    (saves : stage.Saves keeps) :
    ∀ (entries read : List (Nat × Message)) (window : Window σ) (system : σ), stage.Open window system →
      keeps read entries window.targets window.errors system →
      Meets (engine.deliver status limit window (entries.map .ok)) system
        (stage.Delivered (limit.map fun limit => limit - window.processed) entries keeps read window system)
        early := by
  -- What is left of the limit shrinks with every message.
  intro entries
  induction entries with
  | nil =>
    intro read window system isOpen holds
    -- Without messages the log is at its end.
    refine Meets.pure ⟨isOpen.clean, isOpen.inHand, rfl, .refl _ _, ?_, ?_, ⟨[], ?_⟩,
      fun absurd => by cases absurd⟩
    · cases limit <;> simp [exhausts]
    · cases limit <;> simp [readUnder]
    · cases limit <;> simpa [readUnder] using holds
  | cons entry rest ih =>
    intro read window system isOpen holds
    rw [List.map_cons]
    apply Meets.run_bind (show Action.ofExcept (.ok entry) system = .ok entry system from rfl)
    -- The message is offered to everybody, and then a write may be due.
    apply (offerAll_meets offers isOpen holds).bind
    intro offered middle ends
    obtain ⟨isOpenOffered, counted, ids, rows, kept⟩ := ends
    apply Meets.bind (hosted.flushWhenDue_ends saves isOpenOffered kept).meets
    intro flushed last ends
    obtain ⟨isOpenFlushed, same, sameTargets, agree, keptFlushed⟩ := ends
    have processed : flushed.processed = window.processed + 1 := same.trans counted
    have idsFlushed : Rows.ids (Target.all flushed.targets) = Rows.ids (Target.all window.targets) := by
      rw [sameTargets, ids]
    rw [ids, rows] at agree
    split
    · rename_i reached
      -- At the limit the window is written.
      obtain ⟨bound, rfl, within⟩ : ∃ bound, limit = some bound ∧ bound ≤ flushed.processed := by
        simpa [Option.any_eq_true] using reached
      have one : max 1 (bound - window.processed) = 1 := by omega
      apply (hosted.persistWindow_ends isOpenFlushed).meets.mono
      intro saved after ends
      obtain ⟨rfl, isOpenSaved, stored⟩ := ends
      have written := Rows.agreeBut_overlay stored.fields
      rw [idsFlushed] at written
      refine ⟨rfl, isOpenSaved.inHand, idsFlushed, written.trans agree, ?_, ?_, ⟨rest, ?_⟩, fun _ => ?_⟩
      · have more : ¬ (entry :: rest).length < 1 := by simp
        simp only [isOpenFlushed.unfinished, exhausts, Option.map_some, Option.all_some, one, more,
          decide_false]
      · simp [processed, readUnder, one]
      · simpa [readUnder, one] using
          saves _ _ _ _ _ _ isOpenFlushed.inHand keptFlushed stored
      · exact stored.fields.trans (Rows.overlay_again stored.fields).symm
    · -- Otherwise the rest is delivered under what is left of the limit.
      rename_i further
      apply (ih (read ++ [entry]) flushed last isOpenFlushed keptFlushed).mono
      intro final after ends
      obtain ⟨clean, inHand, idsFinal, agreeFinal, finished, counts, ⟨left, holds⟩, saved⟩ := ends
      rw [idsFlushed] at idsFinal agreeFinal
      rw [processed] at further finished counts holds
      -- This message and those that follow make up what is read.
      have step := readUnder_cons further entry rest
      have stop := exhausts_succ further rest.length
      refine ⟨clean, inHand, idsFinal, agreeFinal.trans agree, finished.trans stop.symm, ?_, ⟨left, ?_⟩, saved⟩
      · rw [counts, step, List.length_cons]
        omega
      · rw [step]
        simpa using holds

/-- No target is behind the lowest position. -/
theorem lowestPosition_le {targets : List (Target σ)} {target : Target σ} (member : target ∈ targets) :
    Engine.lowestPosition targets ≤ target.subscription.position :=
  List.min?_getD_le_of_mem (List.mem_map_of_mem member)

/-- Some target stands at the lowest position. -/
theorem lowestPosition_mem {targets : List (Target σ)} (somebody : targets ≠ []) :
    ∃ target ∈ targets, target.subscription.position = Engine.lowestPosition targets := by
  -- A list that is not empty has a least element.
  cases least : (targets.map fun target => target.subscription.position).min? with
  | none => simp [List.min?_eq_none_iff, somebody] at least
  | some position =>
    obtain ⟨target, member, rfl⟩ := List.mem_map.mp (List.min?_mem least)
    exact ⟨target, member, by simp [Engine.lowestPosition, least]⟩

/-- The lowest position is below an index when some target's is. -/
theorem lowestPosition_lt {targets : List (Target σ)} (somebody : targets ≠ []) {index : Nat} :
    Engine.lowestPosition targets < index ↔ ∃ target ∈ targets, target.subscription.position < index := by
  -- The lowest position is the position of a target, and every other one is at or above it.
  constructor
  · intro lower
    obtain ⟨target, member, attained⟩ := lowestPosition_mem somebody
    exact ⟨target, member, attained ▸ lower⟩
  · intro some
    obtain ⟨target, member, behind⟩ := some
    exact Nat.lt_of_le_of_lt (lowestPosition_le member) behind

/-- The messages of the log above a position. -/
def above (stage : Stage σ) (position : Nat) (system : σ) : List (Nat × Message) :=
  (stage.log system).filter fun entry => decide (position < entry.1)

/-- The messages that are loaded for some targets. -/
def ahead (stage : Stage σ) (targets : List (Target σ)) (system : σ) : List (Nat × Message) :=
  stage.above (Engine.lowestPosition targets) system

/-- Loading after a position gives the messages above it. -/
theorem Hosts.load_run (hosted : stage.Hosts engine) (start : Nat) (system : σ) :
    Action.ofStep (engine.source.load (.after start) {}) system =
      .ok ((stage.above start system).map .ok) system := by
  -- No other restriction is made, and no part is left out.
  have restricted : ∀ entry : Nat × Message, (LogCriteria.after start).admits entry.1 entry.2 =
      decide (start < entry.1) := fun entry => by simp [LogCriteria.after, LogCriteria.admits]
  simp [Action.ofStep, hosted.load, restricted, LoadOptions.page, above]

/-- A window keeps what every round of offers and every write keeps. -/
theorem Hosts.process_meets (hosted : stage.Hosts engine) {status : Status} {limit : Option Nat}
    {keeps : Invariant σ} {early : Abort → σ → Prop} (offers : stage.Offers engine status keeps early)
    (saves : stage.Saves keeps) {window : Window σ} {system : σ} (isOpen : stage.Open window system)
    (unread : window.processed = 0)
    (holds : keeps [] (stage.ahead window.targets system) window.targets window.errors
      (stage.observe (.loading (Engine.lowestPosition window.targets) window.targets.length) system)) :
    Meets (engine.process status limit window) system
      (stage.Delivered limit (stage.ahead window.targets system) keeps [] window system) early := by
  -- The report of the window comes before its messages are loaded.
  have whole : (limit.map fun limit => limit - window.processed) = limit := by
    cases limit <;> simp [unread]
  refine hosted.note_meets (Meets.run_bind (hosted.load_run _ _) ?_)
  -- The report touches neither the log nor the rows.
  have loaded : stage.above (Engine.lowestPosition window.targets) (stage.observe
      (.loading (Engine.lowestPosition window.targets) window.targets.length) system) =
      stage.ahead window.targets system := by simp [above, ahead]
  rw [loaded]
  refine (hosted.deliver_meets offers saves (stage.ahead window.targets system) [] window _
    ⟨by simpa using isOpen.clean, isOpen.inHand.of_ids rfl (by simp), isOpen.unfinished⟩ holds).mono ?_
  intro final after ends
  obtain ⟨clean, inHand, ids, agree, finished, processed, holds, saved⟩ := ends
  rw [whole] at finished processed holds
  rw [stage.read_observe] at agree
  exact ⟨clean, inHand, ids, agree, finished, processed, holds, saved⟩

/-- A change of subscriptions that depends on nothing else, and reports quietly. -/
def Settles (stage : Stage σ) (change : Subscription → Action σ Subscription)
    (settled : Subscription → Subscription) : Prop :=
  ∀ row system, Ends (change row) system fun next after => next = settled row ∧
    stage.Quietly system after ∧ stage.rows.read after = stage.rows.read system

/-- A target whose subscription is changed if it is in a status. -/
def settledTarget (status : Status) (settled : Subscription → Subscription) (target : Target σ) : Target σ :=
  if target.subscription.status = status then
    { target with subscription := settled target.subscription }
  else target

/-- Changing targets changes no id where no change of a subscription does. -/
theorem ids_settled {status : Status} {settled : Subscription → Subscription}
    (named : ∀ row, (settled row).id = row.id) (targets : List (Target σ)) :
    Rows.ids (Target.all (targets.map (settledTarget status settled))) = Rows.ids (Target.all targets) := by
  -- Each target keeps the id of its subscription, whether it is changed or not.
  simp only [Target.all, Rows.ids, List.map_map]
  apply List.map_congr_left
  intro target _
  simp only [Function.comp_apply, settledTarget]
  split
  · exact named _
  · rfl

/-- Targets in a status are changed one after another. -/
theorem settleTargets_ends {status : Status} {change : Subscription → Action σ Subscription}
    {settled : Subscription → Subscription} (settles : stage.Settles change settled)
    (targets : List (Target σ)) (system : σ) :
    Ends (Engine.settleTargets status change targets) system fun next after =>
      next = targets.map (settledTarget status settled) ∧ stage.Quietly system after ∧
        stage.rows.read after = stage.rows.read system := by
  -- What has been changed and what is still to be changed make up the result.
  refine (Meets.mapM (fun done left between =>
    done ++ left.map (settledTarget status settled) = targets.map (settledTarget status settled) ∧
    stage.Quietly system between ∧ stage.rows.read between = stage.rows.read system) ?_ targets [] system
    ⟨rfl, .refl system, rfl⟩).mono ?_
  · intro done target left between ends
    obtain ⟨shape, quietly, rows⟩ := ends
    split
    · -- A target in the status is changed.
      rename_i current
      apply (settles target.subscription between).bind
      intro next after ends
      obtain ⟨rfl, quietlyStep, rowsStep⟩ := ends
      refine Meets.pure ⟨?_, quietly.trans quietlyStep, rowsStep.trans rows⟩
      rw [← shape]
      simp [settledTarget, current]
    · -- Any other one stays.
      rename_i other
      refine Meets.pure ⟨?_, quietly, rows⟩
      rw [← shape]
      simp [settledTarget, other]
  · intro next after ends
    obtain ⟨shape, quietly, rows⟩ := ends
    exact ⟨by simpa using shape, quietly, rows⟩

/-- What becomes of a subscription that has caught up. -/
def caughtUp (row : Subscription) : Subscription :=
  if row.runMode = .once then row.finished else row.active

/-- What becomes of an active subscription at the end of the log. -/
def keptUp (row : Subscription) : Subscription :=
  if row.runMode = .once then row.finished else row.resetRetryAttempt

theorem caughtUp_id (row : Subscription) : (caughtUp row).id = row.id := by
  -- Either way only the status changes, and the retries.
  unfold caughtUp
  split <;> rfl

theorem caughtUp_group (row : Subscription) : (caughtUp row).group = row.group := by
  -- Either way only the status changes, and the retries.
  unfold caughtUp
  split <;> rfl

theorem keptUp_id (row : Subscription) : (keptUp row).id = row.id := by
  -- Either way only the status changes, or the retries.
  unfold keptUp
  split <;> rfl

/-- Subscriptions that have caught up become active or finished. -/
theorem Hosts.caughtUp_settles (hosted : stage.Hosts engine) : stage.Settles engine.caughtUp caughtUp := by
  -- Either way the new status is reported.
  intro row system
  unfold Engine.caughtUp
  split
  · rename_i mode
    exact hosted.note_meets (Meets.pure ⟨by simp [caughtUp, mode], quietly_observe rfl system, by simp⟩)
  · rename_i mode
    exact hosted.note_meets (Meets.pure ⟨by simp [caughtUp, mode], quietly_observe rfl system, by simp⟩)

/-- Active subscriptions forget their retries, or are finished. -/
theorem Hosts.keptUp_settles (hosted : stage.Hosts engine) : stage.Settles engine.keptUp keptUp := by
  -- Only the end of a subscription is reported.
  intro row system
  unfold Engine.keptUp
  split
  · rename_i mode
    exact hosted.note_meets (Meets.pure ⟨by simp [keptUp, mode], quietly_observe rfl system, by simp⟩)
  · rename_i mode
    exact Meets.pure ⟨by simp [keptUp, mode], .refl system, rfl⟩

/-- What the feeding of some targets leaves: those that are left at the end of the log are settled,
and all are stored. -/
structure Fed (stage : Stage σ) (status : Status) (limit : Option Nat) (settled : Subscription → Subscription)
    (keeps : Invariant σ) (targets : List (Target σ)) (before : σ) (report : FeedReport) (after : σ) : Prop where
  finished : report.finished = exhausts limit (stage.ahead targets before).length
  processed : report.processed = (readUnder limit (stage.ahead targets before)).length
  distinct : (Rows.ids (stage.rows.read after)).Nodup
  ends : ∃ final rest middle,
    keeps (readUnder limit (stage.ahead targets before)) rest final report.errors middle ∧
    stage.InHand final middle ∧ stage.Quietly middle after ∧
    Rows.ids (Target.all final) = Rows.ids (Target.all targets) ∧
    Rows.AgreeBut (Rows.ids (Target.all targets)) (stage.rows.read middle) (stage.rows.read before) ∧
    (stage.rows.read after).map unstamped = (stage.knownRows
      (if report.finished then final.map (settledTarget status settled) else final) middle).map unstamped

/-- Where there is nobody to feed, only that is reported. -/
theorem Hosts.feed_idle (hosted : stage.Hosts engine) {status : Status} {limit : Option Nat} {idle : Notice}
    {change : Subscription → Action σ Subscription} {errors : List SubscriptionFailure} {unit : WorkUnit}
    (system : σ) : engine.feed status limit idle change errors [] unit system =
      .ok { processed := 0, finished := true, errors } (stage.observe idle system) := by
  -- The report comes first, and nothing comes after it.
  simp only [Engine.feed, List.isEmpty_nil, if_true]
  rw [hosted.note_bind]
  rfl

/-- Feeding keeps what every round of offers and every write keeps, up to the end of the window. -/
theorem Hosts.feed_meets (hosted : stage.Hosts engine) {status : Status} {limit : Option Nat} {idle : Notice}
    {change : Subscription → Action σ Subscription} {settled : Subscription → Subscription}
    {keeps : Invariant σ} {early : Abort → σ → Prop} (offers : stage.Offers engine status keeps early)
    (saves : stage.Saves keeps) (settles : stage.Settles change settled)
    (named : ∀ row, (settled row).id = row.id) {targets : List (Target σ)}
    {errors : List SubscriptionFailure} {system : σ} (inHand : stage.InHand targets system)
    (somebody : targets ≠ [])
    (holds : keeps [] (stage.ahead targets system) targets errors
      (stage.observe (.loading (Engine.lowestPosition targets) targets.length) system)) :
    Meets (engine.feed status limit idle change errors targets (.clean (stage.rows.read system))) system
      (stage.Fed status limit settled keeps targets system) early := by
  -- Somebody is there, so a window is read.
  have fed : targets.isEmpty = false := by simpa using somebody
  simp only [Engine.feed, fed, Bool.false_eq_true, if_false]
  have isOpen : stage.Open { unit := .clean (stage.rows.read system), targets, errors } system :=
    ⟨rfl, inHand, rfl⟩
  apply (hosted.process_meets offers saves isOpen rfl holds).bind
  intro window middle ends
  obtain ⟨clean, inHand, ids, agree, finished, processed, ⟨rest, holds⟩, saved⟩ := ends
  rw [List.nil_append] at holds
  have counted : window.processed = (readUnder limit (stage.ahead targets system)).length := by
    simpa using processed
  cases done : window.finished with
  | true =>
    -- At the end of the log those that are left are settled and written.
    apply Meets.bind (settleTargets_ends settles window.targets middle).meets
    intro next last ends
    obtain ⟨rfl, quietly, rows⟩ := ends
    rw [clean, ← rows]
    apply Meets.bind (hosted.persist_ends (inHand.of_ids (ids_settled named _) (by rw [rows]))).meets
    intro unit after ends
    obtain ⟨rfl, inHandAfter, stored⟩ := ends
    refine Meets.pure ⟨finished ▸ done.symm, counted, inHandAfter.stored, window.targets, rest, middle, holds,
      inHand, quietly.trans stored.aside.quietly, ids, agree, ?_⟩
    rw [if_pos rfl, stored.fields, knownRows, knownRows, rows]
  | false =>
    -- Where the limit has cut the window, all has been written already.
    refine Meets.pure ⟨done ▸ finished, counted, inHand.stored, window.targets, rest, middle, holds, inHand,
      .refl middle, ids, agree, ?_⟩
    rw [if_neg (by simp)]
    exact saved done

end Stage

end EventFeed
