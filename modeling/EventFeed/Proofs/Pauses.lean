import EventFeed.Proofs.InStep
import EventFeed.Proofs.Rests
import EventFeed.Proofs.WellFormed

/-! Pauses and reactivations: what becomes of the subscriptions that are meant, that the others are not written, and
that nothing is left to be done the second time. -/

namespace EventFeed

open EventFeed.Action
open Subscription (unstamped)

variable {σ : Type}

/-- The statuses in which a pause stops a subscription. -/
def stoppable : List Status := [.new, .booting, .active, .error]

/-- The statuses in which a reactivation puts a subscription back to work. -/
def revivable : List Status := [.error, .outdated, .paused, .finished]

namespace Subscription

/-- A subscription stops, and keeps everything but its status and its stamp. -/
def Stops (old new : Subscription) : Prop := new = { old with status := .paused, lastSavedAt := new.lastSavedAt }

/-- A subscription goes back to work: to the status in which it failed, or to active where it had not failed. Its
failure and its retries are forgotten, and nothing else but its stamp is different. -/
def Revives (old new : Subscription) : Prop :=
  (old.status = .error → ∃ error, old.error = some error ∧ new.status = error.previous) ∧
    (old.status ≠ .error → new.status = .active) ∧ new.status ∈ [.new, .booting, .active] ∧
    new = { old with status := new.status, error := none, retryAttempt := 0, lastSavedAt := new.lastSavedAt }

/-- A well-formed subscription goes back to work when it is reactivated. -/
theorem WellFormed.revives {old new : Subscription} (formed : old.WellFormed)
    (same : new.unstamped = old.reactivate.unstamped) : old.Revives new := by
  -- A failed row goes back to where it failed, and every other one becomes active.
  have shape := eq_of_unstamped same
  have status : new.status = old.statusBefore .active := by rw [shape]; rfl
  by_cases failed : old.status = .error
  · -- What is kept of its failure says where it failed.
    obtain ⟨error, kept⟩ := Option.ne_none_iff_exists'.mp (formed.failed failed)
    have back : new.status = error.previous := by simp [status, statusBefore, failed, kept]
    refine ⟨fun _ => ⟨error, kept, back⟩, fun other => absurd failed other, ?_, ?_⟩
    · exact back ▸ formed.previous error kept
    · rw [status]
      exact shape
  · have back : new.status = .active := by
      rw [status, statusBefore]
      split
      · exact absurd ‹_› failed
      · rfl
    refine ⟨fun other => absurd other failed, fun _ => back, by simp [back], ?_⟩
    rw [status]
    exact shape

end Subscription

namespace Stage

variable {stage : Stage σ} {engine : Engine σ} {criteria : FeedCriteria} {system : σ}

/-- What there is after discovery: all rows that were stored, as they were, and a new one for each subscriber that is
meant and had none. -/
structure Enlisted (engine : Engine σ) (criteria : FeedCriteria) (stored rows : List Subscription) : Prop where
  kept : ∀ row ∈ stored, row ∈ rows
  added : ∀ row ∈ rows, row ∈ stored ∨ ∃ fresh, Fresh engine criteria (Rows.ids stored) fresh ∧
    row.unstamped = fresh.unstamped
  complete : ∀ subscriber ∈ engine.registry.subscribers,
    criteria.admits subscriber.id subscriber.group = true → subscriber.id ∈ Rows.ids rows

/-- Discovery leaves every stored row as it is. -/
theorem Hosts.discover_spares (hosted : stage.Hosts engine) (distinct : (Rows.ids (stage.rows.read system)).Nodup) :
    Meets (engine.discover criteria {}) system
      (fun _ after => ∀ row ∈ stage.rows.read system, row ∈ stage.rows.read after) fun _ _ => True := by
  -- What discovery adds is kept back in the unit until the flush, under ids that are not stored.
  apply Meets.run_bind (hosted.find_all_run distinct)
  apply (hosted.collect_ends distinct).meets.bind
  intro unit middle ends
  obtain ⟨fresh, discovering⟩ := ends
  apply (hosted.flush_spares unit middle).bind
  intro flushed after spared
  -- What is kept back is kept back under other ids.
  have spares := fun row (stored : row ∈ stage.rows.read system) =>
    WorkUnit.spares_added (discovering.apart distinct) stored
  have shape : unit = ⟨unit.rows⟩ := rfl
  rw [shape, discovering.tracked, discovering.rows] at spared
  exact Meets.pure fun row stored => spared row stored (spares row stored)

/-- Discovery lists the rows there are to be. -/
theorem Hosts.discover_lists (hosted : stage.Hosts engine) (distinct : (Rows.ids (stage.rows.read system)).Nodup) :
    Ends (engine.discover criteria {}) system fun unit after => unit = .clean (stage.rows.read after) ∧
      (Rows.ids (stage.rows.read after)).Nodup ∧
      Enlisted engine criteria (stage.rows.read system) (stage.rows.read after) := by
  -- That stored rows stay as they are makes the list of what is known about discovery complete.
  apply ((hosted.discover_ends distinct (.refl _)).also (hosted.discover_spares distinct)).mono
  intro unit after ends
  obtain ⟨discovered, kept⟩ := ends
  obtain ⟨fresh, isFresh, fields, -⟩ := discovered.rows
  refine ⟨discovered.clean, discovered.distinct, kept, fun row member => ?_, discovered.complete⟩
  obtain ⟨old, here, same⟩ := Rows.source fields member
  rcases List.mem_append.mp here with stored | added
  · -- A stored row is still there, and no other one has its id.
    have own : row = old :=
      Rows.eq_of_id discovered.distinct member (kept old stored) (Subscription.id_of_unstamped same).symm
    exact Or.inl (own ▸ stored)
  · exact Or.inr ⟨old, isFresh old added, same.symm⟩

/-- A row before and after a phase: it is edited if it is meant, and otherwise stays as it is, with its stamp. -/
def Amends (meant : Subscription → Bool) (Edit : Subscription → Subscription → Prop) (old new : Subscription) : Prop :=
  if meant old then Edit old new else new = old

/-- A row may be edited in less detail. -/
theorem Amends.mono {meant : Subscription → Bool} {Edit Rough : Subscription → Subscription → Prop}
    {old new : Subscription} (amends : Amends meant Edit old new)
    (rougher : meant old = true → Edit old new → Rough old new) : Amends meant Rough old new := by
  -- Only for a row that is meant is there anything to show.
  unfold Amends at amends ⊢
  split
  · rename_i chosen
    exact rougher chosen (by simpa [chosen] using amends)
  · rename_i passed
    simpa [passed] using amends

/-- Rows of which some are changed, and of which those that are not stay as they are, are amended one by one. -/
theorem amends_of_fields {meant : Subscription → Bool} {change : Subscription → Subscription}
    {before after : List Subscription} (distinct : (Rows.ids after).Nodup)
    (fields : after.map unstamped = (before.map fun row => if meant row then change row else row).map unstamped)
    (spared : ∀ row ∈ before, meant row = false → row ∈ after) :
    List.Forall₂ (Amends meant fun old new => new.unstamped = (change old).unstamped) before after := by
  -- Each row is paired with the one in its place, and the ids tell that a spared one is the same.
  have opposite : List.Forall₂ (fun new old => new.unstamped = (if meant old then change old else old).unstamped)
      after before := by simpa only [List.forall₂_map_right_iff] using Rows.forall₂_unstamped.mpr fields
  -- Of either side it is known where it stands.
  have members := (List.forall₂_and_left _ _).mpr ⟨fun row member => (member : row ∈ before),
    ((List.forall₂_and_left _ _).mpr ⟨fun row member => (member : row ∈ after), opposite⟩).flip⟩
  refine members.imp fun old new ends => ?_
  obtain ⟨stored, stands, same⟩ := ends
  unfold Amends
  split
  · rename_i chosen
    simpa [chosen] using same
  · -- The row itself is still there, and no other one has its id.
    rename_i passed
    rw [if_neg passed] at same
    exact Rows.eq_of_id distinct stands (spared old stored (by simpa using passed)) (Subscription.id_of_unstamped same)

/-- A phase finds the rows that are meant, changes those of them that it applies to, and stores the changes. -/
theorem Hosts.phase_amends (hosted : stage.Hosts engine) {wanted : SubscriptionCriteria} {applies : Subscription → Bool}
    {change : Subscription → Subscription} {step : WorkUnit → Subscription → Action σ WorkUnit}
    (named : ∀ row, (change row).id = row.id) (stamped : ∀ row, (change row).lastSavedAt = row.lastSavedAt)
    (steps : ∀ unit row between, Ends (step unit row) between fun next after =>
      stage.rows.read after = stage.rows.read between ∧ next = if applies row then unit.update (change row) else unit)
    (distinct : (Rows.ids (stage.rows.read system)).Nodup) :
    Ends (do
      let (found, unit) ← (WorkUnit.clean (stage.rows.read system)).find engine.store wanted
      let unit ← found.foldlM step unit
      let _ ← unit.flush engine.store : Action σ Unit) system fun _ after =>
        Rows.ids (stage.rows.read after) = Rows.ids (stage.rows.read system) ∧
          List.Forall₂ (Amends (fun row => wanted.admits row && applies row)
            fun old new => new.unstamped = (change old).unstamped)
            (stage.rows.read system) (stage.rows.read after) := by
  -- A find, a pass over what was found, and a flush; the pass keeps the store as it is.
  apply Meets.run_bind (hosted.find_run distinct wanted)
  refine (pass_meets id (fun _ _ between => stage.rows.read between = stage.rows.read system) distinct
    (fun row next (own : next = if applies row then change row else row) => ?_) ?_ (keeps_clean distinct) rfl).bind ?_
  · rw [own]
    split
    · exact named row
    · rfl
  · intro unit row drafts between _ member _ keeps rows
    apply (steps unit row between).mono
    intro next after ends
    obtain ⟨same, rfl⟩ := ends
    refine ⟨_, rfl, ?_, same.trans rows⟩
    split
    · exact (keeps.update_draft member (named row) (stamped row)).of_rows same
    · rw [Rows.put_of_mem (keeps.ids ▸ keeps.distinct) member]
      exact keeps.of_rows same
  · -- At the end the drafts are written, and those that are as they are stored are spared.
    intro unit middle ends
    obtain ⟨edit, edited, keeps, rows⟩ := ends
    have drafts : (stage.rows.read system).map edit =
        (stage.rows.read system).map fun row => if wanted.admits row && applies row then change row else row := by
      refine List.map_congr_left fun row member => ?_
      have own := (edited row member).2
      by_cases found : wanted.admits row = true <;> simp_all
    apply ((keeps.flush hosted).also (hosted.flush_spares unit middle)).bind
    intro flushed after ends
    obtain ⟨⟨-, -, alone, fields, -⟩, spared⟩ := ends
    refine Meets.pure ⟨?_, amends_of_fields alone (drafts ▸ fields) fun row stored passed => ?_⟩
    · rw [Rows.ids_of_unstamped fields, keeps.ids, rows]
    · have draft : row ∈ (stage.rows.read system).map edit := by
        rw [drafts]
        exact List.mem_map.mpr ⟨row, stored, if_neg (by simp [passed])⟩
      exact spared row (rows ▸ stored) (keeps.spares draft (rows ▸ stored))

/-- Rows as an operation leaves them: those that discovery lists, some of which are edited. -/
def Amended (stage : Stage σ) (engine : Engine σ) (criteria : FeedCriteria) (meant : Subscription → Bool)
    (Edit : Subscription → Subscription → Prop) (before after : σ) : Prop :=
  ∃ listed, Enlisted engine criteria (stage.rows.read before) listed ∧
    List.Forall₂ (Amends meant Edit) listed (stage.rows.read after)

/-- An operation that changes some of the rows that are meant lists the rows there are to be, and amends them. -/
theorem Hosts.amending_ends (hosted : stage.Hosts engine) (statuses : List Status) (applies : Subscription → Bool)
    (change : Subscription → Subscription) {step : WorkUnit → Subscription → Action σ WorkUnit}
    (named : ∀ row, (change row).id = row.id)
    (stamped : ∀ row, (change row).lastSavedAt = row.lastSavedAt)
    (steps : ∀ unit row between, Ends (step unit row) between fun next after =>
      stage.rows.read after = stage.rows.read between ∧ next = if applies row then unit.update (change row) else unit)
    (distinct : (Rows.ids (stage.rows.read system)).Nodup) :
    Ends (engine.store.guarded do
      let unit ← engine.discover criteria {}
      let (found, unit) ← unit.find engine.store (criteria.withStatuses statuses)
      let unit ← found.foldlM step unit
      let _ ← unit.flush engine.store) system fun _ after => (Rows.ids (stage.rows.read after)).Nodup ∧
        (∀ subscriber ∈ engine.registry.subscribers, criteria.admits subscriber.id subscriber.group = true →
          subscriber.id ∈ Rows.ids (stage.rows.read after)) ∧
        stage.Amended engine criteria (fun row => (criteria.withStatuses statuses).admits row && applies row)
          (fun old new => new.unstamped = (change old).unstamped) system after := by
  -- Discovery comes first, and the phase amends the rows that it lists.
  apply hosted.guarded_meets
  apply (hosted.discover_lists distinct).bind
  intro unit middle ends
  obtain ⟨rfl, alone, listed⟩ := ends
  apply (hosted.phase_amends named stamped steps alone).mono
  intro _ after ends
  obtain ⟨ids, amended⟩ := ends
  exact ⟨ids ▸ alone, fun subscriber registered meant => ids ▸ listed.complete subscriber registered meant,
    _, listed, amended⟩

/-- A fold whose steps do nothing but report leaves their reports. -/
theorem foldlM_reported {step : WorkUnit → Subscription → Action σ WorkUnit} {said : Subscription → List Notice}
    {unit : WorkUnit} (found : List Subscription) :
    (∀ row ∈ found, ∀ between, step unit row between = .ok unit (stage.reported (said row) between)) →
      ∀ between, found.foldlM step unit between = .ok unit (stage.reported (found.flatMap said) between) := by
  -- The induction is on the rows, from any system.
  induction found with
  | nil => exact fun _ _ => rfl
  | cons row rest ih =>
    intro steps between
    rw [List.foldlM_cons, List.flatMap_cons, reported_append]
    simp only [bind, EStateM.bind, steps row (by simp)]
    exact ih (fun other member => steps other (by simp [member])) _

/-- Such an operation only reports what its steps have to say when none of them changes anything. -/
theorem Hosts.amending_rests (hosted : stage.Hosts engine) (statuses : List Status)
    (step : WorkUnit → Subscription → Action σ WorkUnit) (said : Subscription → List Notice)
    (distinct : (Rows.ids (stage.rows.read system)).Nodup)
    (known : ∀ subscriber ∈ engine.registry.subscribers, criteria.admits subscriber.id subscriber.group = true →
      subscriber.id ∈ Rows.ids (stage.rows.read system))
    (idle : ∀ row ∈ Rows.find (stage.rows.read system) (criteria.withStatuses statuses), ∀ unit between,
      step unit row between = .ok unit (stage.reported (said row) between)) :
    engine.store.guarded (do
      let unit ← engine.discover criteria {}
      let (found, unit) ← unit.find engine.store (criteria.withStatuses statuses)
      let unit ← found.foldlM step unit
      let _ ← unit.flush engine.store) system =
        .ok () (stage.reported ((Rows.find (stage.rows.read system) (criteria.withStatuses statuses)).flatMap said)
          system) := by
  -- Discovery has nothing to add, and the flush has nothing to write.
  rw [hosted.guarded_eq]
  simp [bind, EStateM.bind, hosted.discover_idle distinct known, hosted.find_run distinct,
    foldlM_reported _ fun row found between => idle row found _ between, WorkUnit.flush_clean, pure, EStateM.pure]

/-- A row that discovery lists is new, or well formed where the stored ones are. -/
theorem Enlisted.formed {stored rows : List Subscription} (listed : Enlisted engine criteria stored rows)
    (formed : ∀ row ∈ stored, row.WellFormed) : ∀ row ∈ rows, row.status = .new ∨ row.WellFormed := by
  -- Discovery adds fresh subscriptions only, and those are new.
  intro row member
  rcases listed.added row member with old | ⟨fresh, isFresh, same⟩
  · exact Or.inr (formed row old)
  · obtain ⟨subscriber, -, -, -, rfl⟩ := isFresh
    have status : row.status = .new := congrArg Subscription.status same
    exact Or.inl status

/-- A pause stops the subscriptions that are meant and can be stopped, and the second one does nothing. -/
theorem Hosts.pause_ends (hosted : stage.Hosts engine) (distinct : (Rows.ids (stage.rows.read system)).Nodup)
    (criteria : FeedCriteria) :
    Ends (engine.pause criteria) system fun _ after =>
      stage.Amended engine criteria (criteria.withStatuses stoppable).admits Subscription.Stops system after ∧
      (∀ row ∈ stage.rows.read after, criteria.admits row.id row.group = true → row.status ∉ stoppable) ∧
      engine.pause criteria after = .ok () after := by
  -- A pause is an operation that amends, and then each row is looked at once more for the second call.
  have steps : ∀ unit row between, Ends (engine.pauseOne unit row) between fun next after =>
      stage.rows.read after = stage.rows.read between ∧ next = if true then unit.update row.pause else unit :=
    fun unit row between => hosted.note_meets (Meets.pure ⟨by simp, rfl⟩)
  refine (hosted.amending_ends stoppable (fun _ => true) Subscription.pause (fun _ => rfl) (fun _ => rfl) steps
    distinct).mono ?_
  intro _ after ends
  simp only [Bool.and_true] at ends
  obtain ⟨alone, complete, listed, enlisted, amended⟩ := ends
  have stops : List.Forall₂ (Amends (criteria.withStatuses stoppable).admits Subscription.Stops) listed
      (stage.rows.read after) :=
    amended.imp fun old new amends => amends.mono fun _ same => Subscription.eq_of_unstamped same
  -- A row that was left alone could not be stopped, and one that was edited is paused, which cannot be stopped.
  have still : ∀ row ∈ stage.rows.read after, criteria.admits row.id row.group = true → row.status ∉ stoppable := by
    intro row member meant status
    obtain ⟨old, -, amends⟩ := source_of_forall₂ stops row member
    unfold Amends at amends
    split at amends
    · rw [amends] at status
      simp [stoppable] at status
    · rename_i passed
      subst amends
      exact passed (by simp [FeedCriteria.admits_withStatuses, meant, status])
  refine ⟨⟨listed, enlisted, stops⟩, still, ?_⟩
  -- Nobody is found any more.
  have nobody : Rows.find (stage.rows.read after) (criteria.withStatuses stoppable) = [] := by
    refine List.filter_eq_nil_iff.mpr fun row member chosen => ?_
    obtain ⟨meant, status⟩ := admitted_of_withStatuses chosen
    exact still row member meant status
  have rests := hosted.amending_rests stoppable engine.pauseOne (fun _ => []) alone complete (by simp [nobody])
  rwa [nobody] at rests

/-- A reactivation puts the subscriptions that are meant, can be revived and have a subscriber back to work, and the
second one only reports those that have none. -/
theorem Hosts.reactivate_ends (hosted : stage.Hosts engine) (distinct : (Rows.ids (stage.rows.read system)).Nodup)
    (formed : ∀ row ∈ stage.rows.read system, row.WellFormed) (criteria : FeedCriteria) :
    Ends (engine.reactivate criteria) system fun _ after =>
      stage.Amended engine criteria
        (fun row => (criteria.withStatuses revivable).admits row && engine.registry.knows row.id)
        Subscription.Revives system after ∧
      (∀ row ∈ stage.rows.read after, criteria.admits row.id row.group = true → engine.registry.knows row.id = true →
        row.status ∈ [.new, .booting, .active]) ∧
      ∃ notices, engine.reactivate criteria after = .ok () (stage.reported notices after) ∧
        ∀ notice ∈ notices, ∃ id, notice = .reactivateOrphan id := by
  -- A reactivation is an operation that amends, and those without a subscriber are passed by with a report.
  have steps : ∀ unit row between, Ends (engine.reactivateOne unit row) between fun next after =>
      stage.rows.read after = stage.rows.read between ∧
        next = if engine.registry.knows row.id then unit.update row.reactivate else unit := by
    intro unit row between
    unfold Engine.reactivateOne
    split <;> exact hosted.note_meets (Meets.pure ⟨by simp, rfl⟩)
  refine (hosted.amending_ends revivable (fun row => engine.registry.knows row.id) Subscription.reactivate
    (fun _ => rfl) (fun _ => rfl) steps distinct).mono ?_
  intro _ after ends
  obtain ⟨alone, complete, listed, enlisted, amended⟩ := ends
  -- Who can be revived is not new, so it was stored before, and is well formed.
  have revives : List.Forall₂ (Amends (fun row => (criteria.withStatuses revivable).admits row &&
      engine.registry.knows row.id) Subscription.Revives) listed (stage.rows.read after) := by
    have known := (List.forall₂_and_left _ _).mpr ⟨enlisted.formed formed, amended⟩
    refine known.imp fun old new ends => ends.2.mono fun chosen same => ?_
    obtain ⟨-, status⟩ := admitted_of_withStatuses (Bool.and_eq_true_iff.mp chosen).1
    rcases ends.1 with new | formed
    · simp [new, revivable] at status
    · exact formed.revives same
  -- Whoever was edited has the status in which it failed, and nobody fails in a status that can be revived.
  have back : ∀ row ∈ stage.rows.read after, criteria.admits row.id row.group = true →
      engine.registry.knows row.id = true → row.status ∈ [.new, .booting, .active] := by
    intro row member meant known
    obtain ⟨old, -, amends⟩ := source_of_forall₂ revives row member
    unfold Amends at amends
    split at amends
    · exact amends.2.2.1
    · rename_i passed
      subst amends
      have apart : row.status ∉ revivable := by
        simpa [FeedCriteria.admits_withStatuses, meant, known] using passed
      cases status : row.status <;> simp_all [revivable]
  refine ⟨⟨listed, enlisted, revives⟩, back, ?_⟩
  -- Whoever is still found has no subscriber.
  refine ⟨_, hosted.amending_rests revivable engine.reactivateOne (fun row => [.reactivateOrphan row.id]) alone complete
    fun row found unit between => ?_, fun notice member => ?_⟩
  · obtain ⟨member, chosen⟩ := List.mem_filter.mp found
    obtain ⟨meant, status⟩ := admitted_of_withStatuses chosen
    have orphan : ¬ engine.registry.knows row.id = true := fun known => by
      have again := back row member meant known
      cases current : row.status <;> simp_all [revivable]
    rw [Engine.reactivateOne, if_neg orphan, hosted.note_bind]
    rfl
  · obtain ⟨row, -, said⟩ := List.mem_flatMap.mp member
    exact ⟨row.id, List.mem_singleton.mp said⟩

/-- At every point of a history a pause stops exactly the subscriptions that are meant and are new, catching up, active
or in error, which keep everything but their status; and a reactivation puts exactly those back to work that are meant,
are in error, outdated, paused or finished, and have a subscriber, with a clean slate and at the same position. Nobody
else is written, and either of them does nothing the second time. -/
theorem History.pause_reactivate_once {first : σ} (history : stage.History first system)
    (empty : stage.rows.read first = []) (hosted : stage.Hosts engine) (criteria : FeedCriteria) :
    (∃ after, engine.pause criteria system = .ok () after ∧
      stage.Amended engine criteria (criteria.withStatuses stoppable).admits Subscription.Stops system after ∧
      (∀ row ∈ stage.rows.read after, criteria.admits row.id row.group = true → row.status ∉ stoppable) ∧
      engine.pause criteria after = .ok () after) ∧
    ∃ after, engine.reactivate criteria system = .ok () after ∧
      stage.Amended engine criteria
        (fun row => (criteria.withStatuses revivable).admits row && engine.registry.knows row.id)
        Subscription.Revives system after ∧
      (∀ row ∈ stage.rows.read after, criteria.admits row.id row.group = true → engine.registry.knows row.id = true →
        row.status ∈ [.new, .booting, .active]) ∧
      ∃ notices, engine.reactivate criteria after = .ok () (stage.reported notices after) ∧
        ∀ notice ∈ notices, ∃ id, notice = .reactivateOrphan id := by
  -- Whatever the history was, its rows are well formed and have ids of their own, and more is not asked.
  obtain ⟨formed, distinct⟩ := history.wellFormed empty
  obtain ⟨_, paused, run, pauses⟩ := (hosted.pause_ends distinct criteria).run
  obtain ⟨_, revived, rerun, revives⟩ := (hosted.reactivate_ends distinct formed criteria).run
  exact ⟨⟨paused, run, pauses⟩, revived, rerun, revives⟩

end Stage

namespace World

/-- The world in which the brittle subscriber has failed, after a pause. -/
def halted : World := (((feeder uneven .never).pause {}).outcome mended).2

/-- The same world, after a reactivation by an engine that knows the brittle subscriber only. -/
def revived : World := (((feeder uneven.tail .never).reactivate {}).outcome halted).2

/-- The pause stops both subscriptions, one of them with its failure; the reactivation makes the one with a subscriber
active, and leaves the other; and each of them does nothing more the second time. -/
theorem halted_pause_reactivate_once :
    (stage.rows.read halted).map (fun row => (row.id, row.status, row.error.isSome, row.position)) =
        [("steady", .paused, false, 2), ("brittle", .paused, true, 1)] ∧
      (feeder uneven .never).pause {} halted = .ok () halted ∧
      (stage.rows.read revived).map (fun row => (row.id, row.status, row.error.isSome, row.position)) =
        [("steady", .paused, false, 2), ("brittle", .active, false, 1)] ∧
      ∃ notices, (feeder uneven.tail .never).reactivate {} revived = .ok () (stage.reported notices revived) := by
  -- Both the system before the pause and the one before the reactivation have a history.
  have mending : stage.History blank mended := .operate mended_history.1 (hosts ..) uneven_behaves (.boot {} none)
  have halting : stage.History blank halted := .operate mending (hosts uneven .never {}) uneven_behaves (.pause {})
  obtain ⟨⟨after, run, -, -, again⟩, -⟩ := mending.pause_reactivate_once rfl (hosts uneven .never {}) {}
  obtain ⟨-, last, later, -, -, notices, rests, -⟩ :=
    halting.pause_reactivate_once rfl (hosts uneven.tail .never {}) {}
  have same : halted = after := by simp only [halted, outcome, run]
  have still : revived = last := by simp only [revived, outcome, later]
  exact ⟨by decide +kernel, same ▸ again, by decide +kernel, notices, still ▸ rests⟩

end World

end EventFeed
