import EventFeed.Engine.WorkUnit
import EventFeed.Proofs.Rows
import EventFeed.Proofs.Stage

/-! A unit of work over rows in memory: finding gives the rows, updating changes one draft, and a
flush stores the drafts. -/

namespace EventFeed

open EventFeed.Action
open Subscription (unstamped)

namespace WorkUnit

/-- The unit that knows some rows as they are stored. -/
def clean (rows : List Subscription) : WorkUnit := ⟨rows.map fun row => ⟨row, some row⟩⟩

/-- Among tracked rows with distinct ids, changing the first row of an id
is changing every row of it. -/
theorem upsert_of_mem {rows : List TrackedRow} {id : String} {change : TrackedRow → TrackedRow}
    {fresh : TrackedRow} (distinct : (rows.map fun row => row.current.id).Nodup)
    (member : id ∈ rows.map fun row => row.current.id) :
    upsert id change fresh rows = rows.map fun row => if row.current.id = id then change row else row := by
  -- After the first row with the id, none has it.
  induction rows with
  | nil => simp at member
  | cons row rest ih =>
    simp only [List.map_cons, List.nodup_cons] at distinct
    by_cases same : row.current.id = id
    · -- This row is the one that is changed.
      have fixed : ∀ other ∈ rest, (if other.current.id = id then change other else other) = other := by
        intro other present
        have different : other.current.id ≠ id := fun equal =>
          distinct.1 (same.trans equal.symm ▸ List.mem_map_of_mem present)
        simp [different]
      simp [upsert, same, List.map_congr_left fixed]
    · -- This row stays, and one behind it has the id.
      have later : id ∈ rest.map fun row => row.current.id := by
        simpa [Ne.symm same] using member
      simp [upsert, same, ih distinct.2 later]

/-- A row with a new id is put at the end. -/
theorem upsert_of_not_mem {rows : List TrackedRow} {id : String} {change : TrackedRow → TrackedRow}
    {fresh : TrackedRow} (absent : id ∉ rows.map fun row => row.current.id) :
    upsert id change fresh rows = rows ++ [fresh] := by
  -- No row of the list is changed on the way to its end.
  induction rows with
  | nil => rfl
  | cons row rest ih =>
    simp only [List.map_cons, List.mem_cons, not_or] at absent
    simp [upsert, Ne.symm absent.1, ih absent.2]

/-- What every subscription satisfies that a unit keeps track of. -/
def Each (fits : Subscription → Prop) (unit : WorkUnit) : Prop := ∀ tracked ∈ unit.rows, fits tracked.current

section Each

variable {fits : Subscription → Prop} {unit : WorkUnit} {row : Subscription}

/-- A row that is changed or added satisfies it where the change does. -/
theorem each_upsert {id : String} {change : TrackedRow → TrackedRow} {fresh : TrackedRow} (each : unit.Each fits)
    (changed : ∀ tracked, fits (change tracked).current) (added : fits fresh.current) :
    Each fits ⟨upsert id change fresh unit.rows⟩ := by
  -- The induction is on the rows of the unit, up to the one with the id.
  obtain ⟨rows⟩ := unit
  unfold Each at each ⊢
  induction rows with
  | nil => simpa [upsert] using added
  | cons tracked rest ih =>
    simp only [List.forall_mem_cons] at each
    unfold upsert
    split
    · simpa using ⟨changed tracked, each.2⟩
    · simpa using ⟨each.1, ih each.2⟩

theorem Each.update (each : unit.Each fits) (own : ∀ stamp, fits { row with lastSavedAt := stamp }) :
    (unit.update row).Each fits :=
  each_upsert each (fun _ => own _) (own row.lastSavedAt)

theorem Each.add (each : unit.Each fits) (own : fits row) : (unit.add row).Each fits :=
  each_upsert each (fun _ => own) own

/-- Stored subscriptions are known as they are, or as the unit has them. -/
theorem Each.trackAll : ∀ (rows : List Subscription) {unit : WorkUnit}, unit.Each fits → (∀ row ∈ rows, fits row) →
    (∀ row ∈ (unit.trackAll rows).1, fits row) ∧ (unit.trackAll rows).2.Each fits := by
  -- The induction is on the stored rows, each of which is known already or is added.
  intro rows
  induction rows with
  | nil => exact fun each _ => ⟨by simp [WorkUnit.trackAll], each⟩
  | cons stored rest ih =>
    intro unit each known
    simp only [List.forall_mem_cons] at known
    have tracked : fits (unit.track stored).1 ∧ (unit.track stored).2.Each fits := by
      unfold WorkUnit.track
      cases found : unit.get? stored.id with
      | none =>
        refine ⟨known.1, fun other member => ?_⟩
        rcases List.mem_append.mp member with old | new
        · exact each other old
        · obtain rfl := List.mem_singleton.mp new
          exact known.1
      | some entry => exact ⟨each entry (List.mem_of_find?_eq_some found), each⟩
    obtain ⟨others, last⟩ := ih tracked.2 known.2
    exact ⟨List.forall_mem_cons.mpr ⟨tracked.1, others⟩, last⟩

end Each

/-- A unit that knows the rows gives each of them back as it is. -/
theorem trackAll_clean {rows : List Subscription} (distinct : (Rows.ids rows).Nodup) :
    ∀ found : List Subscription, (∀ row ∈ found, row ∈ rows) →
      (clean rows).trackAll found = (found, clean rows) := by
  -- The tracked row of an id is the one that was found under it.
  intro found
  induction found with
  | nil => exact fun _ => rfl
  | cons row rest ih =>
    intro known
    -- The unit tracks the row under its id, and tracks nothing else under it.
    have located : (clean rows).get? row.id = some ⟨row, some row⟩ := by
      cases tracked : (clean rows).get? row.id with
      | none =>
        have missing := List.find?_eq_none.mp tracked ⟨row, some row⟩
          (List.mem_map_of_mem (known row (by simp)))
        simp at missing
      | some entry =>
        obtain ⟨other, present, rfl⟩ := List.mem_map.mp (List.mem_of_find?_eq_some tracked)
        have named : other.id = row.id := by simpa using List.find?_some tracked
        rw [Rows.eq_of_id distinct present (known row (by simp)) named]
    simp only [trackAll, track, located]
    rw [ih fun other member => known other (by simp [member])]

/-- A unit that knows nothing gets to know rows with distinct ids as they are. -/
theorem trackAll_fresh : ∀ front back : List Subscription, (Rows.ids (front ++ back)).Nodup →
    (clean front).trackAll back = (back, clean (front ++ back)) := by
  -- Each row is tracked for the first time, so it is put at the end.
  intro front back
  induction back generalizing front with
  | nil => simp [trackAll]
  | cons row rest ih =>
    intro distinct
    -- No row in front has the id of this one.
    have unknown : (clean front).get? row.id = none := by
      simp only [Rows.ids_append, Rows.ids_cons, List.nodup_append] at distinct
      refine List.find?_eq_none.mpr fun entry member => ?_
      obtain ⟨other, present, rfl⟩ := List.mem_map.mp member
      simpa using distinct.2.2 _ (Rows.id_mem_ids present) _ (by simp)
    have grown : (⟨(clean front).rows ++ [⟨row, some row⟩]⟩ : WorkUnit) = clean (front ++ [row]) := by
      simp [clean]
    have rest_tracked := ih (front ++ [row]) (by simpa using distinct)
    simp only [trackAll, track, unknown, grown, rest_tracked]
    simp

/-- A unit that leaves a stored row as it is: what it tracks under the id of the row is the row, as it is stored. -/
def Spares (unit : WorkUnit) (row : Subscription) : Prop :=
  ∀ tracked ∈ unit.rows, tracked.current.id = row.id → tracked = ⟨row, some row⟩

/-- A unit that knows the rows as they are stored spares each of them. -/
theorem spares_clean {rows : List Subscription} (distinct : (Rows.ids rows).Nodup) {row : Subscription}
    (member : row ∈ rows) : (clean rows).Spares row := by
  -- What is tracked under the id is the row.
  intro tracked present same
  obtain ⟨other, stored, rfl⟩ := List.mem_map.mp present
  rw [Rows.eq_of_id distinct stored member same]

/-- Drafts of new ids make no difference to that. -/
theorem spares_added {rows fresh : List Subscription} (distinct : (Rows.ids (rows ++ fresh)).Nodup)
    {row : Subscription} (member : row ∈ rows) :
    (⟨(clean rows).rows ++ fresh.map fun draft => ⟨draft, none⟩⟩ : WorkUnit).Spares row := by
  -- The drafts have other ids than what is stored.
  rw [Rows.ids_append, List.nodup_append] at distinct
  intro tracked present same
  rcases List.mem_append.mp present with old | new
  · exact spares_clean distinct.1 member tracked old same
  · obtain ⟨draft, added, rfl⟩ := List.mem_map.mp new
    exact absurd same.symm (distinct.2.2 _ (Rows.id_mem_ids member) _ (Rows.id_mem_ids added))

/-- A unit goes on to spare a row while nothing else is kept back under its id. -/
theorem Spares.update {unit : WorkUnit} {row next : Subscription} (spares : unit.Spares row)
    (same : next.id = row.id → next = row) : (unit.update next).Spares row := by
  -- The rows in front of the one that changes stay, and so do those behind it.
  obtain ⟨tracked⟩ := unit
  simp only [Spares, WorkUnit.update] at spares ⊢
  induction tracked with
  | nil =>
    intro entry member own
    obtain rfl := List.mem_singleton.mp member
    rw [same own]
  | cons first rest ih =>
    intro entry member own
    simp only [upsert] at member
    split at member
    · rename_i changed
      rcases List.mem_cons.mp member with rfl | behind
      · -- What is kept back under the id of the row is the row, with the stamp that it has.
        obtain rfl := same own
        rw [spares first (by simp) changed]
        simp
      · exact spares entry (by simp [behind]) own
    · rcases List.mem_cons.mp member with rfl | behind
      · exact spares entry (by simp) own
      · exact ih (fun other present => spares other (by simp [present])) entry behind own

end WorkUnit

namespace Stage

variable {σ : Type} {stage : Stage σ} {engine : Engine σ}

/-- Two systems that may differ in their rows, and in nothing else that can be seen. -/
structure Aside (stage : Stage σ) (before after : σ) : Prop where
  log : stage.log after = stage.log before
  journal : stage.journal after = stage.journal before
  calls : stage.calls after = stage.calls before

/-- A system differs from itself in nothing. -/
theorem Aside.refl (system : σ) : stage.Aside system system := ⟨rfl, rfl, rfl⟩

/-- Differences in rows only add up to a difference in rows only. -/
theorem Aside.trans {first second third : σ} (one : stage.Aside first second)
    (two : stage.Aside second third) : stage.Aside first third :=
  ⟨two.log.trans one.log, two.journal.trans one.journal, two.calls.trans one.calls⟩

/-- A unit of work keeps a draft of every stored row, in the order of the store. -/
structure Keeps (stage : Stage σ) (unit : WorkUnit) (drafts : List Subscription) (system : σ) : Prop where
  current : unit.rows.map TrackedRow.current = drafts
  persisted : unit.rows.map TrackedRow.persisted = (stage.rows.read system).map some
  ids : Rows.ids drafts = Rows.ids (stage.rows.read system)
  distinct : (Rows.ids (stage.rows.read system)).Nodup

/-- The drafts of a clean unit are the rows. -/
theorem keeps_clean {system : σ} (distinct : (Rows.ids (stage.rows.read system)).Nodup) :
    stage.Keeps (.clean (stage.rows.read system)) (stage.rows.read system) system := by
  -- A clean unit tracks each row as it is stored.
  refine ⟨?_, ?_, rfl, distinct⟩ <;> simp [WorkUnit.clean, Function.comp_def]

/-- Drafts are kept while the rows stay. -/
theorem Keeps.of_rows {unit : WorkUnit} {drafts : List Subscription} {before after : σ}
    (keeps : stage.Keeps unit drafts before)
    (same : stage.rows.read after = stage.rows.read before) : stage.Keeps unit drafts after := by
  -- Nothing but the rows of the system is looked at.
  obtain ⟨current, persisted, ids, distinct⟩ := keeps
  rw [← same] at persisted ids distinct
  exact ⟨current, persisted, ids, distinct⟩

/-- Finding in a clean unit gives the stored rows that are meant. -/
theorem Hosts.find_run (hosted : stage.Hosts engine) {system : σ}
    (distinct : (Rows.ids (stage.rows.read system)).Nodup) (criteria : SubscriptionCriteria) :
    (WorkUnit.clean (stage.rows.read system)).find engine.store criteria system =
      .ok (Rows.find (stage.rows.read system) criteria, .clean (stage.rows.read system)) system := by
  -- The store gives some of its rows, and the unit knows them already.
  have tracked := WorkUnit.trackAll_clean distinct (Rows.find (stage.rows.read system) criteria)
    fun row member => (List.mem_filter.mp member).1
  simp [WorkUnit.find, SubscriptionStore.fetch, Action.ofStep, hosted.store, SubscriptionStore.memory,
    bind, EStateM.bind, pure, EStateM.pure, tracked]

/-- Removing a subscription deletes every row with its id, and the unit forgets it. -/
theorem Hosts.remove_run (hosted : stage.Hosts engine) (unit : WorkUnit) (row : Subscription) (system : σ) :
    unit.remove engine.store row system = .ok ⟨unit.rows.eraseP fun tracked => tracked.current.id == row.id⟩
      (stage.rows.write (Rows.remove (stage.rows.read system) row.id) system) := by
  -- The store deletes, and the unit erases, by the same id.
  simp [WorkUnit.remove, hosted.store, SubscriptionStore.memory, Action.ofStep, Part.modify, bind, EStateM.bind, pure,
    EStateM.pure]

/-- Finding everything gets an empty unit to know all rows. -/
theorem Hosts.find_all_run (hosted : stage.Hosts engine) {system : σ}
    (distinct : (Rows.ids (stage.rows.read system)).Nodup) :
    ({} : WorkUnit).find engine.store {} system =
      .ok (stage.rows.read system, .clean (stage.rows.read system)) system := by
  -- No restriction rules out a row.
  have everything : Rows.find (stage.rows.read system) {} = stage.rows.read system :=
    List.filter_eq_self.mpr fun row _ => rfl
  have tracked := WorkUnit.trackAll_fresh [] (stage.rows.read system) (by simpa using distinct)
  have empty : WorkUnit.clean [] = {} := rfl
  rw [empty, List.nil_append] at tracked
  simp [WorkUnit.find, SubscriptionStore.fetch, Action.ofStep, hosted.store, SubscriptionStore.memory,
    bind, EStateM.bind, pure, EStateM.pure, everything, tracked]

/-- Updating changes the draft of one id; a stamp that the unit knows stays. -/
theorem Keeps.update {unit : WorkUnit} {drafts : List Subscription} {system : σ}
    (keeps : stage.Keeps unit drafts system) {next : Subscription} (known : next.id ∈ Rows.ids drafts) :
    stage.Keeps (unit.update next) (drafts.map fun draft =>
      if draft.id = next.id then { next with lastSavedAt := draft.lastSavedAt.or next.lastSavedAt }
      else draft) system := by
  -- The tracked rows have the ids of the drafts, which are distinct.
  obtain ⟨rfl, persisted, ids, distinct⟩ := keeps
  have located : (unit.rows.map fun row => row.current.id) = Rows.ids (stage.rows.read system) := by
    simpa [Rows.ids, Function.comp_def] using ids
  have apart : (unit.rows.map fun row => row.current.id).Nodup := by rw [located]; exact distinct
  have tracked : next.id ∈ unit.rows.map fun row => row.current.id := by
    rw [located, ← ids]; exact known
  have changed : ∀ change fresh, WorkUnit.upsert next.id change fresh unit.rows =
      unit.rows.map fun row => if row.current.id = next.id then change row else row :=
    fun _ _ => WorkUnit.upsert_of_mem apart tracked
  -- The drafts change in one place, what is persisted and the ids do not.
  refine ⟨?_, ?_, ?_, distinct⟩
  · simp only [WorkUnit.update, changed, List.map_map]
    refine List.map_congr_left fun row _ => ?_
    by_cases same : row.current.id = next.id <;> simp [same]
  · rw [← persisted]
    simp only [WorkUnit.update, changed, List.map_map]
    refine List.map_congr_left fun row _ => ?_
    by_cases same : row.current.id = next.id <;> simp [same]
  · rw [← ids]
    simp only [Rows.ids, List.map_map]
    refine List.map_congr_left fun row _ => ?_
    by_cases same : row.current.id = next.id <;> simp [same]

/-- Updating with a change of a draft puts the change in its place. -/
theorem Keeps.update_draft {unit : WorkUnit} {drafts : List Subscription} {system : σ}
    (keeps : stage.Keeps unit drafts system) {row next : Subscription} (member : row ∈ drafts)
    (same : next.id = row.id) (stamp : next.lastSavedAt = row.lastSavedAt) :
    stage.Keeps (unit.update next) (Rows.put next drafts) system := by
  -- The draft that is replaced is the row, whose stamp the change has.
  have distinct : (Rows.ids drafts).Nodup := keeps.ids ▸ keeps.distinct
  have known : next.id ∈ Rows.ids drafts := same ▸ Rows.id_mem_ids member
  have updated := keeps.update known
  have shape : Rows.put next drafts = drafts.map fun draft =>
      if draft.id = next.id then { next with lastSavedAt := draft.lastSavedAt.or next.lastSavedAt }
      else draft := by
    refine List.map_congr_left fun draft present => ?_
    by_cases equal : draft.id = next.id
    · have own : draft = row := Rows.eq_of_id distinct present member (equal.trans same)
      rw [if_pos equal, if_pos equal, own, ← stamp, Option.or_self]
    · simp [equal]
  exact shape ▸ updated

/-- A row whose draft is as it is stored is spared. -/
theorem Keeps.spares {unit : WorkUnit} {drafts : List Subscription} {system : σ}
    (keeps : stage.Keeps unit drafts system) {row : Subscription} (draft : row ∈ drafts)
    (stored : row ∈ stage.rows.read system) : unit.Spares row := by
  -- The unit has one row for each stored one, in the same place.
  obtain ⟨rfl, persisted, ids, distinct⟩ := keeps
  intro tracked member same
  -- What is persisted of the draft is the row in the same place, and that has the id of the draft.
  obtain ⟨index, bound, rfl⟩ := List.mem_iff_getElem.mp member
  have own : unit.rows[index].current = row :=
    Rows.eq_of_id (by rw [ids]; exact distinct) (List.mem_map_of_mem member) draft same
  have short : index < (stage.rows.read system).length := by
    have lengths := congrArg List.length persisted
    simp only [List.length_map] at lengths
    omega
  have place : (stage.rows.read system)[index].id = unit.rows[index].current.id := by
    have names := List.getElem_of_eq ids (i := index) (by simpa [Rows.ids] using bound)
    simpa [Rows.ids] using names.symm
  have kept : unit.rows[index].persisted = some (stage.rows.read system)[index] := by
    have shape := List.getElem_of_eq persisted (i := index) (by simpa using bound)
    rwa [List.getElem_map, List.getElem_map] at shape
  have known : (stage.rows.read system)[index] = row :=
    Rows.eq_of_id distinct (List.getElem_mem short) stored (place.trans same)
  rw [known] at kept
  exact (TrackedRow.mk.injEq ..).mpr ⟨own, kept⟩

/-- A write to the rows leaves those as they are that have another id. -/
theorem written_spares {write : List Subscription → Subscription → Except EngineError (List Subscription)}
    (others : ∀ rows subscription next, write rows subscription = .ok next →
      ∀ row ∈ rows, subscription.id ≠ row.id → row ∈ next) (subscription : Subscription) (system : σ) :
    Meets (SubscriptionStore.written (SubscriptionStore.writeRows stage.rows stage.now write subscription)) system
      (fun _ after => ∀ row ∈ stage.rows.read system, subscription.id ≠ row.id → row ∈ stage.rows.read after)
      (fun _ _ => True) := by
  -- A write that fails ends the computation.
  unfold Meets SubscriptionStore.written Action.ofStep SubscriptionStore.writeRows
  cases result : write (stage.rows.read system) (subscription.markSaved (stage.now system)) with
  | error error => simp [result, Except.map]
  | ok next =>
    simp only [result, Except.map, stage.read_write]
    exact others _ (subscription.markSaved (stage.now system)) next result

/-- Writing one tracked row leaves every other stored row as it is, and also its own where it is tracked as it is
stored. -/
theorem Hosts.flushRow_spares (hosted : stage.Hosts engine) (tracked : TrackedRow) (system : σ) :
    Meets (WorkUnit.flushRow engine.store tracked) system (fun _ after => ∀ row ∈ stage.rows.read system,
      (tracked.current.id = row.id → tracked = ⟨row, some row⟩) → row ∈ stage.rows.read after)
      (fun _ _ => True) := by
  -- A clean row is not written at all, and a write takes one of two ways.
  unfold WorkUnit.flushRow
  split
  · rename_i dirty
    -- A row that is written differs from what is tracked of a row that is stored already.
    have apart : ∀ row : Subscription, (tracked.current.id = row.id → tracked = ⟨row, some row⟩) →
        tracked.current.id ≠ row.id := by
      intro row own same
      rw [own same] at dirty
      simp [TrackedRow.isDirty] at dirty
    refine Meets.bind (?_ : Meets _ system (fun _ after => ∀ row ∈ stage.rows.read system,
      tracked.current.id ≠ row.id → row ∈ stage.rows.read after) fun _ _ => True) fun _ after others =>
        Meets.pure fun row member own => others row member (apart row own)
    rw [hosted.store]
    split
    · exact written_spares (fun _ _ _ added _ member _ => Rows.mem_of_add added member) _ _
    · exact written_spares (fun _ _ _ updated _ member other => Rows.mem_of_update updated member (Ne.symm other)) _ _
  · exact Meets.pure fun row member _ => member

/-- A flush leaves every row that is spared as it is. -/
theorem Hosts.flush_spares (hosted : stage.Hosts engine) (unit : WorkUnit) (system : σ) :
    Meets (unit.flush engine.store) system (fun _ after => ∀ row ∈ stage.rows.read system, unit.Spares row →
      row ∈ stage.rows.read after) (fun _ _ => True) := by
  -- The tracked rows are written one after another.
  refine Meets.bind (Meets.mapM (fun _ left between => (∀ tracked ∈ left, tracked ∈ unit.rows) ∧
    ∀ row ∈ stage.rows.read system, unit.Spares row → row ∈ stage.rows.read between) ?_ unit.rows [] system
    ⟨fun _ member => member, fun _ member _ => member⟩) fun rows after ends => Meets.pure ends.2
  intro done tracked rest between ends
  obtain ⟨listed, spared⟩ := ends
  refine (hosted.flushRow_spares tracked between).mono fun _ after further =>
    ⟨fun other member => listed other (by simp [member]), fun row member spares => ?_⟩
  exact further row (spared row member spares) (spares tracked (listed tracked (by simp)))

/-- A row that the store has is written when its draft differs, and the store then has the draft. -/
theorem Hosts.flushRow_ends (hosted : stage.Hosts engine) {row : TrackedRow} {stored : Subscription}
    {front back : List Subscription} {system : σ} (persisted : row.persisted = some stored)
    (same : row.current.id = stored.id) (rows : stage.rows.read system = front ++ stored :: back)
    (distinct : (Rows.ids (front ++ stored :: back)).Nodup) :
    Ends (WorkUnit.flushRow engine.store row) system fun saved after => stage.Aside system after ∧
      ∃ next, saved = ⟨next, some next⟩ ∧ stage.rows.read after = front ++ next :: back ∧
        next.unstamped = row.current.unstamped ∧ (row.current = stored → next = stored) := by
  -- Only a draft that differs from what is stored is written.
  obtain ⟨current, known⟩ := row
  simp only at persisted same
  subst persisted
  by_cases unchanged : current = stored
  · -- A draft that is stored already stays.
    subst unchanged
    have tidy : TrackedRow.isDirty ⟨current, some current⟩ = false := by simp [TrackedRow.isDirty]
    have run : WorkUnit.flushRow engine.store ⟨current, some current⟩ system =
        .ok ⟨current, some current⟩ system := by
      simp [WorkUnit.flushRow, tidy, pure, EStateM.pure]
    exact Meets.of_run run ⟨.refl system, current, rfl, rows, rfl, fun _ => rfl⟩
  · -- Any other draft is stamped and written in its place.
    have dirty : TrackedRow.isDirty ⟨current, some stored⟩ = true := by
      simp [TrackedRow.isDirty, Ne.symm unchanged]
    have held : Rows.holds (front ++ stored :: back) current.id = true := by
      simp [Rows.holds_iff, same]
    have replaced : Rows.replace (current.markSaved (stage.now system)) (front ++ stored :: back) =
        front ++ current.markSaved (stage.now system) :: back := by
      rw [Rows.replace_eq_put distinct]
      exact Rows.put_middle same distinct
    have named : (current.markSaved (stage.now system)).id = current.id := rfl
    have run : WorkUnit.flushRow engine.store ⟨current, some stored⟩ system =
        .ok ⟨current.markSaved (stage.now system), some (current.markSaved (stage.now system))⟩
          (stage.rows.write (front ++ current.markSaved (stage.now system) :: back) system) := by
      simp [WorkUnit.flushRow, dirty, SubscriptionStore.written, Action.ofStep, hosted.store,
        SubscriptionStore.memory, SubscriptionStore.writeRows, rows, Rows.update, named, held, replaced,
        bind, EStateM.bind, pure, EStateM.pure, Except.map]
    exact Meets.of_run run ⟨⟨by simp, by simp, by simp⟩, _, rfl, by simp, by simp,
      fun equal => absurd equal unchanged⟩

/-- A row that the store does not have is added at its end. -/
theorem Hosts.addRow_ends (hosted : stage.Hosts engine) {draft : Subscription} {front : List Subscription}
    {system : σ} (rows : stage.rows.read system = front) (absent : draft.id ∉ Rows.ids front) :
    Ends (WorkUnit.flushRow engine.store ⟨draft, none⟩) system fun saved after =>
      stage.Aside system after ∧ ∃ next, saved = ⟨next, some next⟩ ∧
        stage.rows.read after = front ++ [next] ∧ next.unstamped = draft.unstamped := by
  -- A draft that was never stored differs from what is stored.
  have dirty : TrackedRow.isDirty ⟨draft, none⟩ = true := rfl
  have named : (draft.markSaved (stage.now system)).id = draft.id := rfl
  have notHeld : ¬ Rows.holds front draft.id = true := fun held => absent (Rows.holds_iff.mp held)
  have run : WorkUnit.flushRow engine.store ⟨draft, none⟩ system =
      .ok ⟨draft.markSaved (stage.now system), some (draft.markSaved (stage.now system))⟩
        (stage.rows.write (front ++ [draft.markSaved (stage.now system)]) system) := by
    simp [WorkUnit.flushRow, dirty, SubscriptionStore.written, Action.ofStep, hosted.store,
      SubscriptionStore.memory, SubscriptionStore.writeRows, rows, Rows.add, named, notHeld,
      bind, EStateM.bind, pure, EStateM.pure, Except.map]
  exact Meets.of_run run ⟨⟨by simp, by simp, by simp⟩, _, rfl, by simp, by simp⟩

/-- Stored rows that are tracked are written one after another, each in its own place. -/
theorem Hosts.flushRows_ends (hosted : stage.Hosts engine) :
    ∀ (tracked : List TrackedRow) (front stored : List Subscription) (system : σ),
      tracked.map TrackedRow.persisted = stored.map some →
      Rows.ids (tracked.map TrackedRow.current) = Rows.ids stored →
      stage.rows.read system = front ++ stored → (Rows.ids (front ++ stored)).Nodup →
      Ends (tracked.mapM (WorkUnit.flushRow engine.store)) system fun saved after =>
        stage.Aside system after ∧ ∃ rows : List Subscription,
          saved = rows.map (fun row => ⟨row, some row⟩) ∧ stage.rows.read after = front ++ rows ∧
          rows.map unstamped = (tracked.map TrackedRow.current).map unstamped ∧
          (tracked.map TrackedRow.current = stored → rows = stored) := by
  -- The rows that are written join those in front of what is left.
  intro tracked
  induction tracked with
  | nil =>
    intro front stored system persisted _ rows _
    have none_left : stored = [] := by simpa using persisted.symm
    subst none_left
    exact Meets.pure ⟨.refl system, [], by simp, rows, rfl, fun _ => rfl⟩
  | cons row rest ih =>
    intro front stored system persisted ids rows distinct
    obtain _ | ⟨own, stored⟩ := stored
    · simp at persisted
    simp only [List.map_cons, List.cons.injEq, Rows.ids_cons] at persisted ids
    -- The first row is written between what was written and what is left.
    rw [List.mapM_cons]
    apply (hosted.flushRow_ends persisted.1 ids.1 rows distinct).bind
    intro saved middle ends
    obtain ⟨aside, next, rfl, written, fields, unchanged⟩ := ends
    have sameIds : Rows.ids (front ++ [next] ++ stored) = Rows.ids (front ++ own :: stored) := by
      have named : next.id = own.id := (Subscription.id_of_unstamped fields).trans ids.1
      simp [named]
    refine (ih (front ++ [next]) stored middle persisted.2 ids.2 (by simpa using written)
      (sameIds ▸ distinct)).bind ?_
    intro others last ends
    obtain ⟨asideRest, others_rows, rfl, writtenRest, fieldsRest, unchangedRest⟩ := ends
    refine Meets.pure ⟨aside.trans asideRest, next :: others_rows, rfl, by simpa using writtenRest, ?_, ?_⟩
    · simp [fields, fieldsRest]
    · -- Drafts that are stored already are all left alone.
      intro equal
      simp only [List.map_cons, List.cons.injEq] at equal
      rw [unchanged equal.1, unchangedRest equal.2]

/-- Drafts of new ids are added one after another. -/
theorem Hosts.addRows_ends (hosted : stage.Hosts engine) :
    ∀ (fresh front : List Subscription) (system : σ), stage.rows.read system = front →
      (Rows.ids (front ++ fresh)).Nodup →
      Ends ((fresh.map fun draft => (⟨draft, none⟩ : TrackedRow)).mapM
          (WorkUnit.flushRow engine.store)) system fun saved after =>
        stage.Aside system after ∧ ∃ rows : List Subscription,
          saved = rows.map (fun row => ⟨row, some row⟩) ∧ stage.rows.read after = front ++ rows ∧
          rows.map unstamped = fresh.map unstamped := by
  -- Each draft is added behind those that were added before it.
  intro fresh
  induction fresh with
  | nil => exact fun front system rows _ => Meets.pure ⟨.refl system, [], rfl, by simpa using rows, rfl⟩
  | cons draft rest ih =>
    intro front system rows distinct
    -- No stored row has the id of the draft, and no added one has.
    have absent : draft.id ∉ Rows.ids front := by
      simp only [Rows.ids_append, Rows.ids_cons, List.nodup_append] at distinct
      exact fun member => distinct.2.2 _ member _ (by simp) rfl
    rw [List.map_cons, List.mapM_cons]
    apply (hosted.addRow_ends rows absent).bind
    intro saved middle ends
    obtain ⟨aside, next, rfl, written, fields⟩ := ends
    have named : next.id = draft.id := Subscription.id_of_unstamped fields
    apply (ih (front ++ [next]) middle written (by simpa [named] using distinct)).bind
    intro others last ends
    obtain ⟨asideRest, others_rows, rfl, writtenRest, fieldsRest⟩ := ends
    exact Meets.pure ⟨aside.trans asideRest, next :: others_rows, rfl, by simpa using writtenRest,
      by simp [fields, fieldsRest]⟩

/-- Drafts of stored rows are written in place, and then the new ones are added behind them. -/
theorem Keeps.writes_added (hosted : stage.Hosts engine) {unit : WorkUnit}
    {drafts fresh : List Subscription} {system : σ} (keeps : stage.Keeps unit drafts system)
    (distinct : (Rows.ids (drafts ++ fresh)).Nodup) :
    Ends ((unit.rows ++ fresh.map fun draft => (⟨draft, none⟩ : TrackedRow)).mapM
        (WorkUnit.flushRow engine.store)) system fun saved after => stage.Aside system after ∧
      saved = (stage.rows.read after).map (fun row => ⟨row, some row⟩) ∧
      (stage.rows.read after).map unstamped = (drafts ++ fresh).map unstamped ∧
      (drafts = stage.rows.read system → fresh = [] →
        stage.rows.read after = stage.rows.read system) := by
  -- What is stored after the first part is what stands in front of the second one.
  obtain ⟨rfl, persisted, ids, stored⟩ := keeps
  rw [List.mapM_append]
  refine (hosted.flushRows_ends unit.rows [] (stage.rows.read system) system persisted ids
    (by simp) (by simpa using stored)).bind ?_
  intro saved middle ends
  obtain ⟨aside, rows, rfl, written, fields, unchanged⟩ := ends
  have named : Rows.ids (rows ++ fresh) = Rows.ids (unit.rows.map TrackedRow.current ++ fresh) := by
    rw [Rows.ids_append, Rows.ids_append, Rows.ids_of_unstamped fields]
  refine (hosted.addRows_ends fresh rows middle (by simpa using written)
    (by rw [named]; exact distinct)).bind ?_
  intro added last ends
  obtain ⟨asideAdded, more, rfl, writtenMore, fieldsMore⟩ := ends
  refine Meets.pure ⟨aside.trans asideAdded, by simp [writtenMore], ?_, ?_⟩
  · simp [writtenMore, fields, fieldsMore]
  · -- Where nothing is new and no draft differs, nothing is written.
    intro same empty
    have nothing : more = [] := by simpa [empty] using fieldsMore
    simp [writtenMore, nothing, unchanged same]

/-- A flush stores the drafts, adds the new ones behind them, and leaves a clean unit. -/
theorem Keeps.flush_added (hosted : stage.Hosts engine) {unit : WorkUnit} {drafts fresh : List Subscription}
    {system : σ} (keeps : stage.Keeps unit drafts system)
    (distinct : (Rows.ids (drafts ++ fresh)).Nodup) :
    Ends ((⟨unit.rows ++ fresh.map fun draft => ⟨draft, none⟩⟩ : WorkUnit).flush engine.store) system
      fun flushed after => stage.Aside system after ∧
        flushed.2 = .clean (stage.rows.read after) ∧ (Rows.ids (stage.rows.read after)).Nodup ∧
        (stage.rows.read after).map unstamped = (drafts ++ fresh).map unstamped ∧
        (drafts = stage.rows.read system → fresh = [] →
          stage.rows.read after = stage.rows.read system) := by
  -- The unit that is left tracks what was written.
  apply (keeps.writes_added hosted distinct).bind
  intro saved after ends
  obtain ⟨aside, rfl, fields, unchanged⟩ := ends
  exact Meets.pure ⟨aside, rfl, by rw [Rows.ids_of_unstamped fields]; exact distinct, fields, unchanged⟩

/-- A flush stores the drafts, and leaves a clean unit. -/
theorem Keeps.flush (hosted : stage.Hosts engine) {unit : WorkUnit} {drafts : List Subscription}
    {system : σ} (keeps : stage.Keeps unit drafts system) :
    Ends (unit.flush engine.store) system fun flushed after => stage.Aside system after ∧
      flushed.2 = .clean (stage.rows.read after) ∧ (Rows.ids (stage.rows.read after)).Nodup ∧
      (stage.rows.read after).map unstamped = drafts.map unstamped ∧
      (drafts = stage.rows.read system → stage.rows.read after = stage.rows.read system) := by
  -- Nothing new is to be added.
  have distinct : (Rows.ids (drafts ++ [])).Nodup := by
    rw [List.append_nil, keeps.ids]; exact keeps.distinct
  have flushed := keeps.flush_added hosted distinct
  simpa using flushed

end Stage

end EventFeed
