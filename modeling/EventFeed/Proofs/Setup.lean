import EventFeed.Proofs.Edits

/-! Discovery and setup: which rows are added for new subscribers, and what becomes of new rows. -/

namespace EventFeed

open EventFeed.Action
open Subscription (unstamped)

namespace Rows

/-- Some rows and one more, which takes the place of the row with its id if there is one. -/
def enlist (row : Subscription) (rows : List Subscription) : List Subscription :=
  if row.id ∈ ids rows then put row rows else rows ++ [row]

/-- The ids are those that were there, and the one of the row. -/
theorem mem_ids_enlist {row : Subscription} {rows : List Subscription} {id : String} :
    id ∈ ids (enlist row rows) ↔ id ∈ ids rows ∨ id = row.id := by
  -- The row is put in a place that has its id, or at the end.
  unfold enlist
  split
  · rename_i again
    -- The row takes a place that had its id.
    rw [ids_put]
    exact ⟨Or.inl, fun known => known.elim (fun old => old) fun same => same ▸ again⟩
  · simp

/-- No row is there that was neither there before nor enlisted. -/
theorem mem_enlist {row other : Subscription} {rows : List Subscription}
    (member : other ∈ enlist row rows) : other = row ∨ other ∈ rows := by
  -- Either way of enlisting brings in one row.
  unfold enlist at member
  split at member
  · exact (mem_put member).imp id And.left
  · rw [List.mem_append, List.mem_singleton] at member
    exact member.symm

/-- The row that is enlisted is there. -/
theorem mem_enlist_self (row : Subscription) (rows : List Subscription) : row ∈ enlist row rows := by
  unfold enlist
  split
  · rename_i again
    -- It stands in the place of the row that had its id.
    obtain ⟨place, member, same⟩ := List.mem_map.mp again
    exact List.mem_map.mpr ⟨place, member, if_pos same⟩
  · simp

/-- Rows with other ids stay. -/
theorem mem_enlist_of_ne {row other : Subscription} {rows : List Subscription} (member : other ∈ rows)
    (different : other.id ≠ row.id) : other ∈ enlist row rows := by
  -- Only a row with the id gives way.
  unfold enlist
  split
  · exact List.mem_map.mpr ⟨other, member, if_neg different⟩
  · simp [member]

/-- Enlisting a row keeps ids distinct. -/
theorem distinct_enlist {row : Subscription} {rows : List Subscription} (distinct : (ids rows).Nodup) :
    (ids (enlist row rows)).Nodup := by
  -- A place with the id keeps the ids as they are, and without such a place the id is new.
  unfold enlist
  split
  · rw [ids_put]
    exact distinct
  · rename_i new
    rw [ids_append]
    exact distinct.append (by simp) (by simpa using new)

end Rows

/-- The newest index of some messages, or zero if there are none. -/
def newest (entries : List (Nat × Message)) : Nat := (entries.map Prod.fst).max?.getD 0

/-- The newest index is not above what no index is above. -/
theorem newest_le_iff {entries : List (Nat × Message)} {bound : Nat} :
    newest entries ≤ bound ↔ ∀ entry ∈ entries, entry.1 ≤ bound := by
  -- The greatest index is one of them, so a bound for it is a bound for all.
  constructor
  · intro within entry member
    exact Nat.le_trans (List.le_max?_getD_of_mem (List.mem_map_of_mem member)) within
  · intro each
    -- The newest index is zero, or the index of one of the messages.
    unfold newest
    cases found : (entries.map Prod.fst).max? with
    | none => exact Nat.zero_le _
    | some index =>
      obtain ⟨entry, member, rfl⟩ := List.mem_map.mp (List.max?_mem found)
      exact each entry member

/-- No message is above the newest index. -/
theorem le_newest {entries : List (Nat × Message)} {entry : Nat × Message} (member : entry ∈ entries) :
    entry.1 ≤ newest entries := newest_le_iff.mp (Nat.le_refl _) entry member

/-- The newest index of more messages is no less. -/
theorem newest_mono {entries longer : List (Nat × Message)} (more : entries ⊆ longer) :
    newest entries ≤ newest longer :=
  newest_le_iff.mpr fun _ member => le_newest (more member)

/-- The newest index is the index of a message, unless it is zero. -/
theorem newest_mem {entries : List (Nat × Message)} : newest entries = 0 ∨ newest entries ∈ entries.map Prod.fst := by
  -- The greatest of some indices is one of them.
  unfold newest
  cases found : (entries.map Prod.fst).max? with
  | none => exact Or.inl rfl
  | some index => exact Or.inr (List.max?_mem found)

@[simp] theorem newest_nil : newest [] = 0 := rfl

/-- A message after all others is the newest one. -/
theorem newest_append {entries : List (Nat × Message)} {entry : Nat × Message}
    (after : ∀ other ∈ entries, other.1 < entry.1) : newest (entries ++ [entry]) = entry.1 := by
  -- It is at least that index, and no other message is above it.
  refine Nat.le_antisymm (newest_le_iff.mpr fun other member => ?_) (le_newest (by simp))
  rcases List.mem_append.mp member with old | here
  · exact Nat.le_of_lt (after other old)
  · rw [List.mem_singleton.mp here]

/-- Adding a row with an id that is not stored changes only the rows that have been added before. -/
theorem WorkUnit.add_fresh {rows fresh : List Subscription} {row : Subscription}
    (distinct : (Rows.ids (rows ++ fresh)).Nodup) (absent : row.id ∉ Rows.ids rows) :
    (WorkUnit.mk ((clean rows).rows ++ fresh.map fun draft => ⟨draft, none⟩)).add row =
      ⟨(clean rows).rows ++ (Rows.enlist row fresh).map fun draft => ⟨draft, none⟩⟩ := by
  -- The tracked rows have the ids of the stored rows, and after them those of the added ones.
  have tracked : ((clean rows).rows ++ fresh.map fun draft => (⟨draft, none⟩ : TrackedRow)).map
      (fun row => row.current.id) = Rows.ids (rows ++ fresh) := by
    simp [clean, Rows.ids, Function.comp_def]
  by_cases again : row.id ∈ Rows.ids fresh
  · have member : row.id ∈ Rows.ids (rows ++ fresh) := by simp [again]
    rw [Rows.enlist, if_pos again, add, upsert_of_mem (tracked ▸ distinct) (tracked ▸ member)]
    simp only [List.map_append, WorkUnit.mk.injEq]
    -- No stored row has the id, and each added row with it is replaced.
    congr 1
    · have fixed : ∀ entry ∈ (clean rows).rows,
          (if entry.current.id = row.id then { entry with current := row } else entry) = entry := by
        intro entry present
        obtain ⟨other, stored, rfl⟩ := List.mem_map.mp present
        have different : other.id ≠ row.id := fun same => absent (same ▸ Rows.id_mem_ids stored)
        simp [different]
      simpa using List.map_congr_left fixed
    · simp only [Rows.put, List.map_map]
      refine List.map_congr_left fun draft _ => ?_
      by_cases same : draft.id = row.id <;> simp [same]
  · have foreign : row.id ∉ Rows.ids (rows ++ fresh) := by simp [absent, again]
    rw [Rows.enlist, if_neg again, add, upsert_of_not_mem (tracked ▸ foreign)]
    simp

namespace Stage

variable {σ : Type} {stage : Stage σ} {engine : Engine σ}

/-- The row that is added for a subscriber that is meant and has none. -/
def Fresh (engine : Engine σ) (criteria : FeedCriteria) (known : List String) (row : Subscription) : Prop :=
  ∃ subscriber ∈ engine.registry.subscribers, criteria.admits subscriber.id subscriber.group = true ∧
    subscriber.id ∉ known ∧ row = Engine.freshSubscription subscriber

/-- How far discovery has come: rows have been added, and nothing has been written yet. -/
structure Discovering (stage : Stage σ) (engine : Engine σ) (criteria : FeedCriteria) (before : σ)
    (added : List Subscription) (unit : WorkUnit) (left : List (Subscriber σ)) (system : σ) : Prop where
  tracked : unit.rows = (WorkUnit.clean (stage.rows.read before)).rows ++ added.map fun draft => ⟨draft, none⟩
  fresh : ∀ row ∈ added, Fresh engine criteria (Rows.ids (stage.rows.read before)) row
  distinct : (Rows.ids added).Nodup
  complete : ∀ subscriber ∈ engine.registry.subscribers,
    criteria.admits subscriber.id subscriber.group = true → subscriber ∈ left ∨
      subscriber.id ∈ Rows.ids (stage.rows.read before) ∨ subscriber.id ∈ Rows.ids added
  rows : stage.rows.read system = stage.rows.read before
  log : stage.log system = stage.log before
  calls : stage.calls system = stage.calls before
  journal : ∃ notices, stage.journal system = stage.journal before ++ notices ∧
    (∀ notice ∈ notices, ∃ id group, notice = .discovered id group ∧
      id ∉ Rows.ids (stage.rows.read before)) ∧
    ∀ row ∈ added, .discovered row.id row.group ∈ notices

/-- Rows that are added have other ids than the stored ones. -/
theorem Discovering.apart {criteria : FeedCriteria} {before system : σ} {fresh : List Subscription}
    {unit : WorkUnit} {left : List (Subscriber σ)}
    (discovering : stage.Discovering engine criteria before fresh unit left system)
    (distinct : (Rows.ids (stage.rows.read before)).Nodup) :
    (Rows.ids (stage.rows.read before ++ fresh)).Nodup := by
  -- Each of them was added because its id was not stored.
  rw [Rows.ids_append]
  refine distinct.append discovering.distinct fun id stored added => ?_
  obtain ⟨row, member, rfl⟩ := List.mem_map.mp added
  obtain ⟨subscriber, -, -, absent, rfl⟩ := discovering.fresh row member
  exact absent stored

/-- A subscriber that is not meant, or has a row, is passed over; for any other one a row is added. -/
theorem Hosts.discoverOne_ends (hosted : stage.Hosts engine) {criteria : FeedCriteria}
    {before system : σ} {fresh : List Subscription} {unit : WorkUnit} {subscriber : Subscriber σ}
    {left : List (Subscriber σ)} (distinct : (Rows.ids (stage.rows.read before)).Nodup)
    (registered : subscriber ∈ engine.registry.subscribers)
    (discovering : stage.Discovering engine criteria before fresh unit (subscriber :: left) system) :
    Ends (engine.discoverOne criteria (Rows.ids (stage.rows.read before)) unit subscriber) system
      fun unit after => ∃ fresh, stage.Discovering engine criteria before fresh unit left after := by
  -- The ids that were added are none of the stored ones.
  have apart := discovering.apart distinct
  obtain ⟨tracked, isFresh, single, complete, rows, log, calls, notices, journal, absentAll, reported⟩ :=
    discovering
  unfold Engine.discoverOne
  split
  · rename_i wanted
    obtain ⟨meant, absent⟩ := wanted
    -- A second subscriber of one id takes the place of the first one.
    let grown := Rows.enlist (Engine.freshSubscription subscriber) fresh
    have added : unit.add (Engine.freshSubscription subscriber) =
        ⟨(WorkUnit.clean (stage.rows.read before)).rows ++ grown.map fun draft => ⟨draft, none⟩⟩ := by
      have shape : unit = ⟨unit.rows⟩ := rfl
      rw [shape, tracked]
      exact WorkUnit.add_fresh apart absent
    have kept : ∀ id, id ∈ Rows.ids fresh ∨ id = subscriber.id → id ∈ Rows.ids grown :=
      fun id old => Rows.mem_ids_enlist.mpr old
    refine hosted.note_meets (Meets.pure ⟨grown, ?_, ?_, Rows.distinct_enlist single, ?_,
      by simpa using rows, by simpa using log, by simpa using calls,
      notices ++ [.discovered subscriber.id subscriber.group], by simp [journal], ?_, ?_⟩)
    · rw [added]
    · -- The new row is one of a subscriber that is meant and had none.
      intro row member
      rcases Rows.mem_enlist member with rfl | old
      · exact ⟨subscriber, registered, meant, absent, rfl⟩
      · exact isFresh row old
    · -- This subscriber has a row now, and the others wait or have theirs.
      intro other present meantOther
      rcases complete other present meantOther with here | stored | old
      · rcases List.mem_cons.mp here with rfl | later
        · exact Or.inr (Or.inr (kept _ (Or.inr rfl)))
        · exact Or.inl later
      · exact Or.inr (Or.inl stored)
      · exact Or.inr (Or.inr (kept _ (Or.inl old)))
    · intro notice member
      rcases List.mem_append.mp member with old | new
      · exact absentAll notice old
      · rw [List.mem_singleton] at new
        exact ⟨_, _, new, absent⟩
    · -- Each row that was added has been reported.
      intro row member
      rcases Rows.mem_enlist member with rfl | old
      · simp [Engine.freshSubscription]
      · simp [reported row old]
  · -- A subscriber that is passed over is not meant, or has a row.
    rename_i unwanted
    refine Meets.pure ⟨fresh, tracked, isFresh, single, fun other present meant => ?_, rows, log, calls,
      notices, journal, absentAll, reported⟩
    rcases complete other present meant with here | known
    · rcases List.mem_cons.mp here with rfl | later
      · exact Or.inr (Or.inl (Decidable.not_not.mp fun absent => unwanted ⟨meant, absent⟩))
      · exact Or.inl later
    · exact Or.inr known

/-- Discovery goes through the subscribers one after another, and writes nothing before it has seen them all. -/
theorem Hosts.collect_ends (hosted : stage.Hosts engine) {criteria : FeedCriteria} {system : σ}
    (distinct : (Rows.ids (stage.rows.read system)).Nodup) :
    Ends (engine.registry.subscribers.foldlM (engine.discoverOne criteria (Rows.ids (stage.rows.read system)))
      (.clean (stage.rows.read system))) system
      fun unit after => ∃ fresh, stage.Discovering engine criteria system fresh unit [] after := by
  -- The fold is followed with what has been added so far and who is still left.
  refine (Meets.foldlM (fun unit left between => ∃ fresh,
    (∀ subscriber ∈ left, subscriber ∈ engine.registry.subscribers) ∧
    stage.Discovering engine criteria system fresh unit left between) ?_ engine.registry.subscribers
    (.clean (stage.rows.read system)) system ?_).mono ?_
  · -- One more subscriber is looked at.
    intro unit subscriber left between ends
    obtain ⟨fresh, registered, discovering⟩ := ends
    apply (hosted.discoverOne_ends distinct (registered subscriber (by simp)) discovering).mono
    intro unit after ends
    obtain ⟨fresh, discovering⟩ := ends
    exact ⟨fresh, fun other member => registered other (by simp [member]), discovering⟩
  · -- At first nothing has been added, and everybody is still to be looked at.
    exact ⟨[], fun _ member => member, by simp, by simp, by simp, fun other present _ => Or.inl present,
      rfl, rfl, rfl, [], by simp, by simp, by simp⟩
  · intro unit after ends
    obtain ⟨fresh, -, discovering⟩ := ends
    exact ⟨fresh, discovering⟩

/-- What discovery leaves: a row for every subscriber that is meant, and nothing else is different. -/
structure Discovered (stage : Stage σ) (engine : Engine σ) (criteria : FeedCriteria) (first : Ledger)
    (before : σ) (unit : WorkUnit) (after : σ) : Prop where
  clean : unit = .clean (stage.rows.read after)
  distinct : (Rows.ids (stage.rows.read after)).Nodup
  log : stage.log after = stage.log before
  calls : stage.calls after = stage.calls before
  follows : Ledger.Follows first (stage.ledger (stage.rows.read after) after)
  complete : ∀ subscriber ∈ engine.registry.subscribers,
    criteria.admits subscriber.id subscriber.group = true → subscriber.id ∈ Rows.ids (stage.rows.read after)
  rows : ∃ fresh, (∀ row ∈ fresh, Fresh engine criteria (Rows.ids (stage.rows.read before)) row) ∧
    (stage.rows.read after).map unstamped = (stage.rows.read before ++ fresh).map unstamped ∧
    (fresh = [] → stage.rows.read after = stage.rows.read before)
  journal : ∃ notices, stage.journal after = stage.journal before ++ notices ∧
    ∀ notice ∈ notices, ∃ id group, notice = .discovered id group ∧
      id ∉ Rows.ids (stage.rows.read before)

/-- Discovery adds a row for every subscriber that is meant and has none. -/
theorem Hosts.discover_ends (hosted : stage.Hosts engine) {criteria : FeedCriteria} {system : σ}
    {first : Ledger} (distinct : (Rows.ids (stage.rows.read system)).Nodup)
    (follows : Ledger.Follows first (stage.ledger (stage.rows.read system) system)) :
    Ends (engine.discover criteria {}) system (stage.Discovered engine criteria first system) := by
  -- All rows that were added are written at once.
  apply Meets.run_bind (hosted.find_all_run distinct)
  apply (hosted.collect_ends distinct).bind
  intro result middle ends
  obtain ⟨tracked⟩ := result
  obtain ⟨fresh, discovering⟩ := ends
  have apart := discovering.apart distinct
  obtain ⟨shape, isFresh, single, complete, rows, log, calls, notices, journal, absentAll, reported⟩ :=
    discovering
  simp only at shape
  subst shape
  have keeps := (keeps_clean distinct).of_rows rows
  apply (keeps.flush_added hosted apart).bind
  intro result after ends
  obtain ⟨count, unit⟩ := result
  obtain ⟨aside, rfl, stored, fields, unchanged⟩ := ends
  -- The rows are enrolled in one step, which is the reports of discovery.
  have enrolled : Ledger.Follows first (stage.ledger (stage.rows.read system ++ fresh) middle) := by
    have step := follows.step (.enroll absentAll (fun row member => ?_)
      single)
    · simpa [ledger, journal, log, rows] using step
    · refine ⟨?_, _, reported row member⟩
      obtain ⟨subscriber, -, -, -, rfl⟩ := isFresh row member
      rfl
  refine Meets.pure ⟨rfl, stored, aside.log.trans log, aside.calls.trans calls,
    aside.quietly.saved enrolled fields fields, fun subscriber present meant => ?_,
    ⟨fresh, isFresh, fields, fun none => ?_⟩, notices, by rw [aside.journal, journal], absentAll⟩
  · rw [Rows.ids_of_unstamped fields]
    rcases complete subscriber present meant with absurd | old | new
    · simp at absurd
    · simp [old]
    · simp [new]
  · rw [← rows]
    exact unchanged (by simpa using rows.symm) none

/-- Where nobody is new, discovery changes no row. -/
theorem Discovered.rows_eq {criteria : FeedCriteria} {first : Ledger} {before after : σ} {unit : WorkUnit}
    (discovered : stage.Discovered engine criteria first before unit after)
    (known : ∀ subscriber ∈ engine.registry.subscribers,
      criteria.admits subscriber.id subscriber.group = true →
      subscriber.id ∈ Rows.ids (stage.rows.read before)) :
    stage.rows.read after = stage.rows.read before := by
  -- Every row that is added belongs to a subscriber that had none.
  obtain ⟨fresh, isFresh, -, unchanged⟩ := discovered.rows
  refine unchanged (List.eq_nil_iff_forall_not_mem.mpr fun row member => ?_)
  obtain ⟨subscriber, present, meant, absent, -⟩ := isFresh row member
  exact absent (known subscriber present meant)

/-- The end of the log is its newest index. -/
theorem Hosts.latestIndex_newest (hosted : stage.Hosts engine) (system : σ) :
    Ends engine.latestIndex system fun index after => after = system ∧ index = newest (stage.log system) := by
  -- Loading the log backwards with a limit of one gives its last entry, if there is one.
  have everything : ((stage.log system).filter fun entry => ({} : LogCriteria).admits entry.1 entry.2) =
      stage.log system := List.filter_eq_self.mpr fun _ _ => rfl
  have run : Action.ofStep (engine.source.load {} LoadOptions.latest) system =
      .ok (((stage.log system).reverse.take 1).map .ok) system := by
    simp only [Action.ofStep, hosted.load, everything, LoadOptions.page, LoadOptions.latest]
    simp
  apply Meets.run_bind run
  cases shape : (stage.log system).reverse with
  | nil =>
    rw [List.reverse_eq_nil_iff] at shape
    exact Meets.pure ⟨rfl, by simp [shape]⟩
  | cons entry rest =>
    -- The log is in order, so its last entry is the newest one.
    have split : stage.log system = rest.reverse ++ [entry] := by simpa using congrArg List.reverse shape
    have ascending := stage.ascending system
    rw [split, List.map_append, List.pairwise_append] at ascending
    have last : newest (stage.log system) = entry.1 := by
      rw [split]
      exact newest_append fun other member => ascending.2.2 _ (List.mem_map_of_mem member) _ (by simp)
    exact Meets.pure ⟨rfl, last.symm⟩

/-- The end of the log is what was looked up before, or what it is now. -/
theorem Hosts.latestOnce_run (hosted : stage.Hosts engine) (latest : Option Nat) (system : σ) :
    engine.latestOnce latest system = .ok (latest.getD (newest (stage.log system))) system := by
  -- It is looked up only where that has not been done.
  cases latest with
  | some index => rfl
  | none =>
    obtain ⟨index, after, run, rfl, rfl⟩ := (hosted.latestIndex_newest system).run
    exact run

/-- What holds of an end of the log that was looked up before, and of the one that it has now, holds of what is
looked up. -/
theorem Hosts.latestOnce_ends (hosted : stage.Hosts engine) {latest : Option Nat} {system : σ} {holds : Nat → Prop}
    (before : ∀ index, latest = some index → holds index) (now : holds (newest (stage.log system))) :
    Ends (engine.latestOnce latest) system fun index after => after = system ∧ holds index := by
  -- The system stays as it is, and the index comes from either side.
  refine Meets.of_run (hosted.latestOnce_run latest system) ⟨rfl, ?_⟩
  cases latest with
  | some index => exact before index rfl
  | none => exact now

/-- The end of the log is an index of the log, or zero. -/
theorem Hosts.latestIndex_ends (hosted : stage.Hosts engine) (system : σ) :
    Ends engine.latestIndex system fun index after =>
      after = system ∧ (index = 0 ∨ index ∈ stage.indices system) :=
  Meets.mono (hosted.latestIndex_newest system) fun _ _ ends => ⟨ends.1, ends.2 ▸ newest_mem⟩

/-- A failure is reported with the status and the position it is met in. -/
theorem Hosts.fail_run (hosted : stage.Hosts engine) (row : Subscription) (error : HandlerError)
    (system : σ) :
    engine.fail row error system =
      .ok (row.fail (.ofHandler error), ⟨row.id, .ofHandler error⟩)
        (stage.observe (.failed row.id row.status row.position (.ofHandler error)) system) := by
  -- The report is the only effect.
  unfold Engine.fail
  rw [hosted.note_bind]
  rfl

/-- What becomes of a new subscription when those with a subscriber are set up. -/
inductive SetUp (engine : Engine σ) (row : Subscription) : Subscription → Prop
  /-- It has no subscriber, and is left alone. -/
  | left (unknown : engine.registry.get? row.id = none) : SetUp engine row row
  /-- Its setup hook fails. -/
  | failed (error : CapturedError) : SetUp engine row (row.fail error)
  /-- It starts to catch up. -/
  | booting (mode : row.runMode ≠ .fromNow) : SetUp engine row row.booting
  /-- It starts at the end of the log. -/
  | fromNow (mode : row.runMode = .fromNow) (index : Nat) :
    SetUp engine row (row.changePosition index).active

/-- Setup changes no id. -/
theorem SetUp.id_eq {row next : Subscription} (setUp : SetUp engine row next) : next.id = row.id := by
  -- Each way to be set up keeps the id.
  cases setUp <;> rfl

/-- Only a subscription without a subscriber is new after the setup. -/
theorem SetUp.unknown {row next : Subscription} (setUp : SetUp engine row next)
    (status : next.status = .new) : engine.registry.get? row.id = none := by
  -- Every other one has become booting or active, or has failed.
  cases setUp with
  | left unknown => exact unknown
  | failed error => cases status
  | booting mode => cases status
  | fromNow mode index => cases status

/-- What the setup of one subscription leaves: its draft is changed, and its hook
may have moved the system on. -/
structure SetsUp (stage : Stage σ) (engine : Engine σ) (first : Ledger) (drafts : List Subscription)
    (row : Subscription) (before : σ) (state : Engine.SetupState) (after : σ) : Prop where
  edit : ∃ next, SetUp engine row next ∧ stage.Keeps state.unit (Rows.put next drafts) after ∧
    Ledger.Follows first (stage.ledger (Rows.put next drafts) after)
  latest : ∀ index, state.latest = some index → index = 0 ∨ index ∈ stage.indices after
  log : stage.log before <+: stage.log after
  still : (∀ subscriber ∈ engine.registry.subscribers, stage.Resting subscriber) →
    stage.log after = stage.log before
  rows : stage.rows.read after = stage.rows.read before

/-- A subscription that has been set up starts at the end of the log, or starts to catch up. -/
theorem Hosts.start_ends (hosted : stage.Hosts engine) {state : Engine.SetupState}
    {drafts : List Subscription} {row : Subscription} {system : σ} {first : Ledger} (member : row ∈ drafts)
    (status : row.status = .new) (keeps : stage.Keeps state.unit drafts system)
    (latest : ∀ index, state.latest = some index → index = 0 ∨ index ∈ stage.indices system)
    (follows : Ledger.Follows first (stage.ledger drafts system)) :
    Ends (engine.start state row) system (stage.SetsUp engine first drafts row system) := by
  -- The run mode decides between the two.
  unfold Engine.start
  split
  · -- A subscription that wants no history starts at the end of the log.
    rename_i mode
    -- The end of the log is looked up now, or was looked up before in a log that has only grown.
    apply Meets.bind (hosted.latestOnce_ends latest newest_mem)
    intro index after ends
    obtain ⟨rfl, present⟩ := ends
    have moved := follows_move follows member (.startNow status mode present) (by simp) (by simp)
      (stage.journal_observe (.activeFromNow row.id index) after)
    refine hosted.note_meets (Meets.pure ⟨⟨_, .fromNow mode index, ?_, moved⟩, ?_, by simp, by simp, by simp⟩)
    · have drafted : stage.Keeps (state.unit.update (row.changePosition index).active)
          (Rows.put (row.changePosition index).active drafts) after := keeps.update_draft member rfl rfl
      exact drafted.of_rows (by simp)
    · intro other same
      cases same
      simpa [indices] using present
  · rename_i mode
    -- Any other one starts to catch up.
    have edits : stage.Edits (SetUp engine) first drafts row system (state.unit.update row.booting)
        (stage.observe (.booting row.id) system) :=
      edits_of_moved member keeps follows (.booting mode) (.boot status mode) rfl
        (quietly_observe rfl system) (by simp)
    refine hosted.note_meets (Meets.pure ⟨edits.edit, ?_, by simp, by simp, by simp⟩)
    simpa [indices] using latest

/-- A subscription is set up with the hook of its subscriber, if there is one. -/
theorem Hosts.setupOne_meets (hosted : stage.Hosts engine)
    (behaves : ∀ subscriber ∈ engine.registry.subscribers, stage.Behaves subscriber)
    {state : Engine.SetupState} {drafts : List Subscription} {row : Subscription} {system : σ}
    {first : Ledger} (member : row ∈ drafts) (status : row.status = .new)
    (keeps : stage.Keeps state.unit drafts system)
    (latest : ∀ index, state.latest = some index → index = 0 ∨ index ∈ stage.indices system)
    (follows : Ledger.Follows first (stage.ledger drafts system)) :
    Meets (engine.setupOne state row) system (stage.SetsUp engine first drafts row system)
      (fun abort after => Panics engine abort ∧
        ∃ known, Ledger.Follows first (stage.ledger known after)) := by
  -- The cases are those of the program: no subscriber, no hook, a hook that succeeds or fails.
  unfold Engine.setupOne
  split
  · rename_i unknown
    -- Without a subscriber nothing happens.
    have own : Rows.put row drafts = drafts := Rows.put_of_mem (keeps.ids ▸ keeps.distinct) member
    exact Meets.pure ⟨⟨row, .left unknown, own.symm ▸ keeps, own.symm ▸ follows⟩, latest,
      List.prefix_refl _, fun _ => rfl, rfl⟩
  · rename_i subscriber known
    split
    · -- A subscriber without a hook starts at once.
      exact (hosted.start_ends member status keeps latest follows).meets
    · rename_i hook declared
      have registered := List.mem_of_find?_eq_some known
      have moved := (behaves subscriber registered).setup hook declared system
      -- The hook may append messages, and what was known of the log stays true.
      refine ((call_leaves hook system).weaken (fun _ _ same => same) fun _ _ early =>
        ⟨early.1, drafts, early.2 ▸ moved.follows follows⟩).bind fun result middle same => ?_
      -- A resting hook appends nothing.
      have still : (∀ subscriber ∈ engine.registry.subscribers, stage.Resting subscriber) →
          stage.log middle = stage.log system := fun resting =>
        same ▸ (resting subscriber registered).setup hook declared system
      rw [← same] at moved
      have later : ∀ index, state.latest = some index → index = 0 ∨ index ∈ stage.indices middle :=
        fun index same => (latest index same).imp id fun present => (moved.log.map Prod.fst).subset present
      cases result with
      | error error =>
        -- The hook has failed, and so has the subscription.
        apply Meets.run_bind (hosted.fail_run row error middle)
        have failed := follows_move (moved.follows follows) member
          (.failSetup status (.ofHandler error)) (by simp) (by simp)
          (stage.journal_observe (.failed row.id row.status row.position (.ofHandler error)) middle)
        refine Meets.pure ⟨⟨_, .failed _, ?_, failed⟩, ?_, by simpa using moved.log, by simpa using still,
          by simpa using moved.rows⟩
        · have drafted : stage.Keeps (state.unit.update (row.fail (.ofHandler error)))
              (Rows.put (row.fail (.ofHandler error)) drafts) system := keeps.update_draft member rfl rfl
          exact drafted.of_rows (by simpa using moved.rows)
        · simpa [indices] using later
      | ok _ =>
        -- The hook is done, and the subscription starts.
        have quietly : stage.Quietly middle (stage.observe (.setupDone row.id) middle) :=
          quietly_observe rfl middle
        refine hosted.note_meets (Ends.meets ?_)
        refine (hosted.start_ends member status (keeps.of_rows (by simpa using moved.rows))
          (by simpa [indices] using later) (quietly.follows (by simp) (moved.follows follows))).mono ?_
        intro state after ends
        obtain ⟨edit, latest, log, stillAfter, rows⟩ := ends
        refine ⟨edit, latest, moved.log.trans (by simpa using log), fun resting => ?_,
          by simpa [moved.rows] using rows⟩
        exact (stillAfter resting).trans (by simpa using still resting)

/-- What the setup phase leaves: new subscriptions are set up and stored, and the log may be longer. -/
structure Prepared (stage : Stage σ) (engine : Engine σ) (criteria : FeedCriteria) (first : Ledger)
    (before : σ) (unit : WorkUnit) (after : σ) : Prop where
  clean : unit = .clean (stage.rows.read after)
  distinct : (Rows.ids (stage.rows.read after)).Nodup
  log : stage.log before <+: stage.log after
  still : (∀ subscriber ∈ engine.registry.subscribers, stage.Resting subscriber) →
    stage.log after = stage.log before
  follows : Ledger.Follows first (stage.ledger (stage.rows.read after) after)
  rows : ∃ change, Edited (criteria.withStatuses [.new]).admits (SetUp engine) (stage.rows.read before) change ∧
    (stage.rows.read after).map unstamped = ((stage.rows.read before).map change).map unstamped

/-- The setup phase sets up the new subscriptions that are meant. -/
theorem Hosts.setupNew_meets (hosted : stage.Hosts engine)
    (behaves : ∀ subscriber ∈ engine.registry.subscribers, stage.Behaves subscriber)
    {criteria : FeedCriteria} {system : σ} {first : Ledger}
    (distinct : (Rows.ids (stage.rows.read system)).Nodup)
    (follows : Ledger.Follows first (stage.ledger (stage.rows.read system) system)) :
    Meets (engine.setupNew criteria (.clean (stage.rows.read system))) system
      (fun result after => stage.Prepared engine criteria first system result.2 after)
      (fun abort after => Panics engine abort ∧
        ∃ known, Ledger.Follows first (stage.ledger known after)) := by
  -- Every hook moves the log on, and the rows stay until the flush.
  apply Meets.run_bind (hosted.find_run distinct _)
  refine (pass_meets Engine.SetupState.unit (fun state drafts between =>
    (∀ index, state.latest = some index → index = 0 ∨ index ∈ stage.indices between) ∧
    stage.log system <+: stage.log between ∧
    ((∀ subscriber ∈ engine.registry.subscribers, stage.Resting subscriber) →
      stage.log between = stage.log system) ∧
    stage.rows.read between = stage.rows.read system ∧
    Ledger.Follows first (stage.ledger drafts between)) distinct (fun _ _ (setUp : SetUp engine _ _) => setUp.id_eq) ?_
    (keeps_clean distinct) ⟨by simp, List.prefix_refl _, fun _ => rfl, rfl, follows⟩).bind ?_
  · -- One more new row is set up.
    intro state row drafts between _ member chosen keeps ends
    obtain ⟨latest, log, still, rows, follows⟩ := ends
    rw [FeedCriteria.admits_withStatuses] at chosen
    have status : row.status = .new := by simpa using (Bool.and_eq_true_iff.mp chosen).2
    apply (hosted.setupOne_meets behaves member status keeps latest follows).mono
    intro state after ends
    obtain ⟨⟨next, setUp, keeps, follows⟩, latest, further, stillStep, same⟩ := ends
    exact ⟨next, setUp, keeps, latest, log.trans further,
      fun resting => (stillStep resting).trans (still resting), same.trans rows, follows⟩
  · -- At the end all rows that were set up are written.
    intro state middle ends
    obtain ⟨change, edited, keeps, -, log, still, rows, follows⟩ := ends
    refine Ends.meets (Meets.bind (keeps.flush hosted) ?_)
    intro result after ends
    obtain ⟨count, unit⟩ := result
    obtain ⟨aside, rfl, stored, fields, -⟩ := ends
    exact Meets.pure ⟨rfl, stored, aside.log ▸ log, fun resting => aside.log.trans (still resting),
      aside.quietly.saved follows fields fields, change, edited, fields⟩

end Stage

end EventFeed
