import EventFeed.Proofs.Discovery
import EventFeed.Proofs.Edits

/-! Computations that find nothing to do: they return, and leave nothing behind but reports that say so. -/

namespace EventFeed

open EventFeed.Action

variable {σ : Type}

namespace Stage

variable {stage : Stage σ} {engine : Engine σ} {criteria : FeedCriteria}

/-- A system after some reports. -/
def reported (stage : Stage σ) (notices : List Notice) (system : σ) : σ :=
  notices.foldl (fun system notice => stage.observe notice system) system

@[simp] theorem reported_nil (system : σ) : stage.reported [] system = system := rfl

theorem reported_append (front back : List Notice) (system : σ) :
    stage.reported (front ++ back) system = stage.reported back (stage.reported front system) :=
  List.foldl_append

@[simp] theorem reported_singleton (notice : Notice) (system : σ) :
    stage.reported [notice] system = stage.observe notice system := rfl

@[simp] theorem read_reported (notices : List Notice) (system : σ) :
    stage.rows.read (stage.reported notices system) = stage.rows.read system := by
  -- No single report touches the rows.
  induction notices generalizing system with
  | nil => rfl
  | cons notice rest ih => exact (ih _).trans (stage.read_observe notice system)

@[simp] theorem log_reported (notices : List Notice) (system : σ) :
    stage.log (stage.reported notices system) = stage.log system := by
  -- No single report touches the log.
  induction notices generalizing system with
  | nil => rfl
  | cons notice rest ih => exact (ih _).trans (stage.log_observe notice system)

@[simp] theorem calls_reported (notices : List Notice) (system : σ) :
    stage.calls (stage.reported notices system) = stage.calls system := by
  -- No single report touches the calls.
  induction notices generalizing system with
  | nil => rfl
  | cons notice rest ih => exact (ih _).trans (stage.calls_observe notice system)

@[simp] theorem journal_reported (notices : List Notice) (system : σ) :
    stage.journal (stage.reported notices system) = stage.journal system ++ notices := by
  -- Each report is added at the end.
  induction notices generalizing system with
  | nil => simp
  | cons notice rest ih =>
    have later : stage.reported (notice :: rest) system = stage.reported rest (stage.observe notice system) := rfl
    simp [later, ih]

/-- Whether a report is one that an engine makes when it has nothing to do: a retry is not due, nobody is to be fed, or
the log is looked at. -/
def restful : Notice → Bool
  | .retryDeferred .. | .nothingToBoot | .nothingActive | .loading .. => true
  | _ => false

/-- A computation that returns a value and does nothing else, but for reports that there is nothing to do. -/
def Rests {α : Type} (stage : Stage σ) (action : Action σ α) (value : α) (system : σ) : Prop :=
  ∃ notices, action system = .ok value (stage.reported notices system) ∧ ∀ notice ∈ notices, restful notice = true

section Rests

variable {α β : Type} {system : σ}

/-- A computation that does not even report. -/
theorem Rests.of_run {action : Action σ α} {value : α} (run : action system = .ok value system) :
    stage.Rests action value system := ⟨[], run, by simp⟩

/-- One computation that rests after another. -/
theorem Rests.bind {action : Action σ α} {next : α → Action σ β} {value : α} {result : β}
    (first : stage.Rests action value system)
    (rest : ∀ notices, stage.Rests (next value) result (stage.reported notices system)) :
    stage.Rests (action >>= next) result system := by
  -- Both leave the system as it is but for reports.
  obtain ⟨before, run, idle⟩ := first
  obtain ⟨later, further, idleLater⟩ := rest before
  -- The reports of the second one come after those of the first.
  refine ⟨before ++ later, ?_, fun notice member => ?_⟩
  · show EStateM.bind action next system = _
    simp [EStateM.bind, run, further, reported_append]
  · exact (List.mem_append.mp member).elim (idle notice) (idleLater notice)

/-- A computation that looks at the system goes on with it. -/
theorem Rests.get_bind {next : σ → Action σ α} {value : α} (rest : stage.Rests (next system) value system) :
    stage.Rests (get >>= next) value system := rest

/-- A fold rests when no step of it changes what is folded. -/
theorem rests_foldlM {step : β → α → Action σ β} {state : β} (items : List α) :
    (∀ item ∈ items, ∀ system, stage.Rests (step state item) state system) →
      ∀ system, stage.Rests (items.foldlM step state) state system := by
  -- The induction is on the items, from any system.
  induction items with
  | nil => exact fun _ system => .of_run rfl
  | cons item rest ih =>
    intro steps system
    rw [List.foldlM_cons]
    exact (steps item (by simp) system).bind fun notices => ih (fun other member => steps other (by simp [member])) _

/-- A map rests when each of its steps gives back what it was given. -/
theorem rests_mapM {step : α → Action σ α} (items : List α) :
    (∀ item ∈ items, ∀ system, stage.Rests (step item) item system) →
      ∀ system, stage.Rests (items.mapM step) items system := by
  -- The induction is on the items, from any system.
  induction items with
  | nil => exact fun _ system => .of_run rfl
  | cons item rest ih =>
    intro steps system
    rw [List.mapM_cons]
    refine (steps item (by simp) system).bind fun notices => ?_
    exact (ih (fun other member => steps other (by simp [member])) _).bind fun _ => .of_run rfl

end Rests

/-- A report that there is nothing to do. -/
theorem Hosts.note_rests (hosted : stage.Hosts engine) {notice : Notice} (idle : restful notice = true) (system : σ) :
    stage.Rests (engine.note notice) () system :=
  ⟨[notice], hosted.note_run notice system, by simpa using idle⟩

section Phases

variable (hosted : stage.Hosts engine) {rows : List Subscription} (distinct : (Rows.ids rows).Nodup) {system : σ}
  (stored : stage.rows.read system = rows)

include hosted distinct stored

/-- Finding subscriptions in a clean unit. -/
theorem Hosts.find_rests (criteria : SubscriptionCriteria) :
    stage.Rests ((WorkUnit.clean rows).find engine.store criteria) (Rows.find rows criteria, .clean rows) system := by
  -- The unit is clean, so it lists what is stored.
  subst stored
  exact .of_run (hosted.find_run distinct criteria)

/-- Where no retry is approved, the retry phase only reports that none is due. -/
theorem Hosts.retry_rests (never : Unforgiving engine) (failedIn : List Status) :
    stage.Rests (engine.retry criteria failedIn (.clean rows)) (.clean rows) system := by
  -- Each row that is found is passed over, so that the flush finds nothing to write.
  apply (hosted.find_rests distinct stored _).bind
  intro _
  refine (rests_foldlM _ (fun row _ between => ?_) _).bind fun _ => .of_run ?_
  · -- A subscription that failed elsewhere is not even reported.
    unfold Engine.retryOne
    split
    · exact .of_run rfl
    · apply Rests.get_bind
      rw [never]
      exact (hosted.note_rests rfl _).bind fun _ => .of_run rfl
  · simp [bind, EStateM.bind, WorkUnit.flush_clean, pure, EStateM.pure]

/-- Where everybody who is meant has a subscriber, nothing is detached. -/
theorem Hosts.markDetached_rests {statuses : List Status}
    (attached : ∀ row ∈ rows, criteria.admits row.id row.group = true → row.status ∈ statuses →
      engine.registry.knows row.id = true) :
    stage.Rests (engine.markDetached criteria statuses (.clean rows)) (.clean rows) system := by
  -- Each row that is found has its subscriber, so that the flush finds nothing to write.
  apply (hosted.find_rests distinct stored _).bind
  intro _
  refine (rests_foldlM _ (fun row member between => ?_) _).bind fun _ => .of_run ?_
  · obtain ⟨present, chosen⟩ := List.mem_filter.mp member
    rw [FeedCriteria.admits_withStatuses, Bool.and_eq_true, decide_eq_true_eq] at chosen
    rw [Engine.detachOne, if_pos (attached row present chosen.1 chosen.2)]
    exact .of_run rfl
  · simp [bind, EStateM.bind, WorkUnit.flush_clean, pure, EStateM.pure]

/-- Where nobody is new, nothing is set up. -/
theorem Hosts.setupNew_rests
    (started : ∀ row ∈ rows, criteria.admits row.id row.group = true → row.status ≠ .new) :
    stage.Rests (engine.setupNew criteria (.clean rows)) ([], .clean rows) system := by
  -- The phase finds no row, and what is left of it is the write of a clean unit.
  apply (hosted.find_rests distinct stored _).bind
  intro _
  have nobody : Rows.find rows (criteria.withStatuses [.new]) = [] := by
    apply List.filter_eq_nil_iff.mpr
    intro row member chosen
    rw [FeedCriteria.admits_withStatuses, Bool.and_eq_true, decide_eq_true_eq, List.mem_singleton] at chosen
    exact started row member chosen.1 chosen.2
  rw [nobody]
  apply Rests.of_run
  simp [bind, EStateM.bind, WorkUnit.flush_clean, pure, EStateM.pure]

/-- Looking for targets changes nothing. -/
theorem Hosts.targets_rests (status : Status) :
    stage.Rests (engine.targets criteria status (.clean rows))
      (targetsIn engine criteria status rows, .clean rows) system := by
  -- The targets are read from the clean unit.
  subst stored
  exact .of_run (hosted.targets_run distinct)

/-- Where nobody is new, discovery does not even report. -/
theorem Hosts.discover_rests
    (known : ∀ subscriber ∈ engine.registry.subscribers, criteria.admits subscriber.id subscriber.group = true →
      subscriber.id ∈ Rows.ids rows) : stage.Rests (engine.discover criteria {}) (.clean rows) system := by
  -- There is nobody to collect, and nothing to write.
  subst stored
  exact .of_run (hosted.discover_idle distinct known)

end Phases

end Stage

end EventFeed
