import EventFeed.Proofs.Faithful

/-! Stores that can be relied on: those in memory at any time, and those in files as long as their files hold
subscriptions for which there is room. -/

namespace EventFeed

open EventFeed.Action

variable {σ : Type}

namespace Disk

/-- The rows that the file of a disk holds, when it can be read. -/
def rows (disk : Disk) : List Subscription := disk.read.toOption.getD []

/-- The file of a disk holds subscriptions within a quota, with ids of their own. -/
def Stocked (quota : Quota) (spare : Nat) (disk : Disk) : Prop :=
  ∃ rows, disk.Mirrors rows ∧ (Rows.ids rows).Nodup ∧ ∀ row ∈ rows, row.Fits quota spare

variable {disk : Disk} {quota : Quota} {spare : Nat}

/-- Such a file can be read. -/
theorem Stocked.read (stocked : disk.Stocked quota spare) (roomy : quota.Roomy) :
    disk.read = .ok disk.rows ∧ disk.Mirrors disk.rows ∧ (Rows.ids disk.rows).Nodup ∧
      ∀ row ∈ disk.rows, row.Fits quota spare := by
  -- What has been encoded within the quota can be decoded.
  obtain ⟨rows, mirrors, distinct, each⟩ := stocked
  have read := mirrors.read (roomy.writable distinct each)
  have same : disk.rows = rows := by rw [Disk.rows, read]; rfl
  rw [same]
  exact ⟨read, mirrors, distinct, each⟩

/-- A change of what it holds is made, when the next subscriptions are within the quota as well. -/
theorem Stocked.modify (stocked : disk.Stocked quota spare) (roomy : quota.Roomy)
    (change : List Subscription → Except EngineError (List Subscription)) {next : List Subscription}
    (changed : change disk.rows = .ok next) (distinct : (Rows.ids next).Nodup)
    (each : ∀ row ∈ next, row.Fits quota spare) :
    ∃ after, disk.modify change = (.ok (), after) ∧ after.rows = next ∧ after.Stocked quota spare := by
  -- The change is given what the file holds, and does not fail.
  obtain ⟨-, mirrors, apart, fits⟩ := stocked.read roomy
  rcases mirrors.modify (roomy.writable apart fits) change with ⟨_, after, same, modified, holds⟩ | ⟨_, failed, -⟩
  · obtain rfl := Except.ok.inj (changed.symm.trans same)
    refine ⟨after, modified, ?_, _, holds, distinct, each⟩
    rw [Disk.rows, holds.read (roomy.writable distinct each)]
    rfl
  · cases changed.symm.trans failed

end Disk

namespace SubscriptionStore

/-- A store that can be relied on: while it is ready, it does what it is asked to do with its rows, stamps what it
writes with the time of its clock, and stays ready. It may have room for some subscriptions only, whatever their
stamps. -/
structure Sound (store : SubscriptionStore σ) (rows : σ → List Subscription) (now : σ → Timestamp)
    (room : Subscription → Prop) (ready : σ → Prop) : Prop where
  stamped : ∀ {row}, room row → ∀ stamp, room { row with lastSavedAt := stamp }
  within : ∀ {system}, ready system → ∀ row ∈ rows system, room row
  find : ∀ criteria {system}, ready system →
    (store.find criteria system).1 = .ok (Rows.find (rows system) criteria) ∧
      rows (store.find criteria system).2 = rows system ∧ ready (store.find criteria system).2
  add : ∀ {row system}, ready system → room row → row.id ∉ Rows.ids (rows system) →
    (store.add row system).1 = ⟨row.markSaved (now system), .ok ()⟩ ∧
      rows (store.add row system).2 = rows system ++ [row.markSaved (now system)] ∧ ready (store.add row system).2
  update : ∀ {row system}, ready system → room row → row.id ∈ Rows.ids (rows system) →
    (store.update row system).1 = ⟨row.markSaved (now system), .ok ()⟩ ∧
      rows (store.update row system).2 = Rows.replace (row.markSaved (now system)) (rows system) ∧
        ready (store.update row system).2
  remove : ∀ row {system}, ready system →
    (store.remove row system).1 = .ok () ∧ rows (store.remove row system).2 = Rows.remove (rows system) row.id ∧
      ready (store.remove row system).2

/-- A store in memory is always ready and has room for everything, whatever its clock does. -/
theorem memory_sound {part : Part σ (List Subscription)} (now : σ → Timestamp)
    (read_write : ∀ written system, part.read (part.write written system) = written) :
    (memory part now).Sound part.read now (fun _ => True) fun _ => True where
  stamped _ _ := trivial
  within _ _ _ := trivial
  find _ _ _ := ⟨rfl, rfl, trivial⟩
  add {row system} _ _ absent := by
    have added : Rows.add (part.read system) (row.markSaved (now system)) = _ := Rows.add_of_not_mem absent
    simp [memory, writeRows, added, read_write]
  update {row system} _ _ present := by
    have updated : Rows.update (part.read system) (row.markSaved (now system)) = _ := Rows.update_of_mem present
    simp [memory, writeRows, updated, read_write]
  remove _ _ _ := ⟨rfl, read_write _ _, trivial⟩

section Files

variable {disk : Part σ Disk} {now : σ → Timestamp} {quota : Quota} {spare : Nat} {system : σ}

/-- What is written to a file within a quota is stamped and stored. -/
theorem writeDisk_stocked (read_write : ∀ written system, disk.read (disk.write written system) = written)
    (roomy : quota.Roomy) (stocked : (disk.read system).Stocked quota spare)
    {write : List Subscription → Subscription → Except EngineError (List Subscription)} {row : Subscription}
    {next : List Subscription} (wrote : write (disk.read system).rows (row.markSaved (now system)) = .ok next)
    (distinct : (Rows.ids next).Nodup) (each : ∀ other ∈ next, other.Fits quota spare) :
    (writeDisk disk now write row system).1 = ⟨row.markSaved (now system), .ok ()⟩ ∧
      (disk.read (writeDisk disk now write row system).2).rows = next ∧
        (disk.read (writeDisk disk now write row system).2).Stocked quota spare := by
  -- The file is modified as a whole, in room that it has.
  obtain ⟨after, modified, holds, further⟩ :=
    stocked.modify roomy (fun rows => write rows (row.markSaved (now system))) wrote distinct each
  simp [writeDisk, Part.run, modified, read_write, holds, further]

/-- A store in a file is ready while the file holds subscriptions within a quota, and has room for those. -/
theorem file_sound (now : σ → Timestamp)
    (read_write : ∀ written system, disk.read (disk.write written system) = written) (roomy : quota.Roomy) :
    (file disk now).Sound (fun system => (disk.read system).rows) now (·.Fits quota spare)
      fun system => (disk.read system).Stocked quota spare where
  stamped fits stamp := fits.stamped stamp
  within stocked := (stocked.read roomy).2.2.2
  find criteria system stocked := by
    simp [file, (stocked.read roomy).1, Except.map, stocked]
  add {row system} stocked fits absent := by
    obtain ⟨-, -, apart, all⟩ := stocked.read roomy
    have added : Rows.add (disk.read system).rows (row.markSaved (now system)) = _ := Rows.add_of_not_mem absent
    -- Only the row itself is new to the file, and it fits with its stamp as well.
    obtain ⟨distinct, others⟩ := Rows.of_add apart added
    exact writeDisk_stocked read_write roomy stocked added distinct fun other member =>
      (others other member).elim (fun same => same ▸ fits.stamped _) (all other)
  update {row system} stocked fits present := by
    obtain ⟨-, -, apart, all⟩ := stocked.read roomy
    have updated : Rows.update (disk.read system).rows (row.markSaved (now system)) = _ := Rows.update_of_mem present
    obtain ⟨distinct, others⟩ := Rows.of_update apart updated
    exact writeDisk_stocked read_write roomy stocked updated distinct fun other member =>
      (others other member).elim (fun same => same ▸ fits.stamped _) (all other)
  remove row system stocked := by
    -- Where rows fit, some of them do.
    obtain ⟨-, -, apart, all⟩ := stocked.read roomy
    obtain ⟨after, modified, holds, further⟩ := stocked.modify roomy (fun rows => .ok (Rows.remove rows row.id)) rfl
      (apart.sublist (List.filter_sublist.map _)) fun other member => all other (List.mem_filter.mp member).1
    simp [file, Part.run, modified, read_write, holds, further]

end Files

namespace Sound

variable {store : SubscriptionStore σ} {rows : σ → List Subscription} {now : σ → Timestamp}
  {room : Subscription → Prop} {ready : σ → Prop} {row : Subscription} {system : σ}

/-- Such a store adds a row whose id is not there. -/
theorem add_run (sound : store.Sound rows now room ready) (able : ready system) (fits : room row)
    (absent : row.id ∉ Rows.ids (rows system)) :
    written (store.add row) system = .ok (row.markSaved (now system)) (store.add row system).2 := by
  simp [written, Action.ofStep, (sound.add able fits absent).1, Except.map]

/-- It updates a row whose id is there, -/
theorem update_run (sound : store.Sound rows now room ready) (able : ready system) (fits : room row)
    (present : row.id ∈ Rows.ids (rows system)) :
    written (store.update row) system = .ok (row.markSaved (now system)) (store.update row system).2 := by
  simp [written, Action.ofStep, (sound.update able fits present).1, Except.map]

/-- in its place. -/
theorem rows_update (sound : store.Sound rows now room ready) (able : ready system) (fits : room row)
    (distinct : (Rows.ids (rows system)).Nodup) (present : row.id ∈ Rows.ids (rows system)) :
    rows (store.update row system).2 = Rows.put (row.markSaved (now system)) (rows system) :=
  (sound.update able fits present).2.1.trans (Rows.replace_eq_put distinct _)

/-- It removes any row. -/
theorem remove_run (sound : store.Sound rows now room ready) (able : ready system) (row : Subscription) :
    Action.ofStep (store.remove row) system = .ok () (store.remove row system).2 := by
  -- A sound store answers as its rows do.
  cases answer : store.remove row system with
  | mk outcome next =>
    obtain rfl : outcome = .ok () := by simpa [answer] using (sound.remove row able).1
    simp [Action.ofStep, answer]

/-- A unit gets to know what it finds. -/
theorem find_run (sound : store.Sound rows now room ready) (able : ready system) (unit : WorkUnit)
    (criteria : SubscriptionCriteria) :
    unit.find store criteria system =
      .ok (unit.trackAll (Rows.find (rows system) criteria)) (store.find criteria system).2 := by
  -- A sound store answers as its rows do, and the unit tracks the answer.
  cases answer : store.find criteria system with
  | mk outcome next =>
    obtain rfl : outcome = .ok (Rows.find (rows system) criteria) := by
      simpa [answer] using (sound.find criteria able).1
    simp [WorkUnit.find, fetch, Action.ofStep, answer, Bind.bind, EStateM.bind, Pure.pure, EStateM.pure]

end Sound

end SubscriptionStore

end EventFeed
