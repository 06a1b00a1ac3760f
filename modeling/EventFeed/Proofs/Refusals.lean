import EventFeed.Proofs.Handles
import EventFeed.Proofs.Rows
import EventFeed.Rehearsal.World

/-! Writes that fail: whichever store is asked to add or to update a subscription, a failure leaves everything in the
store as it was; the caller's subscription is left as it was by a store in memory, and stamped by a store in a file. -/

namespace EventFeed

variable {σ : Type}

/-- The two ways of writing a subscription to a store. -/
inductive Write where
  | add
  | update
deriving DecidableEq

namespace Write

/-- What a write makes of rows. -/
def change : Write → List Subscription → Subscription → Except EngineError (List Subscription)
  | add => Rows.add
  | update => Rows.update

/-- Asks a store for a write. -/
def perform (store : SubscriptionStore σ) : Write → Subscription → σ → Written × σ
  | add => store.add
  | update => store.update

/-- Whether a write is refused for the ids that are there: a new row must have an id of its own, and a changed one must
be there. -/
def Refused (ids : List String) (id : String) : Write → Prop
  | add => id ∈ ids
  | update => id ∉ ids

instance (ids : List String) (id : String) : (write : Write) → Decidable (write.Refused ids id)
  | add => inferInstanceAs (Decidable (id ∈ ids))
  | update => inferInstanceAs (Decidable (id ∉ ids))

/-- What is said then. -/
def refusal (id : String) : Write → EngineError
  | add => .subscriptionExists id
  | update => .subscriptionNotFound id

variable {rows : List Subscription} {write : Write}

/-- A write that is refused says so. -/
theorem change_refused (row : Subscription) (refused : write.Refused (Rows.ids rows) row.id) :
    write.change rows row = .error (write.refusal row.id) := by
  -- Which of the two writes it is decides which ids refuse it.
  cases write with
  | add => exact if_pos (Rows.holds_iff.mpr refused)
  | update => exact if_neg fun held => refused (Rows.holds_iff.mp held)

/-- Nothing else is said: a write that is not refused is made. -/
theorem change_made (row : Subscription) (free : ¬ write.Refused (Rows.ids rows) row.id) :
    ∃ next, write.change rows row = .ok next := by
  -- Not to be refused is what either write needs in order to be made.
  cases write with
  | add => exact ⟨_, Rows.add_of_not_mem free⟩
  | update => exact ⟨_, Rows.update_of_mem (Decidable.not_not.mp free)⟩

end Write

/-- A file is replaced as a whole, or not at all. -/
theorem Disk.write_cases (disk : Disk) (rows : List Subscription) :
    ((disk.write rows).1 = .ok () ∧ (disk.write rows).2.Mirrors rows) ∨
      disk.write rows = (.error (.io .inaccessible), disk) := by
  -- The state of the disk decides: any obstacle leaves it as it is.
  obtain ⟨folder, contents, lockFile, held⟩ := disk
  cases folder <;> cases contents <;> first | exact .inr rfl | exact .inl ⟨rfl, rfl, rfl⟩

namespace SubscriptionStore

/-- What can become of a write to a store. Where nothing can be read, the error of reading is returned, and where the
write is refused for the ids that are there, the refusal is. A write that fails leaves the system as it was, and the
caller with a subscription that is known. A write that succeeds has not been refused, stamps the caller's subscription
with the time of the clock, and stores it so. -/
structure Effect (store : SubscriptionStore σ) (now : σ → Timestamp)
    (read : σ → Except EngineError (List Subscription)) (holds : List Subscription → σ → Prop) (write : Write)
    (row kept : Subscription) (system : σ) : Prop where
  unread : ∀ error, read system = .error error → (write.perform store row system).1.outcome = .error error
  refused : ∀ rows, read system = .ok rows → write.Refused (Rows.ids rows) row.id →
    (write.perform store row system).1.outcome = .error (write.refusal row.id)
  failed : ∀ error, (write.perform store row system).1.outcome = .error error →
    (write.perform store row system).1.subscription = kept ∧ (write.perform store row system).2 = system
  done : (write.perform store row system).1.outcome = .ok () →
    (write.perform store row system).1.subscription = row.markSaved (now system) ∧
      ∃ rows next, read system = .ok rows ∧ ¬ write.Refused (Rows.ids rows) row.id ∧
        write.change rows (row.markSaved (now system)) = .ok next ∧ holds next (write.perform store row system).2

variable {write : Write} {row : Subscription} {system : σ} {now : σ → Timestamp}

/-- A store in memory leaves the caller's subscription as it was when a write fails. -/
theorem memory_effect {part : Part σ (List Subscription)}
    (read_write : ∀ written system, part.read (part.write written system) = written) :
    (memory part now).Effect now (fun system => .ok (part.read system)) (fun rows system => part.read system = rows)
      write row row system := by
  -- Both writes are the same change of the list, so only the refusal is to be told apart.
  have run : write.perform (memory part now) row system = writeRows part now write.change row system := by
    cases write <;> rfl
  by_cases refused : write.Refused (Rows.ids (part.read system)) row.id
  · -- The refusal comes before the stamp.
    have answer : write.perform (memory part now) row system = (⟨row, .error (write.refusal row.id)⟩, system) := by
      rw [run, writeRows, Write.change_refused (row.markSaved (now system)) refused]
      rfl
    constructor <;> simp [answer, refused]
  · obtain ⟨next, changed⟩ := Write.change_made (row.markSaved (now system)) refused
    have answer : write.perform (memory part now) row system =
        (⟨row.markSaved (now system), .ok ()⟩, part.write next system) := by
      rw [run, writeRows, changed]
    constructor <;> simp [answer, refused, changed, read_write]

/-- A store in a file leaves it stamped. -/
theorem file_effect {disk : Part σ Disk}
    (read_write : ∀ written system, disk.read (disk.write written system) = written)
    (write_read : ∀ system, disk.write (disk.read system) system = system) :
    (file disk now).Effect now (fun system => (disk.read system).read)
      (fun rows system => (disk.read system).Mirrors rows) write row (row.markSaved (now system)) system := by
  -- The stamp is set before the file is opened, so it stays whatever comes of the write.
  have run : write.perform (file disk now) row system = writeDisk disk now write.change row system := by
    cases write <;> rfl
  -- Whatever fails, the disk is put back as it was.
  have fails : ∀ error, (disk.read system).modify (fun rows => write.change rows (row.markSaved (now system))) =
      (.error error, disk.read system) → write.perform (file disk now) row system =
        (⟨row.markSaved (now system), .error error⟩, system) := by
    intro error failed
    simp only [run, writeDisk, Part.run, failed, write_read]
  cases stored : (disk.read system).read with
  | error error =>
    -- Nothing is written to a file that cannot be read.
    have answer := fails error (by simp [Disk.modify, stored])
    constructor <;> simp [answer, stored]
  | ok rows =>
    by_cases refused : write.Refused (Rows.ids rows) row.id
    · -- The row has its stamp before it is refused.
      have answer := fails (write.refusal row.id) (by
        simp only [Disk.modify, stored, Write.change_refused (row.markSaved (now system)) refused]
        rfl)
      constructor <;> simp [answer, stored, refused]
    · obtain ⟨next, changed⟩ := Write.change_made (row.markSaved (now system)) refused
      have modified : (disk.read system).modify (fun rows => write.change rows (row.markSaved (now system))) =
          (disk.read system).write next := by
        simp only [Disk.modify, stored, changed]
      -- A row that is not refused can still fail to be written.
      rcases (disk.read system).write_cases next with written | written
      · have answer : write.perform (file disk now) row system =
          (⟨row.markSaved (now system), .ok ()⟩, disk.write ((disk.read system).write next).2 system) := by
          simp only [run, writeDisk, Part.run, modified, written.1]
        constructor <;> simp [answer, stored, refused, changed, read_write, written]
      · have answer := fails (.io .inaccessible) (modified.trans written)
        constructor <;> simp [answer, stored, refused]

/-- A write that fails stores nothing, whichever store it is asked of: the system stays as it was. A store in memory
leaves the caller's subscription as it was as well, and stamps it just when the write succeeds; a store in a file stamps
it in any case, and changes nothing else in it. -/
theorem failed_writes_store_nothing (part : Part σ (List Subscription)) (disk : Part σ Disk)
    (read_write : ∀ written system, part.read (part.write written system) = written)
    (disk_read_write : ∀ written system, disk.read (disk.write written system) = written)
    (disk_write_read : ∀ system, disk.write (disk.read system) system = system) (now : σ → Timestamp) (write : Write)
    (row : Subscription) (system : σ) :
    (memory part now).Effect now (fun system => .ok (part.read system)) (fun rows system => part.read system = rows)
        write row row system ∧
      (file disk now).Effect now (fun system => (disk.read system).read)
        (fun rows system => (disk.read system).Mirrors rows) write row (row.markSaved (now system)) system :=
  ⟨memory_effect read_write, file_effect disk_read_write disk_write_read⟩

end SubscriptionStore

namespace World

open SubscriptionStore

/-- Some time after the epoch, a file has been opened and one subscription added. -/
def mailed : World :=
  ((file diskPart now).add { id := "mail" } { clock := ⟨⟨5⟩⟩, disk := (Disk.openFile {}).2 }).2

/-- Both writes are refused there, and their subscriptions are stamped. -/
theorem mailed_refused_stamped :
    (Write.add.perform (file diskPart now) { id := "mail" } mailed).1.outcome = .error (.subscriptionExists "mail") ∧
      (Write.add.perform (file diskPart now) { id := "mail" } mailed).1.subscription ≠ { id := "mail" } ∧
      (Write.update.perform (file diskPart now) { id := "letter" } mailed).1.outcome =
        .error (.subscriptionNotFound "letter") ∧
      (Write.update.perform (file diskPart now) { id := "letter" } mailed).1.subscription ≠ { id := "letter" } := by
  decide +kernel

/-- The first one stores nothing. -/
theorem mailed_failed_writes :
    (Write.add.perform (file diskPart now) { id := "mail" } mailed).2 = mailed ∧
      (Write.add.perform (file diskPart now) { id := "mail" } mailed).1.subscription =
        { id := "mail", lastSavedAt := some ⟨5⟩ } := by
  have effects := failed_writes_store_nothing rowsPart diskPart (fun _ _ => rfl) (fun _ _ => rfl) (fun _ => rfl) now
    .add { id := "mail" } mailed
  have refused : (Write.add.perform (file diskPart now) { id := "mail" } mailed).1.outcome =
      .error (.subscriptionExists "mail") := by
    decide +kernel
  obtain ⟨kept, same⟩ := effects.2.failed _ refused
  exact ⟨same, kept⟩

end World

end EventFeed
