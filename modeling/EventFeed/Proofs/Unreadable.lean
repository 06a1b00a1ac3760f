import EventFeed.Proofs.Handles
import EventFeed.Proofs.Operations
import EventFeed.Proofs.World

/-! A file that cannot be read: whatever is tried on it, through a handle or by an engine, ends with the error of
reading it, and neither the file nor anything else is touched. -/

namespace EventFeed

open EventFeed.Action

variable {σ : Type}

/-- Whether a call went well. -/
def Answer.outcome : Answer → Except EngineError Unit
  | found outcome => outcome.map fun _ => ()
  | written outcome => outcome.map fun _ => ()
  | removed outcome => outcome

/-- What can be tried on a file. -/
inductive Attempt (σ : Type) where
  /-- Opens a handle. -/
  | acquire
  /-- Calls a handle. -/
  | call (request : Request)
  /-- Asks an engine over the file for an operation. -/
  | operate (engine : Engine σ) (operation : Operation)

namespace Attempt

/-- Tries it. -/
def perform (disk : Part σ Disk) (now : σ → Timestamp) : Attempt σ → Action σ Unit
  | acquire => Action.ofStep (disk.run Disk.openFile)
  | call request => Action.ofStep fun system =>
    let (answer, next) := request.put (.file disk now) system
    (answer.outcome, next)
  | operate engine operation => operation.perform { engine with store := .file disk now }

/-- Tries one thing after the other, whatever comes of it. -/
def performAll (disk : Part σ Disk) (now : σ → Timestamp) : List (Attempt σ) → σ → List (Except Abort Unit) × σ
  | [], system => ([], system)
  | attempt :: rest, system =>
    let (outcome, next) := (attempt.perform disk now).outcome system
    let (outcomes, last) := performAll disk now rest next
    (outcome :: outcomes, last)

/-- The error that an attempt ends with where reading the file ends with one: an operation takes the lock first, and is
turned away when another handle holds it. -/
def verdict (held : Bool) (error : EngineError) : Attempt σ → EngineError
  | operate .. => if held then .locked else error
  | acquire | call _ => error

end Attempt

/-- Two systems that differ at most in the file for the lock. -/
structure Untouched (disk : Part σ Disk) (before after : σ) : Prop where
  folder : (disk.read after).folder = (disk.read before).folder
  contents : (disk.read after).contents = (disk.read before).contents
  held : (disk.read after).held = (disk.read before).held
  elsewhere : ∀ {α : Type} (view : σ → α), (∀ written system, view (disk.write written system) = view system) →
    view after = view before

namespace Untouched

variable {disk : Part σ Disk} {first second third system : σ} {written : Disk}

/-- A system does not differ from itself. -/
theorem refl (disk : Part σ Disk) (system : σ) : Untouched disk system system := ⟨rfl, rfl, rfl, fun _ _ => rfl⟩

/-- Differences in the file for the lock add up to one. -/
theorem trans (one : Untouched disk first second) (two : Untouched disk second third) : Untouched disk first third :=
  ⟨two.folder.trans one.folder, two.contents.trans one.contents, two.held.trans one.held,
    fun view blind => (two.elsewhere view blind).trans (one.elsewhere view blind)⟩

/-- A disk that is written as it was is the same. -/
theorem write (read_write : ∀ written system, disk.read (disk.write written system) = written)
    (folder : written.folder = (disk.read system).folder) (contents : written.contents = (disk.read system).contents)
    (held : written.held = (disk.read system).held) : Untouched disk system (disk.write written system) :=
  ⟨by rw [read_write, folder], by rw [read_write, contents], by rw [read_write, held], fun _ blind => blind _ _⟩

end Untouched

/-- Bytes in the file that are not read as anything. -/
structure Disk.Unreadable (disk : Disk) (bytes : List UInt8) (error : EngineError) : Prop where
  stored : disk.bytes? = some bytes
  unread : FileFormat.decode bytes = .error error

namespace Disk.Unreadable

variable {disk : Disk} {bytes : List UInt8} {error : EngineError}

/-- The file is there. -/
theorem place (unreadable : disk.Unreadable bytes error) : disk.folder = .present ∧ disk.contents = .file bytes := by
  -- In any other place there are no bytes.
  obtain ⟨folder, contents, lockFile, held⟩ := disk
  have stored := unreadable.stored
  cases folder <;> cases contents <;>
    first | exact ⟨rfl, congrArg Contents.file (Option.some.inj stored)⟩ | cases stored

/-- Reading it gives the error. -/
theorem read (unreadable : disk.Unreadable bytes error) : disk.read = .error error := by
  -- The place is known, and the bytes there are not read.
  obtain ⟨folder, contents⟩ := unreadable.place
  simp only [Disk.read, folder, contents, unreadable.unread]

/-- So does opening it, which leaves it alone. -/
theorem openFile (unreadable : disk.Unreadable bytes error) : disk.openFile = (.error error, disk) := by
  -- The file is read when it is opened, and nothing is made of it.
  have read := unreadable.read
  obtain ⟨folder, contents⟩ := unreadable.place
  obtain ⟨_, _, lockFile, held⟩ := disk
  obtain rfl : _ = Folder.present := folder
  obtain rfl : _ = Contents.file bytes := contents
  simp only [Disk.openFile, read, Except.map]

/-- So does changing what it holds. -/
theorem modify (unreadable : disk.Unreadable bytes error)
    (change : List Subscription → Except EngineError (List Subscription)) :
    disk.modify change = (.error error, disk) := by
  simp only [Disk.modify, unreadable.read]

end Disk.Unreadable

namespace Untouched

variable {disk : Part σ Disk} {system : σ}

/-- What is not touched stays unreadable. -/
theorem unreadable {after : σ} {bytes : List UInt8} {error : EngineError} (same : Untouched disk system after)
    (unreadable : (disk.read system).Unreadable bytes error) : (disk.read after).Unreadable bytes error := by
  -- The folder and the contents are all that is read.
  refine ⟨?_, unreadable.unread⟩
  rw [← unreadable.stored]
  simp only [Disk.bytes?, same.folder, same.contents]

/-- A step on the disk that leaves it alone touches nothing. -/
theorem run_error {α : Type} (read_write : ∀ written system, disk.read (disk.write written system) = written)
    {step : Disk → α × Disk} {result : α}
    (gives : step (disk.read system) = (result, disk.read system)) :
    ∃ after, disk.run step system = (result, after) ∧ Untouched disk system after := by
  -- What is written back is what was read.
  refine ⟨disk.write (disk.read system) system, ?_, .write read_write rfl rfl rfl⟩
  simp only [Part.run, gives]

end Untouched

namespace Attempt

variable {disk : Part σ Disk} {now : σ → Timestamp} {system : σ} {bytes : List UInt8} {error : EngineError}

/-- An attempt that fails with an error, and touches nothing. -/
def Fails {α : Type} (disk : Part σ Disk) (action : Action σ α) (system : σ) (error : EngineError) : Prop :=
  Meets action system (fun _ _ => False) fun abort after => abort = .failed error ∧ Untouched disk system after

/-- What fails fails whatever would have come next. -/
theorem Fails.bind {α β : Type} {action : Action σ α} (fails : Fails disk action system error) (next : α → Action σ β) :
    Fails disk (action >>= next) system error :=
  Meets.bind fails fun _ _ absurd => absurd.elim

/-- A step that gives an error fails, when it touches nothing. -/
theorem fails_ofStep {α : Type} {step : σ → Except EngineError α × σ} {after : σ}
    (gives : step system = (.error error, after)) (same : Untouched disk system after) :
    Fails disk (Action.ofStep step) system error := by
  -- An answer that is an error ends the computation.
  unfold Fails Meets Action.ofStep
  rw [gives]
  exact ⟨rfl, same⟩

variable (read_write : ∀ written system, disk.read (disk.write written system) = written)

include read_write

/-- A call to a handle fails. -/
theorem fails_call (unreadable : (disk.read system).Unreadable bytes error) (request : Request) :
    Fails disk ((call request).perform disk now) system error := by
  -- Whatever is to be written, the file is read first.
  have changed : ∀ change, ∃ after, disk.run (Disk.modify change) system = (.error error, after) ∧
      Untouched disk system after := fun change =>
    Untouched.run_error read_write (unreadable.modify change)
  cases request with
  | find criteria =>
    refine fails_ofStep ?_ (.refl disk system)
    simp [Request.put, SubscriptionStore.file, unreadable.read, Except.map, Answer.outcome]
  | add row =>
    obtain ⟨after, run, same⟩ := changed fun rows => Rows.add rows (row.markSaved (now system))
    refine fails_ofStep ?_ same
    simp [Request.put, SubscriptionStore.file, SubscriptionStore.writeDisk, run, Except.map, Answer.outcome]
  | update row =>
    obtain ⟨after, run, same⟩ := changed fun rows => Rows.update rows (row.markSaved (now system))
    refine fails_ofStep ?_ same
    simp [Request.put, SubscriptionStore.file, SubscriptionStore.writeDisk, run, Except.map, Answer.outcome]
  | remove row =>
    obtain ⟨after, run, same⟩ := changed fun rows => .ok (Rows.remove rows row.id)
    refine fails_ofStep ?_ same
    simp [Request.put, SubscriptionStore.file, run, Answer.outcome]

/-- What is done under the lock fails where it gives an error and changes nothing, and is not begun where another handle
holds the lock. -/
theorem fails_guarded {α : Type} (present : (disk.read system).folder = .present) {body : Action σ α}
    (gives : ∀ later, (disk.read later).contents = (disk.read system).contents →
      (disk.read later).folder = (disk.read system).folder → body later = .error (.failed error) later) :
    Fails disk ((SubscriptionStore.file disk now).guarded body) system
      (if (disk.read system).held then .locked else error) := by
  -- Whether another handle holds the lock decides.
  unfold Fails Meets
  simp only [SubscriptionStore.guarded, SubscriptionStore.file, Lock.hold, SubscriptionStore.diskLock, Part.run,
    Disk.acquire, present]
  cases held : (disk.read system).held with
  | true => exact ⟨rfl, .write read_write present.symm rfl held.symm⟩
  | false =>
    -- With the lock taken the file is the same, and it is given back when the computation has failed.
    simp only [Bool.false_eq_true, if_false, Lock.inside]
    rw [gives _ (by rw [read_write]) (by rw [read_write, present])]
    refine ⟨rfl, ?_, ?_, ?_, fun view blind => (blind _ _).trans (blind _ _)⟩ <;>
      simp [Part.modify, read_write, Disk.release, present, held]

/-- An operation of an engine fails with the discovery that it starts with. -/
theorem fails_operation (unreadable : (disk.read system).Unreadable bytes error) (engine : Engine σ)
    (operation : Operation) : Fails disk ((operate engine operation).perform disk now) system
      (if (disk.read system).held then .locked else error) := by
  -- Whatever the operation is, it takes the lock and begins with a discovery.
  have started : ∀ {α : Type} (criteria : FeedCriteria) (rest : WorkUnit → Action σ α),
      Fails disk ((SubscriptionStore.file disk now).guarded do
        let unit ← { engine with store := .file disk now }.discover criteria {}
        rest unit) system (if (disk.read system).held then .locked else error) := by
    intro α criteria rest
    refine fails_guarded read_write unreadable.place.1 fun later contents folder => ?_
    -- Nothing is reported before the stored subscriptions have been found.
    have read : (disk.read later).read = .error error := by
      have same : (disk.read later).bytes? = (disk.read system).bytes? := by simp only [Disk.bytes?, contents, folder]
      exact Disk.Unreadable.read ⟨same.trans unreadable.stored, unreadable.unread⟩
    simp [Engine.discover, WorkUnit.find, SubscriptionStore.fetch, SubscriptionStore.file, Action.ofStep, read,
      Except.map, Bind.bind, EStateM.bind]
  -- Those that have an answer drop it afterwards.
  cases operation with
  | boot criteria limit => exact (started criteria _).bind _
  | run criteria limit => exact (started criteria _).bind _
  | teardown criteria => exact (started criteria _).bind _
  | remove criteria => exact (started criteria _).bind _
  | reactivate criteria => exact started criteria _
  | pause criteria => exact started criteria _
  | subscriptions criteria => exact (started criteria _).bind _

/-- Whatever is tried fails with its verdict, and touches nothing. -/
theorem fails_attempt (unreadable : (disk.read system).Unreadable bytes error) (attempt : Attempt σ) :
    Fails disk (attempt.perform disk now) system (attempt.verdict (disk.read system).held error) := by
  -- Each kind of attempt has been looked at on its own.
  cases attempt with
  | acquire =>
    obtain ⟨after, run, same⟩ := Untouched.run_error read_write unreadable.openFile
    exact fails_ofStep run same
  | call request => exact fails_call read_write unreadable request
  | operate engine operation => exact fails_operation read_write unreadable engine operation

/-- A file that cannot be read is never overwritten. Whatever is tried on it, one thing after the other: handles opened,
subscriptions found, added, updated and removed, and operations of any engines; each attempt ends with the error of
reading the file (or is turned away while another handle holds the lock), and in the end the file has the same bytes,
and nothing but the file for the lock may have changed: no subscriber was called, and nothing was reported. -/
theorem unreadable_never_overwritten (now : σ → Timestamp) (unreadable : (disk.read system).Unreadable bytes error)
    (attempts : List (Attempt σ)) :
    (performAll disk now attempts system).1 =
        attempts.map (fun attempt => .error (.failed (attempt.verdict (disk.read system).held error))) ∧
      Untouched disk system (performAll disk now attempts system).2 := by
  -- What is not touched stays unreadable, so the attempts fail one by one.
  induction attempts generalizing system with
  | nil => exact ⟨rfl, .refl disk system⟩
  | cons attempt rest ih =>
    have fails : Fails disk (attempt.perform disk now) system _ := fails_attempt read_write unreadable attempt
    unfold Fails Meets at fails
    cases run : attempt.perform disk now system with
    | ok value after => simp [run] at fails
    | error abort after =>
      rw [run] at fails
      obtain ⟨rfl, same⟩ := fails
      have further := ih (same.unreadable unreadable)
      rw [same.held] at further
      have first : (attempt.perform disk now).outcome system =
          (.error (.failed (attempt.verdict (disk.read system).held error)), after) := by
        simp only [Action.outcome, run]
      simp only [performAll, first, List.map_cons]
      exact ⟨by rw [further.1], same.trans further.2⟩

end Attempt

namespace World

/-- A world with messages to handle, and a file that was cut off in its header. -/
def cutOff : World := { telling ["a", "b"] with
  disk := { folder := .present, contents := .file [0x53, 0x55, 0x42, 0x00, 0x01, 0x07] } }

/-- Whatever is tried there fails, and the file stays as it is. -/
theorem cutOff_never_overwritten :
    (diskPart.read cutOff).Unreadable [0x53, 0x55, 0x42, 0x00, 0x01, 0x07] (.io .truncated) ∧
      ∀ attempts : List (Attempt World),
        (Attempt.performAll diskPart now attempts cutOff).1 =
            attempts.map (fun _ => .error (.failed (.io .truncated))) ∧
          (Attempt.performAll diskPart now attempts cutOff).2.disk.bytes? = some [0x53, 0x55, 0x42, 0x00, 0x01, 0x07] ∧
            (Attempt.performAll diskPart now attempts cutOff).2.calls = [] := by
  -- The bytes have the right beginning, and end in the middle of the header.
  have unreadable : (diskPart.read cutOff).Unreadable [0x53, 0x55, 0x42, 0x00, 0x01, 0x07] (.io .truncated) :=
    ⟨rfl, rfl⟩
  refine ⟨unreadable, fun attempts => ?_⟩
  obtain ⟨outcomes, same⟩ := Attempt.unreadable_never_overwritten (fun _ _ => rfl) now unreadable attempts
  refine ⟨outcomes.trans (List.map_congr_left fun attempt _ => ?_), ?_, same.elsewhere calls fun _ _ => rfl⟩
  · -- Nobody holds the lock.
    cases attempt <;> rfl
  · exact (same.unreadable unreadable).stored

end World

end EventFeed
