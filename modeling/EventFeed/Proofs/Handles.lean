import EventFeed.Proofs.SubscriptionFile
import Mathlib.Data.List.Infix

/-! Handles on one file: however many of them are opened and dropped, what is asked through them is answered as by
a single store in memory. -/

namespace EventFeed

variable {σ : Type}

/-- A call to a store. -/
inductive Request where
  | find (criteria : SubscriptionCriteria)
  | add (subscription : Subscription)
  | update (subscription : Subscription)
  | remove (subscription : Subscription)

/-- What a call gives. -/
inductive Answer where
  | found (outcome : Except EngineError (List Subscription))
  /-- The subscription as it was stored, or why it was not. -/
  | written (outcome : Except EngineError Subscription)
  | removed (outcome : Except EngineError Unit)

/-- Puts a call to a store. -/
def Request.put (store : SubscriptionStore σ) : Request → σ → Answer × σ
  | .find criteria, system =>
    let (outcome, next) := store.find criteria system
    (.found outcome, next)
  | .add subscription, system =>
    let (answer, next) := store.add subscription system
    (.written (answer.outcome.map fun _ => answer.subscription), next)
  | .update subscription, system =>
    let (answer, next) := store.update subscription system
    (.written (answer.outcome.map fun _ => answer.subscription), next)
  | .remove subscription, system =>
    let (outcome, next) := store.remove subscription system
    (.removed outcome, next)

/-- What is done with numbered handles on a store. -/
inductive Visit where
  | acquire (handle : Nat)
  | drop (handle : Nat)
  /-- A call through a handle, and what its clock reads. -/
  | call (handle : Nat) (now : Timestamp) (request : Request)

/-- What comes of a visit. -/
inductive Receipt where
  | acquired (outcome : Except EngineError Unit)
  | dropped
  | answered (answer : Answer)
  /-- There is no such handle. -/
  | unknown

/-- A system, and the handles that are open on it. -/
structure Desk (σ : Type) where
  system : σ
  handles : List Nat := []

/-- How handles are opened on a system, and the store that each of them is at some time. -/
structure Access (σ : Type) where
  acquire : σ → Except EngineError Unit × σ
  store : Timestamp → SubscriptionStore σ

/-- A system as a part of itself. -/
def Part.whole : Part σ σ where
  read := id
  write := fun next _ => next

namespace Access

/-- One visit. -/
def visit (access : Access σ) (desk : Desk σ) : Visit → Receipt × Desk σ
  | .acquire handle =>
    match access.acquire desk.system with
    | (.ok (), system) => (.acquired (.ok ()), { system, handles := handle :: desk.handles })
    | (.error error, system) => (.acquired (.error error), { desk with system })
  | .drop handle => (.dropped, { desk with handles := desk.handles.filter (· ≠ handle) })
  | .call handle now request =>
    if handle ∈ desk.handles then
      let (answer, system) := request.put (access.store now) desk.system
      (.answered answer, { desk with system })
    else (.unknown, desk)

/-- Visits, one after the other. -/
def visits (access : Access σ) (desk : Desk σ) : List Visit → List Receipt × Desk σ
  | [] => ([], desk)
  | visit :: rest =>
    let (receipt, next) := access.visit desk visit
    let (receipts, last) := access.visits next rest
    (receipt :: receipts, last)

/-- Handles on the file of a disk. -/
def file : Access Disk where
  acquire := Disk.openFile
  store := fun now => .file .whole fun _ => now

/-- Handles on rows in memory. -/
def memory : Access (List Subscription) where
  acquire := fun rows => (.ok (), rows)
  store := fun now => .memory .whole fun _ => now

end Access

/-- One subscription that can be written is a list that can, when its bytes can be counted. -/
theorem FileFormat.writable_singleton {row : Subscription} (writable : row.Writable)
    (bytes : (payload [row]).length < UInt64.size) : Writable [row] :=
  ⟨by simpa using writable, by simp [UInt32.size], bytes⟩

namespace Disk

/-- The file of a disk holds rows. -/
structure Mirrors (disk : Disk) (rows : List Subscription) : Prop where
  folder : disk.folder = .present
  contents : disk.contents = .file (FileFormat.encode rows)

variable {disk : Disk} {rows : List Subscription}

/-- What a file holds is read from it. -/
theorem Mirrors.read (mirrors : disk.Mirrors rows) (writable : FileFormat.Writable rows) : disk.read = .ok rows := by
  simp [Disk.read, mirrors.folder, mirrors.contents, FileFormat.decode_encode writable]

/-- A change that succeeds is one of what the file holds, and one that fails leaves the file alone. -/
theorem Mirrors.modify (mirrors : disk.Mirrors rows) (writable : FileFormat.Writable rows)
    (change : List Subscription → Except EngineError (List Subscription)) :
    (∃ next after, change rows = .ok next ∧ disk.modify change = (.ok (), after) ∧ after.Mirrors next) ∨
      ∃ error, change rows = .error error ∧ disk.modify change = (.error error, disk) := by
  -- A change is tried on the rows that are read, and only one that succeeds is written.
  cases changed : change rows with
  | error error => exact .inr ⟨error, rfl, by simp [Disk.modify, mirrors.read writable, changed]⟩
  | ok next =>
    have wrote : disk.write next = (.ok (), { disk with contents := .file (FileFormat.encode next) }) := by
      simp [Disk.write, mirrors.folder, mirrors.contents]
    have modified : disk.modify change = disk.write next := by simp [Disk.modify, mirrors.read writable, changed]
    exact .inl ⟨next, _, rfl, modified.trans wrote, mirrors.folder, rfl⟩

/-- Opening a file that can be read leaves it alone. -/
theorem Mirrors.openFile (mirrors : disk.Mirrors rows) (writable : FileFormat.Writable rows) :
    disk.openFile = (.ok (), disk) := by
  -- A file that is there is read once, and left alone if that goes well.
  have read := mirrors.read writable
  obtain ⟨folder, contents, lockFile, held⟩ := disk
  obtain ⟨rfl, rfl⟩ := mirrors
  simp only [Disk.openFile, read, Except.map]

/-- A disk on which nothing has been stored yet: the file is missing, or holds no rows. -/
structure Fresh (disk : Disk) : Prop where
  folder : disk.folder ≠ .blocked
  contents : disk.contents = .absent ∨ disk.contents = .file (FileFormat.encode [])

/-- No subscriptions can be written. -/
theorem writable_nil : FileFormat.Writable [] :=
  ⟨by simp, by decide, by decide⟩

/-- Opening a file for the first time creates it, when it is missing. -/
theorem Fresh.openFile (fresh : disk.Fresh) : ∃ after, disk.openFile = (.ok (), after) ∧ after.Mirrors [] := by
  -- The file is missing, or it is there and empty of subscriptions.
  obtain ⟨folder, contents, lockFile, held⟩ := disk
  obtain ⟨unblocked, missing | nothing⟩ := fresh
  · refine ⟨⟨.present, .file (FileFormat.encode []), lockFile, held⟩, ?_, rfl, rfl⟩
    cases folder <;> cases missing <;> first | rfl | exact absurd rfl unblocked
  · have there : Mirrors ⟨.present, contents, lockFile, held⟩ [] := ⟨rfl, nothing⟩
    refine ⟨_, ?_, there⟩
    cases folder with
    | blocked => exact absurd rfl unblocked
    | absent => exact there.openFile writable_nil
    | present => exact there.openFile writable_nil

end Disk

namespace Access

variable {disk : Disk} {rows : List Subscription}

/-- A subscription is written to the file as to the rows that it holds. -/
theorem write_file (mirrors : disk.Mirrors rows) (writable : FileFormat.Writable rows) (now : Timestamp)
    (write : List Subscription → Subscription → Except EngineError (List Subscription))
    (subscription : Subscription) :
    let onDisk := SubscriptionStore.writeDisk .whole (fun _ => now) write subscription disk
    let inMemory := SubscriptionStore.writeRows .whole (fun _ => now) write subscription rows
    (onDisk.1.outcome.map fun _ => onDisk.1.subscription) =
        (inMemory.1.outcome.map fun _ => inMemory.1.subscription) ∧ onDisk.2.Mirrors inMemory.2 := by
  -- The write succeeds or fails on the rows, and so it does on the file.
  rcases mirrors.modify writable fun rows => write rows (subscription.markSaved now) with
    ⟨next, after, changed, modified, holds⟩ | ⟨error, changed, modified⟩
  · simp [SubscriptionStore.writeDisk, SubscriptionStore.writeRows, Part.run, Part.whole, changed, modified, holds,
      Except.map]
  · simp [SubscriptionStore.writeDisk, SubscriptionStore.writeRows, Part.run, Part.whole, changed, modified, mirrors,
      Except.map]

/-- A call to the file is answered as the same call to the rows that it holds, and the file then holds the
rows that there are then. -/
theorem put_file (mirrors : disk.Mirrors rows) (writable : FileFormat.Writable rows) (now : Timestamp)
    (request : Request) :
    (request.put (file.store now) disk).1 = (request.put (memory.store now) rows).1 ∧
      (request.put (file.store now) disk).2.Mirrors (request.put (memory.store now) rows).2 := by
  -- A request is one of four, and each of them is one of rows.
  cases request with
  | find criteria =>
    have found : (disk.read.map fun rows => Rows.find rows criteria) = .ok (Rows.find rows criteria) := by
      rw [mirrors.read writable, Except.map]
    exact ⟨congrArg Answer.found found, mirrors⟩
  | add subscription =>
    obtain ⟨same, holds⟩ := write_file mirrors writable now Rows.add subscription
    exact ⟨congrArg Answer.written same, holds⟩
  | update subscription =>
    obtain ⟨same, holds⟩ := write_file mirrors writable now Rows.update subscription
    exact ⟨congrArg Answer.written same, holds⟩
  | remove subscription =>
    rcases mirrors.modify writable fun rows => .ok (Rows.remove rows subscription.id) with
      ⟨next, after, changed, modified, holds⟩ | ⟨error, changed, -⟩
    · cases changed
      have ran : Part.whole.run (Disk.modify fun rows => .ok (Rows.remove rows subscription.id)) disk = (.ok (), after) :=
        modified
      simp only [Request.put, file, memory, SubscriptionStore.file, SubscriptionStore.memory, ran]
      exact ⟨trivial, holds⟩
    · cases changed

/-- Rows in memory, and the file on a disk that holds the same; before the first handle there may be no file. -/
structure Alike (onDisk : Desk Disk) (inMemory : Desk (List Subscription)) : Prop where
  handles : onDisk.handles = inMemory.handles
  system : onDisk.system.Mirrors inMemory.system ∨
    onDisk.system.Fresh ∧ inMemory.system = [] ∧ inMemory.handles = []

/-- A visit has the same outcome on both. -/
theorem visit_alike {onDisk : Desk Disk} {inMemory : Desk (List Subscription)} (alike : Alike onDisk inMemory)
    (writable : FileFormat.Writable inMemory.system) (visit : Visit) :
    (file.visit onDisk visit).1 = (memory.visit inMemory visit).1 ∧
      Alike (file.visit onDisk visit).2 (memory.visit inMemory visit).2 := by
  -- A visit takes a handle, gives one back, or asks something through one.
  obtain ⟨handles, system⟩ := alike
  cases visit with
  | acquire handle =>
    obtain ⟨after, opened, mirrors⟩ : ∃ after, onDisk.system.openFile = (.ok (), after) ∧
        after.Mirrors inMemory.system := by
      rcases system with mirrors | ⟨fresh, nothing, -⟩
      · exact ⟨_, mirrors.openFile writable, mirrors⟩
      · exact nothing ▸ fresh.openFile
    simp only [Access.visit, file, memory, opened]
    exact ⟨trivial, by simp [handles], .inl mirrors⟩
  | drop handle =>
    refine ⟨rfl, by simp [Access.visit, handles], ?_⟩
    rcases system with mirrors | ⟨fresh, nothing, none⟩
    · exact .inl mirrors
    · exact .inr ⟨fresh, nothing, by simp [Access.visit, none]⟩
  | call handle now request =>
    by_cases known : handle ∈ inMemory.handles
    · -- There is a handle, and so there is a file.
      rcases system with mirrors | ⟨-, -, none⟩
      · obtain ⟨same, holds⟩ := put_file mirrors writable now request
        simp only [Access.visit, handles, if_pos known, same]
        exact ⟨trivial, rfl, .inl holds⟩
      · simp [none] at known
    · simp only [Access.visit, handles, if_neg known]
      exact ⟨trivial, handles, system⟩

/-- Visits to a file have the same outcomes as the same visits to rows that it holds. -/
theorem visits_alike {onDisk : Desk Disk} {inMemory : Desk (List Subscription)} (alike : Alike onDisk inMemory)
    {visits : List Visit}
    (writable : ∀ front, front <+: visits → FileFormat.Writable (memory.visits inMemory front).2.system) :
    (file.visits onDisk visits).1 = (memory.visits inMemory visits).1 := by
  -- Each visit leaves the two alike for the visits after it.
  induction visits generalizing onDisk inMemory with
  | nil => rfl
  | cons visit rest ih =>
    obtain ⟨same, after⟩ := visit_alike alike (writable [] (List.nil_prefix)) visit
    have others := ih after fun front start => writable (visit :: front) (List.cons_prefix_cons.mpr ⟨rfl, start⟩)
    simp only [Access.visits, same, others]

/-- Whatever is called through handles on one file, opened, dropped and opened again in any order, is answered
as by one store in memory, from a store without subscriptions on and as long as the format has room for the
subscriptions. -/
theorem file_answers_as_memory {disk : Disk} {visits : List Visit} (fresh : disk.Fresh)
    (writable : ∀ front, front <+: visits → FileFormat.Writable (memory.visits { system := [] } front).2.system) :
    (file.visits { system := disk } visits).1 = (memory.visits { system := [] } visits).1 :=
  visits_alike ⟨rfl, .inr ⟨fresh, rfl, rfl⟩⟩ writable

/-- Two handles, one of which is dropped and opened again; the second one adds what is already there. -/
def exchange : List Visit :=
  [.acquire 0, .acquire 1, .call 0 ⟨5⟩ (.add { id := "mail" }), .call 1 ⟨6⟩ (.add { id := "mail" }), .drop 0,
    .acquire 0, .call 0 ⟨7⟩ (.update { id := "mail", position := 3 }), .call 1 ⟨8⟩ (.find {})]

/-- A subscription that a handle of the exchange stores can be written. -/
theorem exchange_writable (front : List Visit) (start : front <+: exchange) :
    FileFormat.Writable (memory.visits { system := [] } front).2.system := by
  -- There are nine beginnings, and at the end of each there is one subscription at most.
  rw [← List.mem_inits] at start
  simp only [exchange, List.inits, List.map_cons, List.map_nil, List.mem_cons, List.not_mem_nil, or_false] at start
  rcases start with rfl | rfl | rfl | rfl | rfl | rfl | rfl | rfl | rfl
  -- There are no rows yet.
  iterate 3 exact Disk.writable_nil
  all_goals
    refine FileFormat.writable_singleton ⟨by decide, by decide, by decide, by decide, ?_⟩ (by decide +kernel)
    rintro error ⟨⟩

/-- The exchange finds the row as it was stored last, and once. -/
theorem exchange_answers_as_memory :
    Disk.Fresh {} ∧ (∀ front, front <+: exchange →
        FileFormat.Writable (memory.visits { system := [] } front).2.system) ∧
      (file.visits { system := {} } exchange).1 =
        [.acquired (.ok ()), .acquired (.ok ()),
          .answered (.written (.ok { id := "mail", lastSavedAt := some ⟨5⟩ })),
          .answered (.written (.error (.subscriptionExists "mail"))), .dropped, .acquired (.ok ()),
          .answered (.written (.ok { id := "mail", position := 3, lastSavedAt := some ⟨7⟩ })),
          .answered (.found (.ok [{ id := "mail", position := 3, lastSavedAt := some ⟨7⟩ }]))] := by
  have fresh : Disk.Fresh {} := ⟨by decide, .inl rfl⟩
  exact ⟨fresh, exchange_writable, (file_answers_as_memory fresh exchange_writable).trans rfl⟩

end Access

end EventFeed
