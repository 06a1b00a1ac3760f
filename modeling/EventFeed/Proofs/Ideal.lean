import EventFeed.Proofs.Bonds
import EventFeed.Proofs.Extents
import EventFeed.Proofs.Handles
import EventFeed.Proofs.Tallies
import Mathlib.Data.Countable.Basic
import Mathlib.Logic.Equiv.List
import Mathlib.Logic.Function.Basic
import Mathlib.Tactic.DeriveCountable

/-! Ideal files: a file that has room for all subscriptions is a store in memory. An engine that keeps its subscriptions
in a real file has the same system to work on as one with an ideal file, and finds and writes the same there as long as
the format has room. -/

namespace EventFeed

variable {σ : Type}

instance countableText : Countable String := by
  have codes : Function.Injective fun text : String => text.toList.map Char.toNat := fun _ _ same =>
    String.toList_inj.mp (List.map_injective_iff.mpr (fun _ _ => Char.toNat_inj.mp) same)
  exact codes.countable

instance countableMicros : Countable Int64 :=
  Function.Injective.countable (f := Int64.toInt) fun _ _ same => Int64.toInt_inj.mp same

deriving instance Countable for RunMode
deriving instance Countable for Status
deriving instance Countable for Timestamp
deriving instance Countable for ErrorLevel
deriving instance Countable for CapturedError
deriving instance Countable for SubscriptionError
deriving instance Countable for Subscription

namespace FileFormat

/-- The lists of subscriptions, numbered. -/
noncomputable def number : List Subscription → Nat := (exists_injective_nat (List Subscription)).choose

theorem number_injective : Function.Injective number := (exists_injective_nat (List Subscription)).choose_spec

open Classical in
/-- Bytes for every list of subscriptions: those of the format where it has room, and otherwise bytes that no file of
the format begins with. -/
noncomputable def image (rows : List Subscription) : List UInt8 :=
  if Writable rows then encode rows else 0 :: List.replicate (number rows) 0

/-- Where the format has room, its bytes are taken. -/
theorem image_of_writable {rows : List Subscription} (writable : Writable rows) : image rows = encode rows :=
  if_pos writable

/-- No two lists have the same bytes. -/
theorem image_injective : Function.Injective image := by
  intro one two same
  -- Files of the format begin with another byte.
  have apart : ∀ rows others, encode rows ≠ 0 :: List.replicate (number others) 0 := by
    intro rows others equal
    have first := congrArg List.head? equal
    simp [encode, magic] at first
  unfold image at same
  split at same <;> split at same
  · rename_i mine yours
    have both := decode_encode mine
    rw [same, decode_encode yours] at both
    exact (Except.ok.inj both).symm
  · exact absurd same (apart _ _)
  · exact absurd same.symm (apart _ _)
  · refine number_injective ?_
    simpa using congrArg List.length same

/-- The list that bytes stand for. -/
noncomputable def original : List UInt8 → List Subscription := Function.invFun image

@[simp] theorem original_image (rows : List Subscription) : original (image rows) = rows :=
  Function.leftInverse_invFun image_injective rows

end FileFormat

/-- What an engine and its subscribers see of a system with a disk, and the laws that keep the views apart. -/
structure Site (σ : Type) where
  /-- The place of the file. -/
  disk : Part σ Disk
  /-- The messages of the log, with their indices. -/
  log : σ → List (Nat × Message)
  /-- The time on the clock. -/
  now : σ → Timestamp
  /-- The reports so far. -/
  journal : σ → List Notice
  /-- Takes in a report. -/
  observe : Notice → σ → σ
  read_write : ∀ written system, disk.read (disk.write written system) = written
  write_read : ∀ system, disk.write (disk.read system) system = system
  log_write : ∀ written system, log (disk.write written system) = log system
  journal_write : ∀ written system, journal (disk.write written system) = journal system
  read_observe : ∀ notice system, disk.read (observe notice system) = disk.read system
  log_observe : ∀ notice system, log (observe notice system) = log system
  journal_observe : ∀ notice system, journal (observe notice system) = journal system ++ [notice]
  ascending : ∀ system, ((log system).map Prod.fst).Pairwise (· < ·)

attribute [simp] Site.read_write Site.write_read Site.log_write Site.journal_write Site.read_observe
  Site.log_observe Site.journal_observe

namespace Site

variable {site : Site σ} {engine : Engine σ} {rows : List Subscription} {system : σ}

/-- The subscriptions in an ideal file in the place of the real one. -/
noncomputable def idealRows (site : Site σ) : Part σ (List Subscription) where
  read := fun system => ((site.disk.read system).bytes?.map FileFormat.original).getD []
  write := fun rows system => site.disk.write
    { site.disk.read system with folder := .present, contents := .file (FileFormat.image rows) } system

/-- The system with an ideal file. -/
noncomputable def ideal (site : Site σ) : Stage σ where
  rows := site.idealRows
  log := site.log
  now := site.now
  journal := site.journal
  calls := fun _ => []
  observe := site.observe
  read_write := fun _ _ => by simp [idealRows, Disk.bytes?]
  log_write := fun _ _ => site.log_write _ _
  journal_write := fun _ _ => site.journal_write _ _
  calls_write := fun _ _ => rfl
  read_observe := fun _ _ => by simp [idealRows]
  log_observe := site.log_observe
  journal_observe := site.journal_observe
  calls_observe := fun _ _ => rfl
  ascending := site.ascending

/-- An engine that works on a system with a disk: it loads the log, keeps its rows in the file, and reports to the
journal. -/
structure Serves (site : Site σ) (engine : Engine σ) : Prop where
  load : ∀ criteria options system, engine.source.load criteria options system =
    (.ok ((options.page ((site.log system).filter fun entry => criteria.admits entry.1 entry.2)).map .ok), system)
  store : engine.store = .file site.disk site.now
  observe : engine.observe = site.observe

/-- The engine with an ideal file. -/
noncomputable def idealize (site : Site σ) (engine : Engine σ) : Engine σ :=
  { engine with store := .memory site.ideal.rows site.now }

/-- It works on the system with an ideal file. -/
theorem Serves.hosts (serves : site.Serves engine) : site.ideal.Hosts (site.idealize engine) :=
  ⟨serves.load, rfl, serves.observe⟩

/-- What subscriber code may do between two systems: the disk and the reports stay, and the log gets longer. -/
structure Onward (site : Site σ) (before after : σ) : Prop where
  disk : site.disk.read after = site.disk.read before
  journal : site.journal after = site.journal before
  log : site.log before <+: site.log after

/-- A subscriber whose code does only what is allowed, whatever its outcome. -/
def Quiet (site : Site σ) (subscriber : Subscriber σ) : Prop :=
  ∀ hook, subscriber.Code hook → ∀ system, site.Onward system (hook system).2

/-- With an ideal file such a subscriber does only what is allowed, too. -/
theorem Quiet.behaves {subscriber : Subscriber σ} (quiet : site.Quiet subscriber) : site.ideal.Behaves subscriber := by
  -- The rows of the ideal file are those of the disk, which is left alone.
  have discreet : ∀ hook, subscriber.Code hook → site.ideal.Discreet hook := by
    intro hook code system
    obtain ⟨disk, journal, log⟩ := quiet hook code system
    exact ⟨by simp [ideal, idealRows, disk], journal, log⟩
  exact ⟨fun hook declared => discreet hook (.setup declared), fun hook declared => discreet hook (.teardown declared),
    fun entry member message => discreet _ (.handler member message)⟩

/-- A view of what has gone wrong in subscriber code so far: each call of a setup hook or a handler that does not end
well adds to it, and nothing that an engine does itself. -/
structure Reckons (site : Site σ) (engine : Engine σ) (faults : σ → List SubscriptionFailure) : Prop where
  observe : ∀ notice system, faults (site.observe notice system) = faults system
  write : ∀ written system, faults (site.disk.write written system) = faults system
  setup : ∀ subscriber ∈ engine.registry.subscribers, ∀ hook, subscriber.setup = some hook → ∀ system,
    faults (hook system).2 = faults system ++ ((hook system).1.failure? subscriber.id).toList
  handlers : ∀ subscriber ∈ engine.registry.subscribers, ∀ entry ∈ subscriber.handlers, ∀ message system,
    faults (entry.handle message system).2 =
      faults system ++ ((entry.handle message system).1.failure? subscriber.id).toList

/-- It is one of the engine with an ideal file as well. -/
theorem Reckons.ideal {faults : σ → List SubscriptionFailure} (reckons : site.Reckons engine faults) :
    site.ideal.Reckons (site.idealize engine) faults :=
  ⟨reckons.observe, fun _ _ => reckons.write _ _, reckons.setup, reckons.handlers⟩

/-- The rows in the real file are those in the ideal one, when the format has room for them. -/
theorem ideal_read (mirrors : (site.disk.read system).Mirrors rows) (writable : FileFormat.Writable rows) :
    site.ideal.rows.read system = rows := by
  -- The ideal file is the image of what the real one has, and an image leads back to its rows.
  have bytes : (site.disk.read system).bytes? = some (FileFormat.image rows) := by
    simp [Disk.bytes?, mirrors.folder, mirrors.contents, FileFormat.image_of_writable writable]
  show ((site.disk.read system).bytes?.map FileFormat.original).getD [] = rows
  rw [bytes, Option.map_some, Option.getD_some, FileFormat.original_image]

/-- What is found in the real file is found in the ideal one. -/
theorem Serves.find_same (serves : site.Serves engine) (mirrors : (site.disk.read system).Mirrors rows)
    (writable : FileFormat.Writable rows) (criteria : SubscriptionCriteria) :
    engine.store.find criteria system = (.ok (Rows.find rows criteria), system) ∧
      (site.idealize engine).store.find criteria system = (.ok (Rows.find rows criteria), system) := by
  -- Each store reads the rows in its own way, and then filters them.
  constructor
  · rw [serves.store]
    simp only [SubscriptionStore.file, mirrors.read writable, Except.map]
  · show (Except.ok (Rows.find (site.ideal.rows.read system) criteria), system) = _
    rw [ideal_read mirrors writable]

/-- What is written to the real file is written to the ideal one, when there is room before and after. -/
theorem written_same (mirrors : (site.disk.read system).Mirrors rows) (writable : FileFormat.Writable rows)
    {write : List Subscription → Subscription → Except EngineError (List Subscription)} {row : Subscription}
    (room : ∀ next, write rows (row.markSaved (site.now system)) = .ok next → FileFormat.Writable next) :
    SubscriptionStore.written (SubscriptionStore.writeDisk site.disk site.now write row) system =
      SubscriptionStore.written (SubscriptionStore.writeRows site.ideal.rows site.now write row) system := by
  -- Both stores try the change on the same rows.
  simp only [SubscriptionStore.written, Action.ofStep, SubscriptionStore.writeDisk, SubscriptionStore.writeRows,
    Part.run, Disk.modify, mirrors.read writable, ideal_read mirrors writable]
  cases changed : write rows (row.markSaved (site.now system)) with
  | error error => simp [Except.map]
  | ok next =>
    -- The folder is there, and the file becomes that of the next rows.
    have bytes := FileFormat.image_of_writable (room next changed)
    simp [Disk.write, mirrors.folder, mirrors.contents, Except.map, ideal, idealRows, bytes]

end Site

end EventFeed
