import EventFeed.Store.FileFormat
import EventFeed.Store.Rows

/-! A store in one file that several handles share; each call reads the file again, and a file
beside it serves as the lock. -/

namespace EventFeed

/-- What is found where the folder of the file should be. -/
inductive Folder where
  | absent
  | present
  /-- Something that is not a folder. -/
  | blocked
deriving DecidableEq

/-- What is found where the file should be. -/
inductive Contents where
  | absent
  | file (bytes : List UInt8)
  | folder
deriving DecidableEq

/-- The place on a disk where a file of subscriptions is kept. -/
structure Disk where
  folder : Folder := .absent
  contents : Contents := .absent
  /-- Whether the file for the lock has been created. -/
  lockFile : Bool := false
  /-- Whether a handle holds the lock. -/
  held : Bool := false
deriving DecidableEq

namespace Disk

def fileName : String := "subscriptions.bin"

/-- The name of the file for the lock. -/
def lockName : String := fileName ++ ".lock"

/-- The bytes of the file, when there is a file. -/
def bytes? (disk : Disk) : Option (List UInt8) :=
  match disk.folder, disk.contents with
  | .present, .file bytes => some bytes
  | _, _ => none

/-- The names of the files in the folder, in order. -/
def names (disk : Disk) : List String :=
  if disk.folder = .present then
    (if disk.contents = .absent then [] else [fileName]) ++ (if disk.lockFile then [lockName] else [])
  else []

/-- Reads every subscription; a missing file holds none. -/
def read (disk : Disk) : Except EngineError (List Subscription) :=
  match disk.folder, disk.contents with
  | .absent, _ => .ok []
  | .blocked, _ => .error (.io .inaccessible)
  | .present, .absent => .ok []
  | .present, .folder => .error (.io .inaccessible)
  | .present, .file bytes => FileFormat.decode bytes

/-- Replaces the file as a whole. -/
def write (subscriptions : List Subscription) (disk : Disk) : Except EngineError Unit × Disk :=
  match disk.folder, disk.contents with
  | .present, .absent | .present, .file _ =>
    (.ok (), { disk with contents := .file (FileFormat.encode subscriptions) })
  | _, _ => (.error (.io .inaccessible), disk)

/-- Creates the folder, and the file if there is none; a file that is there must be readable. -/
def openFile (disk : Disk) : Except EngineError Unit × Disk :=
  match disk.folder with
  | .blocked => (.error (.io .inaccessible), disk)
  | _ =>
    let disk := { disk with folder := .present }
    match disk.contents with
    | .absent => disk.write []
    | _ => (disk.read.map fun _ => (), disk)

/-- Reads every subscription, changes the list, and writes it back unless one of these fails. -/
def modify (change : List Subscription → Except EngineError (List Subscription)) (disk : Disk) :
    Except EngineError Unit × Disk :=
  match disk.read with
  | .error error => (.error error, disk)
  | .ok rows =>
    match change rows with
    | .error error => (.error error, disk)
    | .ok rows => disk.write rows

/-- Takes the lock; one that is held is not given up while the holder's computation runs. -/
def acquire (disk : Disk) : Except EngineError Unit × Disk :=
  match disk.folder with
  | .present =>
    if disk.held then (.error .locked, { disk with lockFile := true })
    else (.ok (), { disk with lockFile := true, held := true })
  | _ => (.error (.io .inaccessible), disk)

def release (disk : Disk) : Disk := { disk with held := false }

end Disk

namespace SubscriptionStore

variable {σ : Type}

/-- Stamps a subscription, and then writes it; the stamp stays even when the write fails. -/
def writeDisk (disk : Part σ Disk) (now : σ → Timestamp)
    (write : List Subscription → Subscription → Except EngineError (List Subscription))
    (subscription : Subscription) (system : σ) : Written × σ :=
  let stamped := subscription.markSaved (now system)
  let (outcome, next) := disk.run (Disk.modify fun rows => write rows stamped) system
  (⟨stamped, outcome⟩, next)

/-- The lock beside the file. -/
def diskLock (disk : Part σ Disk) : Lock σ where
  acquire := disk.run Disk.acquire
  visits := 1
  release := disk.modify Disk.release
  forsake := disk.modify Disk.release

/-- A store in a file. -/
def file (disk : Part σ Disk) (now : σ → Timestamp) : SubscriptionStore σ where
  find := fun criteria system =>
    ((disk.read system).read.map fun rows => Rows.find rows criteria, system)
  add := writeDisk disk now Rows.add
  update := writeDisk disk now Rows.update
  remove := fun subscription =>
    disk.run (Disk.modify fun rows => .ok (Rows.remove rows subscription.id))
  lock := some (diskLock disk)

end SubscriptionStore

end EventFeed
