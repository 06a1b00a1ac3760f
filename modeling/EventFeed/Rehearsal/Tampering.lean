import EventFeed.Store.Disk

/-! Changes to the place of a file that no store makes: what somebody else may do to a disk. -/

namespace EventFeed.Disk

/-- Puts something where the file should be, in a folder that is there. -/
def put (contents : Contents) (disk : Disk) : Disk := { disk with folder := .present, contents }

/-- Replaces the bytes of the file. -/
def putBytes (change : List UInt8 → List UInt8) (disk : Disk) : Disk :=
  disk.put (.file (change (disk.bytes?.getD [])))

/-- Bytes of some length, cut off or filled up with zeros. -/
def resize (length : Nat) (bytes : List UInt8) : List UInt8 :=
  bytes.take length ++ List.replicate (length - bytes.length) 0

/-- Writes some bytes over those from a place on; a gap is filled with zeros. -/
def overwrite (place : Nat) (patch bytes : List UInt8) : List UInt8 :=
  resize place bytes ++ patch ++ bytes.drop (place + patch.length)

/-- Puts something that is no folder where the folder should be. -/
def block (disk : Disk) : Disk := { disk with folder := .blocked, contents := .absent, lockFile := false }

end EventFeed.Disk
