/-! The 32-bit cyclic redundancy check of IEEE 802.3, one bit at a time. -/

namespace EventFeed

namespace Checksum

/-- The generator polynomial, lowest power first. -/
def generator : UInt32 := 0xEDB88320

/-- Shifts out one bit, and takes in the generator when that bit was set. -/
def shift (state : UInt32) : UInt32 :=
  if state &&& 1 = 1 then (state >>> 1) ^^^ generator else state >>> 1

/-- Takes in one byte. -/
def absorb (state : UInt32) (byte : UInt8) : UInt32 :=
  Nat.repeat shift 8 (state ^^^ byte.toUInt32)

def ofBytes (bytes : List UInt8) : UInt32 := bytes.foldl absorb 0xFFFFFFFF ^^^ 0xFFFFFFFF

end Checksum

end EventFeed
