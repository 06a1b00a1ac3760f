import EventFeed.Document.MessagePack
import EventFeed.Store.Checksum
import EventFeed.Subscription.Basic

/-! The file format of a list of subscriptions: a magic number, a version, the length and the
checksum of what follows, and the list itself. -/

namespace EventFeed

/-- The lowest `count` bytes of a number, least significant first. -/
def littleEndian (count value : Nat) : List UInt8 := (bigEndian count value).reverse

/-- The number that bytes make up, least significant first. -/
def ofLittleEndian (bytes : List UInt8) : Nat := ofBigEndian bytes.reverse

namespace FileFormat

/-- The first bytes of every file. -/
def magic : List UInt8 := [0x53, 0x55, 0x42, 0x00]

def version : UInt8 := 1

/-- Bytes in front of the payload. -/
def headerLength : Nat := 17

/-- The list as bytes. -/
def payload (subscriptions : List Subscription) : List UInt8 :=
  MessagePack.encode (.list (subscriptions.map (Subscription.toDocument .compact)))

/-- The bytes of a file. -/
def encode (subscriptions : List Subscription) : List UInt8 :=
  let body := payload subscriptions
  magic ++ [version] ++ littleEndian 8 body.length ++
    littleEndian 4 (Checksum.ofBytes body).toNat ++ body

/-- The next bytes of a file that must not end before them. -/
def next (count : Nat) (bytes : List UInt8) : Except EngineError (List UInt8 × List UInt8) :=
  match takeBytes? count bytes with
  | some parts => .ok parts
  | none => .error (.io .truncated)

/-- Reads a list of subscriptions. -/
def readPayload (body : List UInt8) : Except EngineError (List Subscription) :=
  match (MessagePack.decode? body).bind (Document.items? Subscription.ofDocument?) with
  | some subscriptions => .ok subscriptions
  | none => .error .deserialization

/-- Reads the bytes of a file; what follows the payload is passed over. -/
def decode (bytes : List UInt8) : Except EngineError (List Subscription) := do
  let (start, rest) ← next 4 bytes
  if start ≠ magic then
    throw (.invalidFormat "Invalid subscription file magic")
  let (number, rest) ← next 1 rest
  if number ≠ [version] then
    throw (.invalidFormat
      ("Unsupported subscription file version: " ++ toString (ofBigEndian number)))
  let (length, rest) ← next 8 rest
  let (checksum, rest) ← next 4 rest
  let length := ofLittleEndian length
  if rest.length < length then
    throw (.invalidFormat ("Subscription payload length " ++ toString length ++ " exceeds file size"))
  let body := rest.take length
  let expected := (ofLittleEndian checksum).toUInt32
  let got := Checksum.ofBytes body
  if got ≠ expected then
    throw (.checksumMismatch expected got)
  readPayload body

end FileFormat

end EventFeed
