import EventFeed.Document.Record

/-! Documents as MessagePack bytes: each number and length takes its shortest form, and reading
accepts every form. -/

namespace EventFeed

/-- The lowest `count` bytes of a number, most significant first. -/
def bigEndian : (count : Nat) → (value : Nat) → List UInt8
  | 0, _ => []
  | count + 1, value => bigEndian count (value / 256) ++ [UInt8.ofNat (value % 256)]

/-- The number that bytes make up, most significant first. -/
def ofBigEndian (bytes : List UInt8) : Nat :=
  bytes.foldl (fun value byte => value * 256 + byte.toNat) 0

/-- The number in two's complement that bytes make up, most significant first. -/
def signedOfBigEndian (bytes : List UInt8) : Int :=
  Int.bmod (ofBigEndian bytes) (Nat.pow 256 bytes.length)

/-- Splits off so many bytes, when there are that many. -/
def takeBytes? (count : Nat) (bytes : List UInt8) : Option (List UInt8 × List UInt8) :=
  if count ≤ bytes.length then some (bytes.take count, bytes.drop count) else none

namespace MessagePack

/-- A whole number without a sign. -/
def encodeNatural (value : Nat) : List UInt8 :=
  if value < 0x80 then [UInt8.ofNat value]
  else if value < 0x100 then 0xcc :: bigEndian 1 value
  else if value < 0x10000 then 0xcd :: bigEndian 2 value
  else if value < 0x100000000 then 0xce :: bigEndian 4 value
  else 0xcf :: bigEndian 8 value

/-- A negative number, in two's complement. -/
def encodeNegative (value : Int) : List UInt8 :=
  if -0x20 ≤ value then bigEndian 1 (value + 0x100).toNat
  else if -0x80 ≤ value then 0xd0 :: bigEndian 1 (value + 0x100).toNat
  else if -0x8000 ≤ value then 0xd1 :: bigEndian 2 (value + 0x10000).toNat
  else if -0x80000000 ≤ value then 0xd2 :: bigEndian 4 (value + 0x100000000).toNat
  else 0xd3 :: bigEndian 8 (value + 0x10000000000000000).toNat

/-- The mark and length in front of a text of so many bytes. -/
def textHead (length : Nat) : List UInt8 :=
  if length < 0x20 then [UInt8.ofNat (0xa0 + length)]
  else if length < 0x100 then 0xd9 :: bigEndian 1 length
  else if length < 0x10000 then 0xda :: bigEndian 2 length
  else 0xdb :: bigEndian 4 length

/-- The mark and length in front of bytes. -/
def bytesHead (length : Nat) : List UInt8 :=
  if length < 0x100 then 0xc4 :: bigEndian 1 length
  else if length < 0x10000 then 0xc5 :: bigEndian 2 length
  else 0xc6 :: bigEndian 4 length

/-- The mark and length in front of a list. -/
def listHead (length : Nat) : List UInt8 :=
  if length < 0x10 then [UInt8.ofNat (0x90 + length)]
  else if length < 0x10000 then 0xdc :: bigEndian 2 length
  else 0xdd :: bigEndian 4 length

/-- The mark and length in front of entries. -/
def entriesHead (length : Nat) : List UInt8 :=
  if length < 0x10 then [UInt8.ofNat (0x80 + length)]
  else if length < 0x10000 then 0xde :: bigEndian 2 length
  else 0xdf :: bigEndian 4 length

/-- A text as its length and its bytes. -/
def encodeText (text : String) : List UInt8 :=
  let bytes := text.toUTF8.toList
  textHead bytes.length ++ bytes

/-- A key as a name, a number or bytes. -/
def encodeKey : Key → List UInt8
  | .name text => encodeText text
  | .place index => encodeNatural index
  | .bytes value => bytesHead value.length ++ value
  | .other => [0xc0]

mutual

/-- The bytes of a document. -/
def encode : Document → List UInt8
  | .null => [0xc0]
  | .bool false => [0xc2]
  | .bool true => [0xc3]
  | .integer value => if 0 ≤ value then encodeNatural value.toNat else encodeNegative value
  | .natural value => encodeNatural value
  | .real bits => 0xcb :: bigEndian 8 bits.toNat
  | .text value => encodeText value
  | .bytes value => bytesHead value.length ++ value
  | .list items => listHead items.length ++ encodeItems items
  | .entries items => entriesHead items.length ++ encodeEntries items
  | .foreign => [0xd4, 0, 0]

/-- The bytes of values in order. -/
def encodeItems : List Document → List UInt8
  | [] => []
  | item :: rest => encode item ++ encodeItems rest

/-- The bytes of keys and values in order. -/
def encodeEntries : List (Key × Document) → List UInt8
  | [] => []
  | (key, item) :: rest => encodeKey key ++ encode item ++ encodeEntries rest

end

/-- What the first byte of a value announces. -/
inductive Marker where
  /-- A value that is complete. -/
  | whole (value : Document)
  /-- A number without a sign in so many bytes. -/
  | unsigned (width : Nat)
  /-- A number in two's complement in so many bytes. -/
  | signed (width : Nat)
  /-- A double of half the usual width. -/
  | single
  | double
  /-- A text, with its length in so many bytes. -/
  | text (width : Nat)
  | shortText (length : Nat)
  /-- Bytes, with their length in so many bytes. -/
  | bytes (width : Nat)
  /-- A list, with its length in so many bytes. -/
  | list (width : Nat)
  | shortList (length : Nat)
  /-- Entries, with their number in so many bytes. -/
  | entries (width : Nat)
  | shortEntries (length : Nat)
  /-- A foreign value, with its length in so many bytes. -/
  | foreign (width : Nat)
  /-- A foreign value of known length. -/
  | shortForeign (length : Nat)
  /-- No value begins with this byte. -/
  | reserved

/-- The announcement of each byte. -/
def Marker.ofByte (byte : UInt8) : Marker :=
  let code := byte.toNat
  if code < 0x80 then .whole (.natural code)
  else if code < 0x90 then .shortEntries (code - 0x80)
  else if code < 0xa0 then .shortList (code - 0x90)
  else if code < 0xc0 then .shortText (code - 0xa0)
  else if 0xe0 ≤ code then .whole (.integer ((code : Int) - 0x100))
  else match code with
    | 0xc0 => .whole .null
    | 0xc2 => .whole (.bool false)
    | 0xc3 => .whole (.bool true)
    | 0xc4 => .bytes 1
    | 0xc5 => .bytes 2
    | 0xc6 => .bytes 4
    | 0xc7 => .foreign 1
    | 0xc8 => .foreign 2
    | 0xc9 => .foreign 4
    | 0xca => .single
    | 0xcb => .double
    | 0xcc => .unsigned 1
    | 0xcd => .unsigned 2
    | 0xce => .unsigned 4
    | 0xcf => .unsigned 8
    | 0xd0 => .signed 1
    | 0xd1 => .signed 2
    | 0xd2 => .signed 4
    | 0xd3 => .signed 8
    | 0xd4 => .shortForeign 1
    | 0xd5 => .shortForeign 2
    | 0xd6 => .shortForeign 4
    | 0xd7 => .shortForeign 8
    | 0xd8 => .shortForeign 16
    | 0xd9 => .text 1
    | 0xda => .text 2
    | 0xdb => .text 4
    | 0xdc => .list 2
    | 0xdd => .list 4
    | 0xde => .entries 2
    | 0xdf => .entries 4
    | _ => .reserved

/-- Bytes that encode a text are that text; others stay bytes. -/
def textDocument (bytes : List UInt8) : Document :=
  match Document.textOfBytes? bytes with
  | some text => .text text
  | none => .bytes bytes

/-- A number of known width. -/
def readNumber (width : Nat) (bytes : List UInt8) : Option (Nat × List UInt8) :=
  (takeBytes? width bytes).map fun (front, rest) => (ofBigEndian front, rest)

/-- Reads one value off the front of the bytes. -/
abbrev Reader := List UInt8 → Option (Document × List UInt8)

/-- Bytes of known length, made into a document. -/
def readSpan (make : List UInt8 → Document) (length : Nat) : Reader := fun bytes =>
  (takeBytes? length bytes).map fun (front, rest) => (make front, rest)

/-- So many values in order. -/
def readItems (inner : Reader) : (count : Nat) → List UInt8 → Option (List Document × List UInt8)
  | 0, bytes => some ([], bytes)
  | count + 1, bytes =>
    (inner bytes).bind fun (item, rest) =>
      (readItems inner count rest).map fun (items, rest) => (item :: items, rest)

/-- What a decoded value names when it stands as a key. -/
def keyOf : Document → Key
  | .text name => .name name
  | .bytes name => match Document.textOfBytes? name with
    | some text => .name text
    | none => .bytes name
  | .natural index => .place index
  | _ => .other

/-- So many keys and values in order. -/
def readEntries (inner : Reader) :
    (count : Nat) → List UInt8 → Option (List (Key × Document) × List UInt8)
  | 0, bytes => some ([], bytes)
  | count + 1, bytes =>
    (inner bytes).bind fun (key, rest) =>
      (inner rest).bind fun (item, rest) =>
        (readEntries inner count rest).map fun (items, rest) => ((keyOf key, item) :: items, rest)

/-- A list of known length. -/
def readList (inner : Reader) (length : Nat) : Reader := fun bytes =>
  (readItems inner length bytes).map fun (items, rest) => (.list items, rest)

/-- A known number of entries. -/
def readMap (inner : Reader) (length : Nat) : Reader := fun bytes =>
  (readEntries inner length bytes).map fun (items, rest) => (.entries items, rest)

/-- A value whose length comes first, in so many bytes. -/
def readSized (width : Nat) (body : Nat → Reader) : Reader := fun bytes =>
  (readNumber width bytes).bind fun (length, rest) => body length rest

/-- The rest of a value after its marker; what stands inside it is read by
`inner`, where that is allowed. -/
def readBody (inner : Option Reader) : Marker → Reader
  | .whole value => fun bytes => some (value, bytes)
  | .unsigned width => fun bytes =>
    (readNumber width bytes).map fun (value, rest) => (.natural value, rest)
  | .signed width => readSpan (fun front => .integer (signedOfBigEndian front)) width
  | .single =>
    readSpan (fun front => .real (Float32.ofBits (ofBigEndian front).toUInt32).toFloat.toBits) 4
  | .double => readSpan (fun front => .real (ofBigEndian front).toUInt64) 8
  | .text width => readSized width (readSpan textDocument)
  | .shortText length => readSpan textDocument length
  | .bytes width => readSized width (readSpan .bytes)
  | .reserved => fun _ => none
  | marker => fun bytes => inner.bind fun inner =>
    match marker with
    | .list width => readSized width (readList inner) bytes
    | .shortList length => readList inner length bytes
    | .entries width => readSized width (readMap inner) bytes
    | .shortEntries length => readMap inner length bytes
    -- A foreign value has one more byte, which tells its kind.
    | .foreign width => readSized width (fun length => readSpan (fun _ => .foreign) (length + 1)) bytes
    | .shortForeign length => readSpan (fun _ => .foreign) (length + 1) bytes
    | _ => none

/-- Reads a marker and the value it announces. -/
def readValue (inner : Option Reader) : Reader
  | [] => none
  | byte :: bytes => readBody inner (Marker.ofByte byte) bytes

/-- Reads one value; lists, entries and foreign values may stand inside
each other to the given depth. -/
def decode : (depth : Nat) → Reader
  | 0 => readValue none
  | depth + 1 => readValue (some (decode depth))

/-- How deep lists may stand inside each other in what is read: one level short of 1024. -/
def nestingLimit : Nat := 1023

/-- The value that bytes begin with; what follows it is passed over. -/
def decode? (bytes : List UInt8) : Option Document := (decode nestingLimit bytes).map Prod.fst

end MessagePack

end EventFeed
