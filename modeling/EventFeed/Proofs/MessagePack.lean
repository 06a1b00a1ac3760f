import EventFeed.Document.MessagePack
import Mathlib.Data.List.Basic
import Mathlib.Algebra.Group.Nat.Defs

/-! Documents read back from their MessagePack bytes: numbers of every width, texts and lists of every
length, and lists inside each other. -/

namespace EventFeed

@[simp] theorem length_bigEndian (count value : Nat) : (bigEndian count value).length = count := by
  -- Each step writes one byte.
  induction count generalizing value with
  | zero => rfl
  | succ count ih => simp [bigEndian, ih]

/-- The last byte is the least significant one. -/
theorem ofBigEndian_append (front : List UInt8) (byte : UInt8) :
    ofBigEndian (front ++ [byte]) = ofBigEndian front * 256 + byte.toNat := by
  simp [ofBigEndian, List.foldl_append]

/-- A number that fits its bytes is read back from them. -/
theorem ofBigEndian_bigEndian {count value : Nat} (fits : value < 256 ^ count) :
    ofBigEndian (bigEndian count value) = value := by
  -- The last byte is the rest of a division by 256, and the other ones hold the quotient.
  induction count generalizing value with
  | zero =>
    have : value = 0 := by simpa using fits
    simp [this, bigEndian, ofBigEndian]
  | succ count ih =>
    have quotient : value / 256 < 256 ^ count := by
      rw [Nat.pow_succ] at fits
      omega
    have last : (UInt8.ofNat (value % 256)).toNat = value % 256 := by
      simp
    rw [bigEndian, ofBigEndian_append, ih quotient, last]
    omega

/-- A negative number that fits its bytes is read back from its two's complement. -/
theorem signedOfBigEndian_bigEndian {count : Nat} {value : Int} (negative : value < 0)
    (fits : -(256 ^ count : Nat) ≤ 2 * value) :
    signedOfBigEndian (bigEndian count (value + (256 ^ count : Nat)).toNat) = value := by
  -- The complement is a number without a sign that fits the bytes.
  have complement : (value + (256 ^ count : Nat)).toNat < 256 ^ count := by omega
  rw [signedOfBigEndian, ofBigEndian_bigEndian complement, length_bigEndian]
  have lifted : ((value + (256 ^ count : Nat)).toNat : Int) = value + (256 ^ count : Nat) := by omega
  -- Taking the span away again leaves the number, which lies in the lower half.
  rw [lifted, Nat.pow_eq, Int.add_bmod_right]
  apply Int.bmod_eq_of_le <;> omega

/-- Bytes in front are split off. -/
theorem takeBytes?_append {count : Nat} {front : List UInt8} (length : front.length = count)
    (rest : List UInt8) : takeBytes? count (front ++ rest) = some (front, rest) := by
  -- The front is as long as what is taken.
  subst length
  simp [takeBytes?]

/-- The bytes of a byte array, from some place on, come behind those that were collected before. -/
theorem toList_loop (bytes : ByteArray) (place : Nat) (collected : List UInt8) :
    ByteArray.toList.loop bytes place collected = collected.reverse ++ bytes.data.toList.drop place := by
  -- The loop moves one byte at a time from what is left to what is collected.
  fun_induction ByteArray.toList.loop bytes place collected with
  | case1 place collected inside ih =>
    have within : place < bytes.data.toList.length := by simpa using inside
    have byte : bytes.get! place = bytes.data.toList[place] := by
      simp [ByteArray.get!, inside]
    rw [ih, List.drop_eq_getElem_cons within, byte]
    simp
  | case2 place collected outside =>
    have nothing : bytes.data.toList.drop place = [] :=
      List.drop_eq_nil_of_le (by simpa using outside)
    rw [nothing, List.append_nil]

/-- A byte array has as many bytes in its list. -/
theorem length_toList (bytes : ByteArray) : bytes.toList.length = bytes.size := by
  -- The list is built by a loop, of which it is known what it returns.
  rw [ByteArray.toList, toList_loop]
  simp

/-- The bytes of a text encode it. -/
theorem textOfBytes?_toUTF8 (text : String) : Document.textOfBytes? text.toUTF8.toList = some text := by
  -- The list of bytes gives the byte array back, which is valid as it comes from a text.
  have bytes : ByteArray.mk text.toUTF8.toList.toArray = text.toUTF8 := by
    rw [ByteArray.toList, toList_loop]
    simp
  rw [Document.textOfBytes?, bytes, String.fromUTF8?, String.toUTF8_eq_toByteArray, dif_pos text.isValidUTF8]
  rfl

namespace MessagePack

variable {inner : Option Reader}

/-- A number of known width is read back. -/
theorem readNumber_bigEndian {width value : Nat} (fits : value < 256 ^ width) (rest : List UInt8) :
    readNumber width (bigEndian width value ++ rest) = some (value, rest) := by
  simp [readNumber, takeBytes?_append, ofBigEndian_bigEndian fits]

/-- Bytes of known length are made into a document. -/
theorem readSpan_append (make : List UInt8 → Document) (front rest : List UInt8) :
    readSpan make front.length (front ++ rest) = some (make front, rest) := by
  simp [readSpan, takeBytes?_append]

/-- A value whose length comes first is read under that length. -/
theorem readSized_bigEndian {width length : Nat} (fits : length < 256 ^ width) (body : Nat → Reader)
    (rest : List UInt8) : readSized width body (bigEndian width length ++ rest) = body length rest := by
  simp [readSized, readNumber_bigEndian fits]

section Markers

variable {value : Nat}

/-- A byte below 0x80 is a number. -/
theorem ofByte_number (small : value < 0x80) :
    Marker.ofByte (UInt8.ofNat value) = .whole (.natural value) := by
  -- The first test of the reader is met.
  have code : (UInt8.ofNat value).toNat = value := by simp; omega
  simp [Marker.ofByte, code, small]

/-- The bytes from 0x90 on announce short lists. -/
theorem ofByte_shortList (short : value < 0x10) :
    Marker.ofByte (UInt8.ofNat (0x90 + value)) = .shortList value := by
  -- The tests before fail, and this one is met.
  have code : (UInt8.ofNat (0x90 + value)).toNat = 0x90 + value := by simp; omega
  have notNumber : ¬ 0x90 + value < 0x80 := by omega
  have notEntries : ¬ 0x90 + value < 0x90 := by omega
  have list : 0x90 + value < 0xa0 := by omega
  simp only [Marker.ofByte, code, notNumber, notEntries, list, if_true, if_false, Nat.add_sub_cancel_left]

/-- The bytes from 0xa0 on announce short texts. -/
theorem ofByte_shortText (short : value < 0x20) :
    Marker.ofByte (UInt8.ofNat (0xa0 + value)) = .shortText value := by
  -- The tests before fail, and this one is met.
  have code : (UInt8.ofNat (0xa0 + value)).toNat = 0xa0 + value := by simp; omega
  have notNumber : ¬ 0xa0 + value < 0x80 := by omega
  have notEntries : ¬ 0xa0 + value < 0x90 := by omega
  have notList : ¬ 0xa0 + value < 0xa0 := by omega
  have text : 0xa0 + value < 0xc0 := by omega
  simp only [Marker.ofByte, code, notNumber, notEntries, notList, text, if_true, if_false,
    Nat.add_sub_cancel_left]

/-- The bytes from 0xe0 on are negative numbers. -/
theorem ofByte_negative (high : 0xe0 ≤ value) (byte : value < 0x100) :
    Marker.ofByte (UInt8.ofNat value) = .whole (.integer ((value : Int) - 0x100)) := by
  -- All tests before the last one fail.
  have code : (UInt8.ofNat value).toNat = value := by simp; omega
  have notNumber : ¬ value < 0x80 := by omega
  have notEntries : ¬ value < 0x90 := by omega
  have notList : ¬ value < 0xa0 := by omega
  have notText : ¬ value < 0xc0 := by omega
  simp only [Marker.ofByte, code, notNumber, notEntries, notList, notText, high, if_true, if_false]

end Markers

/-- A number without a sign is read back, whatever form it takes. -/
theorem readValue_natural {value : Nat} (fits : value < UInt64.size) (rest : List UInt8) :
    readValue inner (encodeNatural value ++ rest) = some (.natural value, rest) := by
  -- Each form has its own mark, and holds the numbers that it is taken for.
  unfold encodeNatural
  split
  · rename_i small
    simp [readValue, ofByte_number small, readBody]
  split
  · rename_i fits
    show readBody inner (.unsigned 1) (bigEndian 1 value ++ rest) = _
    simp [readBody, @readNumber_bigEndian 1 _ fits]
  split
  · rename_i fits
    show readBody inner (.unsigned 2) (bigEndian 2 value ++ rest) = _
    simp [readBody, @readNumber_bigEndian 2 _ fits]
  split
  · rename_i fits
    show readBody inner (.unsigned 4) (bigEndian 4 value ++ rest) = _
    simp [readBody, @readNumber_bigEndian 4 _ fits]
  · show readBody inner (.unsigned 8) (bigEndian 8 value ++ rest) = _
    simp [readBody, @readNumber_bigEndian 8 _ fits]

/-- A negative number is read back, whatever form it takes. -/
theorem readValue_negative {value : Int} (negative : value < 0) (fits : Int64.minValue.toInt ≤ value)
    (rest : List UInt8) : readValue inner (encodeNegative value ++ rest) = some (.integer value, rest) := by
  -- The widest form holds every number of 64 bits.
  have widest : -0x8000000000000000 ≤ value := fits
  unfold encodeNegative
  split
  · rename_i short
    -- The number is in the mark itself.
    have byte : (value + 0x100).toNat % 256 = (value + 0x100).toNat := by omega
    have mark : bigEndian 1 (value + 0x100).toNat = [UInt8.ofNat (value + 0x100).toNat] := by
      simp only [bigEndian, byte, List.nil_append]
    have restored : ((value + 0x100).toNat : Int) - 0x100 = value := by omega
    rw [mark, List.singleton_append, readValue, ofByte_negative (by omega) (by omega), restored]
    rfl
  -- In the other forms the complement follows the mark.
  have span : ∀ width, -(256 ^ width : Nat) ≤ 2 * value →
      readSpan (fun front => .integer (signedOfBigEndian front)) width
        (bigEndian width (value + (256 ^ width : Nat)).toNat ++ rest) = some (.integer value, rest) := by
    intro width holds
    have read := readSpan_append (fun front => .integer (signedOfBigEndian front))
      (bigEndian width (value + (256 ^ width : Nat)).toNat) rest
    rwa [length_bigEndian, signedOfBigEndian_bigEndian negative holds] at read
  split
  · rename_i fits
    exact span 1 (by omega)
  split
  · rename_i fits
    exact span 2 (by omega)
  split
  · rename_i fits
    exact span 4 (by omega)
  · exact span 8 (by omega)

/-- A text is read back, whatever its length. -/
theorem readValue_text {text : String} (fits : text.utf8ByteSize < UInt32.size) (rest : List UInt8) :
    readValue inner (encodeText text ++ rest) = some (.text text, rest) := by
  rw [← String.size_toByteArray, ← String.toUTF8_eq_toByteArray, ← length_toList] at fits
  -- After the mark and the length come the bytes of the text.
  have body : readSpan textDocument text.toUTF8.toList.length (text.toUTF8.toList ++ rest) =
      some (.text text, rest) := by
    rw [readSpan_append, textDocument, textOfBytes?_toUTF8]
  have sized : ∀ width, text.toUTF8.toList.length < 256 ^ width → readSized width (readSpan textDocument)
      (bigEndian width text.toUTF8.toList.length ++ (text.toUTF8.toList ++ rest)) =
        some (.text text, rest) := by
    intro width holds
    rw [readSized_bigEndian holds, body]
  simp only [encodeText, textHead, List.append_assoc]
  split
  · rename_i short
    rw [List.singleton_append, readValue, ofByte_shortText short]
    exact body
  split
  · exact sized 1 ‹_›
  split
  · exact sized 2 ‹_›
  · exact sized 4 fits

/-- Values in order are read back, when each of them is. -/
theorem readItems_encodeItems {inner : Reader} {items : List Document}
    (each : ∀ item ∈ items, ∀ rest, inner (encode item ++ rest) = some (item, rest)) (rest : List UInt8) :
    readItems inner items.length (encodeItems items ++ rest) = some (items, rest) := by
  -- The first value is read off the front, and the others follow it.
  induction items with
  | nil => rfl
  | cons item others ih =>
    have first := each item (by simp) (encodeItems others ++ rest)
    have later := ih fun other member => each other (by simp [member])
    simp [readItems, encodeItems, first, later]

/-- What follows the mark and the length of a list is read as so many items, where lists are allowed. -/
theorem readValue_listHead {length : Nat} (fits : length < UInt32.size) (body : List UInt8) :
    readValue inner (listHead length ++ body) = inner.bind fun inner => readList inner length body := by
  -- The length is written in one of three widths, and each is read in its own.
  have sized : ∀ reader width, length < 256 ^ width →
      readSized width (readList reader) (bigEndian width length ++ body) = readList reader length body :=
    fun reader _ holds => readSized_bigEndian holds _ _
  unfold listHead
  split
  · rename_i short
    rw [List.singleton_append, readValue, ofByte_shortList short]
    rfl
  split
  · rename_i fits
    exact Option.bind_congr fun reader _ => sized reader 2 fits
  · exact Option.bind_congr fun reader _ => sized reader 4 fits

/-- A list is read back, when each of its items is. -/
theorem readValue_list {inner : Reader} {items : List Document} (fits : items.length < UInt32.size)
    (each : ∀ item ∈ items, ∀ rest, inner (encode item ++ rest) = some (item, rest)) (rest : List UInt8) :
    readValue (some inner) (listHead items.length ++ (encodeItems items ++ rest)) =
      some (.list items, rest) := by
  -- The head announces how many items are read, and each of them is read back.
  rw [readValue_listHead fits, Option.bind_some, readList, readItems_encodeItems each rest]
  rfl

/-- The documents that compact records are written as, with lists inside each other to a depth at most:
lengths have 32 bits, and numbers have 64. -/
inductive Storable : (depth : Nat) → Document → Prop
  | null {depth : Nat} : Storable depth .null
  | natural {depth value : Nat} (fits : value < UInt64.size) : Storable depth (.natural value)
  | negative {depth : Nat} {value : Int} (negative : value < 0) (fits : Int64.minValue.toInt ≤ value) :
    Storable depth (.integer value)
  | text {depth : Nat} {value : String} (fits : value.utf8ByteSize < UInt32.size) : Storable depth (.text value)
  | list {depth : Nat} {items : List Document} (fits : items.length < UInt32.size)
    (each : ∀ item ∈ items, Storable depth item) : Storable (depth + 1) (.list items)

/-- What may stand at some depth may stand where there is more room. -/
theorem Storable.deeper {depth further : Nat} {document : Document} (storable : Storable depth document)
    (room : depth ≤ further) : Storable further document := by
  -- By induction on the document: only a list uses up a level, and it leaves one for its items.
  induction storable generalizing further with
  | null => exact .null
  | natural fits => exact .natural fits
  | negative negative fits => exact .negative negative fits
  | text fits => exact .text fits
  | list fits each ih =>
    obtain ⟨further, rfl⟩ : ∃ room, further = room + 1 := ⟨further - 1, by omega⟩
    exact .list fits fun item member => ih item member (by omega)

/-- A storable document is read back from its bytes, whatever follows them. -/
theorem decode_encode {depth : Nat} {document : Document} (storable : Storable depth document)
    (rest : List UInt8) : decode depth (encode document ++ rest) = some (document, rest) := by
  -- Values that are no lists are read the same at every depth.
  have shape : ∀ depth, ∃ inner, decode depth = readValue inner := by
    intro depth
    cases depth with
    | zero => exact ⟨none, rfl⟩
    | succ depth => exact ⟨some (decode depth), rfl⟩
  induction storable generalizing rest with
  | @null depth =>
    obtain ⟨inner, read⟩ := shape depth
    rw [read]
    rfl
  | @natural depth value fits =>
    obtain ⟨inner, read⟩ := shape depth
    rw [read, encode]
    exact readValue_natural fits rest
  | @negative depth value negative fits =>
    obtain ⟨inner, read⟩ := shape depth
    rw [read, encode, if_neg (by omega)]
    exact readValue_negative negative fits rest
  | @text depth value fits =>
    obtain ⟨inner, read⟩ := shape depth
    rw [read, encode]
    exact readValue_text fits rest
  | list fits each ih =>
    rw [encode, List.append_assoc]
    exact readValue_list fits ih rest

/-- A storable document is the value that its bytes begin with. -/
theorem decode?_encode {document : Document} (storable : Storable nestingLimit document) :
    decode? (encode document) = some document := by
  -- Nothing follows the bytes, so the rest is empty.
  have read := decode_encode storable []
  rw [List.append_nil] at read
  rw [decode?, read]
  rfl

end MessagePack

end EventFeed
