import EventFeed.Proofs.Checksum
import EventFeed.Proofs.SubscriptionFile
import Mathlib.Data.List.Induction

/-! Files that were cut off or damaged: none of them is read as subscriptions. -/

namespace EventFeed

/-- Numbers of equally many bytes are the same only when their bytes are. -/
theorem ofBigEndian_injective {former latter : List UInt8} (length : former.length = latter.length)
    (same : ofBigEndian former = ofBigEndian latter) : former = latter := by
  -- The last byte is the rest of a division by 256.
  induction former using List.reverseRecOn generalizing latter with
  | nil => exact (List.length_eq_zero_iff.mp length.symm).symm
  | append_singleton front byte ih =>
    rcases List.eq_nil_or_concat latter with rfl | ⟨others, last, rfl⟩
    · simp at length
    · rw [List.concat_eq_append] at length same ⊢
      rw [ofBigEndian_append, ofBigEndian_append] at same
      have small := byte.toNat_lt
      have little := last.toNat_lt
      rw [ih (by simpa using length) (by omega), UInt8.toNat_inj.mp (by omega : byte.toNat = last.toNat)]

/-- A number takes no more bytes than it is read from. -/
theorem ofBigEndian_lt (bytes : List UInt8) : ofBigEndian bytes < 256 ^ bytes.length := by
  -- The last byte counts least, so the number is taken apart from there.
  induction bytes using List.reverseRecOn with
  | nil => simp [ofBigEndian]
  | append_singleton front byte ih =>
    have small := byte.toNat_lt
    rw [ofBigEndian_append, List.length_append, List.length_singleton, Nat.pow_succ]
    omega

namespace FileFormat

@[simp] theorem length_littleEndian (count value : Nat) : (littleEndian count value).length = count := by
  rw [littleEndian, List.length_reverse, length_bigEndian]

@[simp] theorem length_magic : magic.length = 4 := rfl

/-- Checksums of different bytes are different. -/
theorem toUInt32_ofLittleEndian_injective {former latter : List UInt8} (four : former.length = 4)
    (same : former.length = latter.length)
    (equal : (ofLittleEndian former).toUInt32 = (ofLittleEndian latter).toUInt32) : former = latter := by
  -- Four bytes are no more than a checksum holds, so none of them is cut off.
  have small : ∀ bytes : List UInt8, bytes.length = 4 → ofLittleEndian bytes < UInt32.size := by
    intro bytes wide
    have bound := ofBigEndian_lt bytes.reverse
    rw [List.length_reverse, wide] at bound
    exact bound
  have numbers := congrArg UInt32.toNat equal
  rw [Nat.toUInt32_eq, Nat.toUInt32_eq, UInt32.toNat_ofNat_of_lt' (small _ four),
    UInt32.toNat_ofNat_of_lt' (small _ (same ▸ four))] at numbers
  exact List.reverse_injective (ofBigEndian_injective (by simpa using same) numbers)

/-- The bytes of a file, from its parts. -/
def assemble (start : List UInt8) (number : UInt8) (length checksum body : List UInt8) : List UInt8 :=
  start ++ number :: (length ++ (checksum ++ body))

/-- What is written is a header and the payload behind it. -/
theorem encode_eq (subscriptions : List Subscription) :
    encode subscriptions = assemble magic version (littleEndian 8 (payload subscriptions).length)
      (littleEndian 4 (Checksum.ofBytes (payload subscriptions)).toNat) (payload subscriptions) := by
  simp [encode, assemble]

/-- What is read from a file with a whole header. -/
theorem decode_assemble {start length checksum : List UInt8} (four : start.length = 4)
    (eight : length.length = 8) (last : checksum.length = 4) (number : UInt8) (body : List UInt8) :
    decode (assemble start number length checksum body) =
      if start ≠ magic then .error (.invalidFormat "Invalid subscription file magic")
      else if number ≠ version then
        .error (.invalidFormat ("Unsupported subscription file version: " ++ toString number.toNat))
      else if body.length < ofLittleEndian length then
        .error (.invalidFormat
          ("Subscription payload length " ++ toString (ofLittleEndian length) ++ " exceeds file size"))
      else if Checksum.ofBytes (body.take (ofLittleEndian length)) ≠ (ofLittleEndian checksum).toUInt32 then
        .error (.checksumMismatch (ofLittleEndian checksum).toUInt32
          (Checksum.ofBytes (body.take (ofLittleEndian length))))
      else readPayload (body.take (ofLittleEndian length)) := by
  -- The parts are taken off in turn, and then each check is made or fails.
  have one : [number].length = 1 := rfl
  rw [assemble, ← List.singleton_append (l := length ++ (checksum ++ body))]
  simp only [decode, bind, Except.bind, next_append four, next_append one, next_append eight, next_append last]
  have single : ofBigEndian [number] = number.toNat := by simp [ofBigEndian]
  by_cases magical : start = magic <;> by_cases current : number = version <;>
    by_cases long : body.length < ofLittleEndian length <;>
    simp [magical, current, long, single, throw, throwThe, MonadExceptOf.throw]

/-- Bytes that are taken from the front leave the other ones. -/
theorem length_next {count : Nat} {bytes front rest : List UInt8} (taken : next count bytes = .ok (front, rest)) :
    bytes.length = count + rest.length := by
  -- Bytes are taken only where there are enough.
  unfold next takeBytes? at taken
  by_cases enough : count ≤ bytes.length
  · rw [if_pos enough] at taken
    obtain ⟨rfl, rfl⟩ := Prod.mk.inj (Except.ok.inj taken)
    rw [List.length_drop]
    omega
  · rw [if_neg enough] at taken
    cases taken

/-- A computation that ended well went well in its first step. -/
theorem exists_of_bind_ok {α β : Type} {step : Except EngineError α} {further : α → Except EngineError β}
    {result : β} (ended : step >>= further = .ok result) :
    ∃ value, step = .ok value ∧ further value = .ok result := by
  -- An error in the first step would have been the result.
  cases step with
  | error error => cases ended
  | ok value => exact ⟨value, rfl, ended⟩

/-- A file without a whole header is not read. -/
theorem decode_short {bytes : List UInt8} (short : bytes.length < headerLength) :
    ∃ error, decode bytes = .error error := by
  -- What is read has all four parts of the header.
  cases read : decode bytes with
  | error error => exact ⟨error, rfl⟩
  | ok rows =>
    obtain ⟨⟨start, rest⟩, first, read⟩ := exists_of_bind_ok read
    dsimp only at read
    split at read
    · cases read
    obtain ⟨⟨number, further⟩, second, read⟩ := exists_of_bind_ok read
    dsimp only at read
    split at read
    · cases read
    obtain ⟨⟨length, other⟩, third, read⟩ := exists_of_bind_ok read
    obtain ⟨⟨checksum, body⟩, fourth, -⟩ := exists_of_bind_ok read
    have := length_next first
    have := length_next second
    have := length_next third
    have : other.length = 4 + body.length := length_next fourth
    unfold headerLength at short
    omega

/-- The header has a fixed length. -/
theorem length_assemble {start length checksum : List UInt8} (four : start.length = 4) (eight : length.length = 8)
    (last : checksum.length = 4) (number : UInt8) (body : List UInt8) :
    (assemble start number length checksum body).length = headerLength + body.length := by
  -- Three of its parts have fixed lengths, and the version is one byte.
  simp only [assemble, headerLength, List.length_append, List.length_cons, four, eight, last]
  omega

/-- A file whose header counts more bytes than follow it is not read. -/
theorem decode_overlong {length checksum body : List UInt8} (eight : length.length = 8) (four : checksum.length = 4)
    (larger : body.length < ofLittleEndian length) :
    ∃ text, decode (assemble magic version length checksum body) = .error (.invalidFormat text) := by
  -- The magic number and the version are right, so the length is checked.
  rw [decode_assemble length_magic eight four, if_neg (by simp), if_neg (by simp), if_pos larger]
  exact ⟨_, rfl⟩

/-- What was cut off is not read. -/
theorem decode_cut {subscriptions : List Subscription} {front : List UInt8}
    (sized : (payload subscriptions).length < UInt64.size) (start : front <+: encode subscriptions)
    (shorter : front ≠ encode subscriptions) : ∃ error, decode front = .error error := by
  -- The cut goes through the header, or through the payload behind it.
  rw [encode_eq] at start shorter
  have less : front.length < headerLength + (payload subscriptions).length := by
    rw [← length_assemble length_magic (length_littleEndian 8 _) (length_littleEndian 4 _)]
    exact Nat.lt_of_le_of_ne start.length_le fun same => shorter (start.eq_of_length same)
  by_cases short : front.length < headerLength
  · exact decode_short short
  -- The header is whole, and counts more bytes than follow it.
  obtain ⟨body, rfl⟩ : ∃ body, front = assemble magic version (littleEndian 8 (payload subscriptions).length)
      (littleEndian 4 (Checksum.ofBytes (payload subscriptions)).toNat) body := by
    have whole := length_assemble length_magic (length_littleEndian 8 (payload subscriptions).length)
      (length_littleEndian 4 (Checksum.ofBytes (payload subscriptions)).toNat) version []
    obtain ⟨body, rfl⟩ : assemble magic version (littleEndian 8 (payload subscriptions).length)
        (littleEndian 4 (Checksum.ofBytes (payload subscriptions)).toNat) [] <+: front := by
      refine List.prefix_of_prefix_length_le ?_ start (whole ▸ Nat.not_lt.mp short)
      simp [assemble]
    exact ⟨body, by simp [assemble]⟩
  rw [length_assemble length_magic (by simp) (by simp)] at less
  have larger : body.length < ofLittleEndian (littleEndian 8 (payload subscriptions).length) := by
    rw [ofLittleEndian_littleEndian sized]
    omega
  obtain ⟨text, wrong⟩ := decode_overlong (length_littleEndian 8 _)
    (length_littleEndian 4 (Checksum.ofBytes (payload subscriptions)).toNat) larger
  exact ⟨_, wrong⟩

/-- A file whose length was enlarged is not read. -/
theorem decode_enlarged {subscriptions : List Subscription} {length : List UInt8}
    (sized : (payload subscriptions).length < UInt64.size) (eight : length.length = 8)
    (larger : ofLittleEndian (((encode subscriptions).drop 5).take 8) < ofLittleEndian length) :
    ∃ text, decode ((encode subscriptions).take 5 ++ length ++ (encode subscriptions).drop 13) =
      .error (.invalidFormat text) := by
  -- The other parts are as they were, so the length is what is found wrong.
  rw [encode_eq] at larger ⊢
  have before : ofLittleEndian (littleEndian 8 (payload subscriptions).length) < ofLittleEndian length := by
    simpa [assemble, magic] using larger
  rw [ofLittleEndian_littleEndian sized] at before
  obtain ⟨text, wrong⟩ := decode_overlong eight
    (length_littleEndian 4 (Checksum.ofBytes (payload subscriptions)).toNat) before
  exact ⟨text, by simpa [assemble, magic] using wrong⟩

/-- A file in which the magic number or the version was changed is not read. -/
theorem decode_mistaken {subscriptions : List Subscription} {index : Nat} {byte : UInt8} (front : index < 5)
    (changed : (encode subscriptions).set index byte ≠ encode subscriptions) :
    ∃ text, decode ((encode subscriptions).set index byte) = .error (.invalidFormat text) := by
  -- The byte that was changed is one of the magic number, or the version.
  rw [encode_eq] at changed ⊢
  rcases Nat.lt_or_ge index 4 with early | late
  · have parts (length checksum body : List UInt8) : (assemble magic version length checksum body).set index byte =
        assemble (magic.set index byte) version length checksum body := by
      rw [assemble, List.set_append, if_pos (by simpa using early), assemble]
    rw [parts] at changed ⊢
    have mistaken : magic.set index byte ≠ magic := fun same => changed (by rw [same])
    rw [decode_assemble (by simp) (by simp) (by simp), if_pos mistaken]
    exact ⟨_, rfl⟩
  · obtain rfl : index = 4 := by omega
    have parts (length checksum body : List UInt8) : (assemble magic version length checksum body).set 4 byte =
        assemble magic byte length checksum body := rfl
    rw [parts] at changed ⊢
    have mistaken : byte ≠ version := fun same => changed (by rw [same])
    rw [decode_assemble length_magic (by simp) (by simp), if_neg (by simp), if_pos mistaken]
    exact ⟨_, rfl⟩

/-- A file whose payload does not have the checksum that the header names is not read. -/
theorem decode_wrong {checksum body : List UInt8} (four : checksum.length = 4) (sized : body.length < UInt64.size)
    (wrong : Checksum.ofBytes body ≠ (ofLittleEndian checksum).toUInt32) :
    ∃ expected got, decode (assemble magic version (littleEndian 8 body.length) checksum body) =
      .error (.checksumMismatch expected got) := by
  -- The checks before the one of the checksum are passed.
  rw [decode_assemble length_magic (by simp) four, ofLittleEndian_littleEndian sized, List.take_length,
    if_neg (by simp), if_neg (by simp), if_neg (by simp), if_pos wrong]
  exact ⟨_, _, rfl⟩

/-- Behind the first thirteen bytes, a changed byte is one of the checksum or of the payload. -/
theorem set_assemble {start length checksum : List UInt8} (four : start.length = 4) (eight : length.length = 8)
    (number : UInt8) (body : List UInt8) (index : Nat) (byte : UInt8) :
    (assemble start number length checksum body).set (13 + index) byte =
      start ++ number :: (length ++ (checksum ++ body).set index byte) := by
  -- The first thirteen bytes are the magic number, the version and the length.
  have first : 13 + index - start.length = 8 + index + 1 := by omega
  have second : 8 + index - length.length = index := by omega
  rw [assemble, List.set_append_right _ _ (by omega), first, List.set_cons_succ,
    List.set_append_right _ _ (by omega), second]

/-- A file in which the checksum or the payload was changed does not have the checksum it names. -/
theorem decode_mismatched {subscriptions : List Subscription} {index : Nat} {byte : UInt8}
    (sized : (payload subscriptions).length < UInt64.size) (behind : 13 ≤ index)
    (changed : (encode subscriptions).set index byte ≠ encode subscriptions) :
    ∃ expected got, decode ((encode subscriptions).set index byte) = .error (.checksumMismatch expected got) := by
  -- The number that the header names is the checksum of the payload as it was.
  obtain ⟨index, rfl⟩ := Nat.exists_eq_add_of_le behind
  have named : (ofLittleEndian (littleEndian 4 (Checksum.ofBytes (payload subscriptions)).toNat)).toUInt32 =
      Checksum.ofBytes (payload subscriptions) := by
    rw [ofLittleEndian_littleEndian (Checksum.ofBytes (payload subscriptions)).toNat_lt]
    exact UInt32.ofNat_toNat
  rw [encode_eq, set_assemble length_magic (by simp)] at changed ⊢
  generalize payload subscriptions = body at sized named changed ⊢
  generalize four : littleEndian 4 (Checksum.ofBytes body).toNat = checksum at named changed ⊢
  have wide : checksum.length = 4 := by rw [← four, length_littleEndian]
  rw [List.set_append] at changed ⊢
  split at changed
  · -- The checksum is another one, and the payload still has the one it had.
    rename_i early
    rw [if_pos early]
    refine decode_wrong (by simpa using wide) sized fun same => changed ?_
    have kept : checksum = checksum.set index byte :=
      toUInt32_ofLittleEndian_injective wide (by simp) (named.trans same)
    rw [← kept, assemble]
  · -- The payload is another one, and so is its checksum.
    rename_i late
    rw [if_neg late]
    have other : body.set (index - checksum.length) byte ≠ body := fun same => changed (by rw [same, assemble])
    have wrong := Checksum.ofBytes_set_ne other
    rw [← named] at wrong
    simpa [assemble] using decode_wrong wide (by simpa using sized) wrong

end FileFormat

/-- The disk with other bytes in the file. -/
def Disk.holding (disk : Disk) (bytes : List UInt8) : Disk := { disk with contents := .file bytes }

namespace FileFormat

/-- Once subscriptions, whose length in bytes has 64 bits, were written, the file is not read as anything when it
was cut off anywhere, when one byte of its magic number, version, checksum or payload is another one, or when its
length is a larger one. -/
theorem damage_detected {subscriptions : List Subscription} {disk after : Disk} {bytes : List UInt8}
    (sized : (payload subscriptions).length < UInt64.size) (wrote : disk.write subscriptions = (.ok (), after))
    (stored : after.bytes? = some bytes) :
    (∀ front, front <+: bytes → front ≠ bytes → ∃ error, (after.holding front).read = .error error) ∧
      (∀ index byte, (present : index < bytes.length) → byte ≠ bytes[index] →
        (index < 5 → ∃ text, (after.holding (bytes.set index byte)).read = .error (.invalidFormat text)) ∧
          (13 ≤ index → ∃ expected got,
            (after.holding (bytes.set index byte)).read = .error (.checksumMismatch expected got))) ∧
      ∀ length : List UInt8, length.length = 8 → ofLittleEndian ((bytes.drop 5).take 8) < ofLittleEndian length →
        ∃ text, (after.holding (bytes.take 5 ++ length ++ bytes.drop 13)).read = .error (.invalidFormat text) := by
  -- Only a folder that is there is written to, and then the file holds what was written.
  obtain ⟨present, holds⟩ : after.folder = .present ∧ after.contents = .file (encode subscriptions) := by
    obtain ⟨folder, contents, lockFile, held⟩ := disk
    cases folder <;> cases contents <;> cases wrote <;> exact ⟨rfl, rfl⟩
  obtain rfl : encode subscriptions = bytes := by simpa [Disk.bytes?, present, holds] using stored
  have reads (damaged : List UInt8) : (after.holding damaged).read = decode damaged := by
    simp [Disk.read, Disk.holding, present]
  simp only [reads]
  refine ⟨fun front start shorter => decode_cut sized start shorter, fun index byte present other => ?_,
    fun length eight larger => decode_enlarged sized eight larger⟩
  have changed : (encode subscriptions).set index byte ≠ encode subscriptions := by
    intro same
    have own : ((encode subscriptions).set index byte)[index]? = some byte := by simp [present]
    rw [same, List.getElem?_eq_getElem present] at own
    exact other (Option.some.inj own).symm
  exact ⟨fun front => decode_mistaken front changed, fun behind => decode_mismatched sized behind changed⟩

/-- Nothing is read from the file of the sample once it is damaged. -/
theorem sample_damage_detected :
    (payload sample).length < UInt64.size ∧
      (∀ front, front <+: encode sample → front ≠ encode sample →
        ∃ error, (Disk.holding { folder := .present } front).read = .error error) ∧
      ∀ index byte, (present : index < (encode sample).length) → byte ≠ (encode sample)[index] → 13 ≤ index →
        ∃ expected got, (Disk.holding { folder := .present } ((encode sample).set index byte)).read =
          .error (.checksumMismatch expected got) := by
  have wrote : Disk.write sample { folder := .present } =
      (.ok (), Disk.holding { folder := .present } (encode sample)) := rfl
  obtain ⟨cut, changed, -⟩ := damage_detected sample_writable.bytes wrote rfl
  exact ⟨sample_writable.bytes, cut, fun index byte present other => (changed index byte present other).2⟩

end FileFormat

end EventFeed
