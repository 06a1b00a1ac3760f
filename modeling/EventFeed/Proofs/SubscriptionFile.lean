import EventFeed.Proofs.MessagePack
import EventFeed.Store.Disk

/-! Files of subscriptions: whatever is written to one is read back from it, and no two lists of
subscriptions are written as the same bytes. -/

namespace EventFeed

open MessagePack (Storable)

namespace Document

/-- An optional value is storable when each value is. -/
theorem storable_ofOption {α : Type} {write : α → Document} {depth : Nat} {option : Option α}
    (each : ∀ value, option = some value → Storable depth (write value)) :
    Storable depth (ofOption write option) := by
  -- Nothing is written as null.
  cases option with
  | none => exact .null
  | some value => exact each value rfl

/-- A document that is not null is read for an optional value. -/
theorem optional_some {α : Type} {read : Document → Option α} {document : Document} {value : α}
    (something : document ≠ .null) (same : read document = some value) :
    optional read (some document) = some (some value) := by
  -- Only null stands for nothing.
  cases document with
  | null => exact absurd rfl something
  | _ => simp [optional, same]

/-- An optional value is read back, when each value is and none is written as nothing. -/
theorem optional_ofOption {α : Type} {write : α → Document} {read : Document → Option α} {option : Option α}
    (inverse : ∀ value, option = some value → read (write value) = some value)
    (something : ∀ value, write value ≠ .null) : optional read (some (ofOption write option)) = some option := by
  -- Nothing is written as null, and something never is.
  cases option with
  | none => rfl
  | some value => exact optional_some (something value) (inverse value rfl)

/-- An optional text is read back. -/
@[simp] theorem optional_text (option : Option String) :
    optional text? (some (ofOption .text option)) = some option :=
  optional_ofOption (fun _ _ => rfl) fun _ => Document.noConfusion

end Document

/-- Whether the length of a text, in bytes, has 32 bits. -/
def Sizable (text : String) : Prop := text.utf8ByteSize < UInt32.size

instance (text : String) : Decidable (Sizable text) :=
  inferInstanceAs (Decidable (text.utf8ByteSize < UInt32.size))

/-- Texts of one error of a chain that can be written. -/
structure ErrorLevel.Writable (level : ErrorLevel) : Prop where
  message : Sizable level.message
  code : ∀ text, level.code = some text → Sizable text
  location : ∀ text, level.location = some text → Sizable text
  trace : ∀ text, level.trace = some text → Sizable text

/-- A status is stored as its name. -/
theorem Status.storable_toDocument (status : Status) (depth : Nat) : Storable depth status.toDocument := by
  cases status <;> exact .text (by decide)

/-- A status is read back from its name. -/
@[simp] theorem Status.ofDocument?_toDocument (status : Status) : ofDocument? status.toDocument = some status := by
  cases status <;> decide

/-- A run mode is stored as its name. -/
theorem RunMode.storable_toDocument (mode : RunMode) (depth : Nat) : Storable depth mode.toDocument := by
  cases mode <;> exact .text (by decide)

/-- A run mode is read back from its name. -/
@[simp] theorem RunMode.ofDocument?_toDocument (mode : RunMode) : ofDocument? mode.toDocument = some mode := by
  cases mode <;> decide

namespace CapturedError

/-- A captured error that can be written: its texts can, and its chain is within the depth that can be
read, in a failure in a subscription in a list. -/
structure Writable (error : CapturedError) : Prop where
  levels : ∀ level ∈ error.chain, level.Writable
  nesting : error.chain.length + 3 ≤ MessagePack.nestingLimit

/-- The fields of one level are storable at every depth. -/
theorem storable_levelFields {level : ErrorLevel} (writable : level.Writable) (depth : Nat) :
    ∀ item ∈ (levelFields level).map Prod.snd, Storable depth item := by
  -- A level has one text, and three that may be missing.
  obtain ⟨message, code, location, trace⟩ := writable
  simp only [levelFields, List.map_cons, List.map_nil, List.forall_mem_cons, List.not_mem_nil, false_implies,
    implies_true, and_true]
  exact ⟨.text message, Document.storable_ofOption fun text own => .text (code text own),
    Document.storable_ofOption fun text own => .text (location text own),
    Document.storable_ofOption fun text own => .text (trace text own)⟩

/-- A captured error is as deep as its chain is long. -/
theorem storable_toDocument {error : CapturedError} (levels : ∀ level ∈ error.chain, level.Writable) :
    Storable error.chain.length (error.toDocument .compact) := by
  -- Each cause stands in the last field of the error that it caused.
  induction error with
  | root level =>
    have fields := storable_levelFields (levels level (by simp [chain])) 0
    refine .list (by simp [levelFields, UInt32.size]) fun item member => ?_
    rw [List.map_append, List.mem_append] at member
    rcases member with own | last
    · exact fields item own
    · obtain rfl := List.mem_singleton.mp last
      exact .null
  | caused level cause ih =>
    have fields := storable_levelFields (levels level (by simp [chain])) cause.chain.length
    have inside := ih fun other member => levels other (by simp [chain, member])
    refine .list (by simp [levelFields, UInt32.size]) fun item member => ?_
    rw [List.map_append, List.mem_append] at member
    rcases member with own | last
    · exact fields item own
    · obtain rfl := List.mem_singleton.mp last
      exact inside

/-- A captured error is never written as nothing. -/
theorem toDocument_ne_null (error : CapturedError) : error.toDocument .compact ≠ .null := by
  cases error <;> exact Document.noConfusion

/-- A captured error is read back at any depth that its chain fits. -/
theorem ofDepth?_toDocument {error : CapturedError} {depth : Nat} (room : error.chain.length ≤ depth) :
    ofDepth? depth (error.toDocument .compact) = some error := by
  -- Each cause is read at one depth less than the error that it caused.
  induction error generalizing depth with
  | root level =>
    obtain ⟨depth, rfl⟩ : ∃ less, depth = less + 1 := ⟨depth - 1, by simp [chain] at room; omega⟩
    simp [ofDepth?, toDocument, Document.record, levelFields, Document.fields?, fieldNames, Document.required,
      Document.text?]
    rfl
  | caused level cause ih =>
    obtain ⟨depth, rfl⟩ : ∃ less, depth = less + 1 := ⟨depth - 1, by simp [chain] at room; omega⟩
    have inside := Document.optional_some (toDocument_ne_null cause) (ih (by simpa [chain] using room))
    simp [ofDepth?, toDocument, Document.record, levelFields, Document.fields?, fieldNames, Document.required,
      Document.text?, inside]

/-- A captured error is read back from its document. -/
theorem ofDocument?_toDocument (error : CapturedError) :
    ofDocument? (error.toDocument .compact) = some error := by
  -- The document is as deep as the chain is long.
  refine ofDepth?_toDocument ?_
  induction error with
  | root level => simp [chain, toDocument, Document.record, Document.depth]
  | caused level cause ih =>
    have last : (cause.toDocument .compact).depth ≤
        Document.depthOfItems ((levelFields level ++ [("cause", cause.toDocument .compact)]).map Prod.snd) := by
      simp only [levelFields, List.map_cons, List.map_nil, List.cons_append, List.nil_append,
        Document.depthOfItems]
      omega
    simp only [chain, toDocument, Document.record, Document.depth, List.length_cons]
    omega

end CapturedError

namespace SubscriptionError

/-- A kept failure that can be written. -/
structure Writable (error : SubscriptionError) : Prop where
  message : Sizable error.message
  context : ∀ context, error.context = some context → context.Writable

/-- A kept failure is one level deeper than what it captures. -/
theorem storable_deeper {error : SubscriptionError} {depth : Nat} (message : Sizable error.message)
    (context : ∀ context, error.context = some context → Storable depth (context.toDocument .compact)) :
    Storable (depth + 1) (error.toDocument .compact) := by
  -- The failure is a list of three items, and only the last one can be nested.
  have captured : Storable depth (.ofOption (CapturedError.toDocument .compact) error.context) :=
    Document.storable_ofOption context
  refine .list (by simp [UInt32.size]) fun item member => ?_
  simp only [List.map_cons, List.map_nil, List.mem_cons, List.not_mem_nil, or_false] at member
  rcases member with rfl | rfl | rfl
  · exact .text message
  · exact error.previous.storable_toDocument _
  · exact captured

/-- A kept failure that can be written is within the depth for it. -/
theorem storable_toDocument {error : SubscriptionError} (writable : error.Writable) :
    Storable (MessagePack.nestingLimit - 2) (error.toDocument .compact) := by
  -- What it captures may be nested as deep as one level less allows.
  refine (storable_deeper writable.message fun captured own => ?_ : Storable (MessagePack.nestingLimit - 3 + 1) _)
  obtain ⟨levels, nesting⟩ := writable.context captured own
  exact (CapturedError.storable_toDocument levels).deeper (by omega)

/-- A kept failure is read back from its document. -/
theorem ofDocument?_toDocument (error : SubscriptionError) :
    ofDocument? (error.toDocument .compact) = some error := by
  -- Its fields are read one by one, and only the last one may be missing.
  have context : Document.optional CapturedError.ofDocument?
      (some (.ofOption (CapturedError.toDocument .compact) error.context)) = some error.context :=
    Document.optional_ofOption (fun captured _ => captured.ofDocument?_toDocument)
      CapturedError.toDocument_ne_null
  simp [ofDocument?, toDocument, Document.record, Document.fields?, fieldNames, Document.required,
    Document.text?, context]

end SubscriptionError

namespace Subscription

/-- A subscription that can be written: its position has 64 bits and its retries 32. -/
structure Writable (row : Subscription) : Prop where
  id : Sizable row.id
  group : Sizable row.group
  position : row.position < UInt64.size
  retryAttempt : row.retryAttempt < UInt32.size
  error : ∀ error, row.error = some error → error.Writable

/-- A point in time is stored as a number of 64 bits. -/
theorem storable_timestampDocument (point : Timestamp) (depth : Nat) :
    Storable depth (timestampDocument point) := by
  -- The sign decides how it is written, and each way has its bound.
  have high : point.micros.toInt < 0x8000000000000000 := point.micros.toInt_lt
  unfold timestampDocument Document.ofInt
  split
  · have fits : point.micros.toInt.toNat < 0x10000000000000000 := by omega
    exact .natural fits
  · exact .negative (by omega) point.micros.minValue_le_toInt

/-- A point in time is read back from its number. -/
theorem timestamp?_timestampDocument (point : Timestamp) :
    timestamp? (timestampDocument point) = some point := by
  -- The sign decides how it is written, and either way it is read as the same number.
  have low := point.micros.minValue_le_toInt
  have high := point.micros.toInt_le
  unfold timestampDocument Document.ofInt
  split
  · rename_i positive
    simp only [timestamp?, Document.int64?, Int.toNat_of_nonneg positive, high, if_true, Int64.ofInt_toInt,
      Option.map_some]
  · simp only [timestamp?, Document.int64?, low, high, and_self, if_true, Int64.ofInt_toInt, Option.map_some]

/-- A number is never written as nothing. -/
theorem timestampDocument_ne_null (point : Timestamp) : timestampDocument point ≠ .null := by
  -- Either sign gives a number.
  unfold timestampDocument Document.ofInt
  split <;> exact Document.noConfusion

/-- A subscription is one level deeper than its failure. -/
theorem storable_deeper {row : Subscription} {depth : Nat} (id : Sizable row.id) (group : Sizable row.group)
    (position : row.position < UInt64.size) (retryAttempt : row.retryAttempt < UInt32.size)
    (error : ∀ error, row.error = some error → Storable depth (error.toDocument .compact)) :
    Storable (depth + 1) (row.toDocument .compact) := by
  -- The row is a list of eight items, and only the failure can be nested.
  have retries : row.retryAttempt < UInt64.size := Nat.lt_trans retryAttempt (by decide)
  refine .list (by simp [UInt32.size]) fun item member => ?_
  simp only [List.map_cons, List.map_nil, List.mem_cons, List.not_mem_nil, or_false] at member
  rcases member with rfl | rfl | rfl | rfl | rfl | rfl | rfl | rfl
  · exact .text id
  · exact .text group
  · exact row.runMode.storable_toDocument _
  · exact row.status.storable_toDocument _
  · exact .natural position
  · exact Document.storable_ofOption error
  · exact .natural retries
  · exact Document.storable_ofOption fun point _ => storable_timestampDocument point _

/-- A subscription that can be written is within the depth for it. -/
theorem storable_toDocument {row : Subscription} (writable : row.Writable) :
    Storable (MessagePack.nestingLimit - 1) (row.toDocument .compact) :=
  storable_deeper writable.id writable.group writable.position writable.retryAttempt
    fun failure own => SubscriptionError.storable_toDocument (writable.error failure own)

/-- A subscription whose numbers fit is read back from its document. -/
theorem ofDocument?_toDocument {row : Subscription} (position : row.position < UInt64.size)
    (retryAttempt : row.retryAttempt < UInt32.size) : ofDocument? (row.toDocument .compact) = some row := by
  -- Its fields are read one by one; the failure and the stamp may be missing.
  have error : Document.optional SubscriptionError.ofDocument?
      (some (.ofOption (SubscriptionError.toDocument .compact) row.error)) = some row.error :=
    Document.optional_ofOption (fun failure _ => failure.ofDocument?_toDocument)
      fun _ => Document.noConfusion
  have saved : Document.optional timestamp? (some (.ofOption timestampDocument row.lastSavedAt)) =
      some row.lastSavedAt :=
    Document.optional_ofOption (fun point _ => timestamp?_timestampDocument point) timestampDocument_ne_null
  simp [ofDocument?, toDocument, Document.record, Document.fields?, fieldNames, Document.required,
    Document.text?, Document.naturalBelow?, position, retryAttempt, error, saved]

end Subscription

namespace FileFormat

/-- Subscriptions that can be written to one file: each of them can, and both the length of the list and
that of its bytes can be counted. -/
structure Writable (subscriptions : List Subscription) : Prop where
  rows : ∀ row ∈ subscriptions, row.Writable
  count : subscriptions.length < UInt32.size
  bytes : (payload subscriptions).length < UInt64.size

/-- Bytes in front are read off. -/
theorem next_append {count : Nat} {front : List UInt8} (length : front.length = count) (rest : List UInt8) :
    next count (front ++ rest) = .ok (front, rest) := by
  rw [next, takeBytes?_append length]

/-- A number that fits its bytes is read back from them, the least significant one first. -/
theorem ofLittleEndian_littleEndian {count value : Nat} (fits : value < 256 ^ count) :
    ofLittleEndian (littleEndian count value) = value := by
  rw [ofLittleEndian, littleEndian, List.reverse_reverse, ofBigEndian_bigEndian fits]

/-- A list of subscriptions is read back from its bytes. -/
theorem readPayload_payload {subscriptions : List Subscription} (writable : Writable subscriptions) :
    readPayload (payload subscriptions) = .ok subscriptions := by
  obtain ⟨rows, count, -⟩ := writable
  -- The list is one level deeper than its subscriptions.
  have storable : Storable MessagePack.nestingLimit
      (.list (subscriptions.map (Subscription.toDocument .compact))) := by
    refine .list (by simpa using count) fun item member => ?_
    obtain ⟨row, present, rfl⟩ := List.mem_map.mp member
    exact Subscription.storable_toDocument (rows row present)
  have read : (subscriptions.map (Subscription.toDocument .compact)).mapM Subscription.ofDocument? =
      some subscriptions := by
    clear count storable
    induction subscriptions with
    | nil => rfl
    | cons row rest ih =>
      have own := rows row (by simp)
      have others := ih fun other member => rows other (by simp [member])
      simp [Subscription.ofDocument?_toDocument own.position own.retryAttempt, others]
  rw [readPayload, payload, MessagePack.decode?_encode storable, Option.bind_some, Document.items?, read]

/-- The payload of a file is read behind its header. -/
theorem decode_encode_payload {subscriptions : List Subscription}
    (bytes : (payload subscriptions).length < UInt64.size) :
    decode (encode subscriptions) = readPayload (payload subscriptions) := by
  -- The header has four parts of known widths, and each is split off in turn.
  have length : ofLittleEndian (littleEndian 8 (payload subscriptions).length) = (payload subscriptions).length :=
    ofLittleEndian_littleEndian bytes
  have checksum : ofLittleEndian (littleEndian 4 (Checksum.ofBytes (payload subscriptions)).toNat) =
      (Checksum.ofBytes (payload subscriptions)).toNat :=
    ofLittleEndian_littleEndian (Checksum.ofBytes (payload subscriptions)).toNat_lt
  have wide (count value : Nat) : (littleEndian count value).length = count := by
    rw [littleEndian, List.length_reverse, length_bigEndian]
  have magicWide : magic.length = 4 := rfl
  have versionWide : [version].length = 1 := rfl
  simp only [decode, encode, List.append_assoc, bind, Except.bind, next_append magicWide, next_append versionWide,
    next_append (wide 8 _), next_append (wide 4 _), length, checksum]
  simp

/-- What is written to a file is read back from it. -/
theorem decode_encode {subscriptions : List Subscription} (writable : Writable subscriptions) :
    decode (encode subscriptions) = .ok subscriptions := by
  rw [decode_encode_payload writable.bytes, readPayload_payload writable]

/-- A list of subscriptions is read back from the file it is written to, in the same order, and no other list
is written as the same bytes. -/
theorem lossless {subscriptions : List Subscription} (writable : Writable subscriptions) :
    decode (encode subscriptions) = .ok subscriptions ∧
      (∀ disk : Disk, disk.folder = .present → disk.contents ≠ .folder →
        (disk.write subscriptions).1 = .ok () ∧ (disk.write subscriptions).2.read = .ok subscriptions) ∧
      ∀ others, Writable others → encode others = encode subscriptions → others = subscriptions := by
  -- What is read back determines what was written.
  refine ⟨decode_encode writable, fun disk present own => ?_, fun others fine same => ?_⟩
  · obtain ⟨folder, contents, lockFile, held⟩ := disk
    obtain rfl : folder = .present := present
    cases contents with
    | folder => exact absurd rfl own
    | absent => exact ⟨rfl, decode_encode writable⟩
    | file bytes => exact ⟨rfl, decode_encode writable⟩
  · have both : (.ok others : Except EngineError (List Subscription)) = .ok subscriptions := by
      rw [← decode_encode fine, same, decode_encode writable]
    exact Except.ok.inj both

/-- Two subscriptions, one of them stopped on a failure that another one caused. -/
def sample : List Subscription :=
  [{ id := "mail", status := .error, position := 300, retryAttempt := 2, lastSavedAt := some ⟨-1⟩,
      error := some {
        message := "no answer", previous := .booting,
        context := some (.caused
          { message := "no answer", code := some "504", location := none, trace := none }
          (.root { message := "timed out", code := none, location := some "link.rs:7", trace := none })) } },
    { id := "audit", group := "slow", runMode := .once, status := .finished, position := 70000 }]

/-- The sample can be written. -/
theorem sample_writable : Writable sample := by
  -- The bounds are computed, field by field.
  refine ⟨?_, by decide, by decide +kernel⟩
  simp only [sample, List.forall_mem_cons, List.not_mem_nil, false_implies, implies_true, and_true]
  refine ⟨⟨by decide, by decide, by decide, by decide, ?_⟩, ⟨by decide, by decide, by decide, by decide, ?_⟩⟩
  · rintro error ⟨⟩
    refine ⟨by decide, ?_⟩
    rintro context ⟨⟩
    refine ⟨?_, by decide⟩
    simp only [CapturedError.chain, List.forall_mem_cons, List.not_mem_nil, false_implies, implies_true, and_true]
    -- A text that is there is one of the few texts of the chain.
    exact ⟨⟨by decide, by rintro text ⟨⟩; decide, by rintro text ⟨⟩, by rintro text ⟨⟩⟩,
      ⟨by decide, by rintro text ⟨⟩, by rintro text ⟨⟩; decide, by rintro text ⟨⟩⟩⟩
  · rintro error ⟨⟩

/-- The sample is read back, and no other list has its file. -/
theorem sample_lossless :
    Writable sample ∧ decode (encode sample) = .ok sample ∧
      (∀ disk : Disk, disk.folder = .present → disk.contents ≠ .folder →
        (disk.write sample).1 = .ok () ∧ (disk.write sample).2.read = .ok sample) ∧
      ∀ others, Writable others → encode others = encode sample → others = sample :=
  ⟨sample_writable, lossless sample_writable⟩

end FileFormat

end EventFeed
