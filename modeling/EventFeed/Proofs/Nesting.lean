import EventFeed.Proofs.SubscriptionFile

/-! Nesting: a document is decoded exactly up to the depth of its lists. A failure with too long a chain of causes can
be written, but not be read again, nor can any other subscription in its file. -/

namespace EventFeed

open MessagePack (Storable)

namespace Document

/-- A list is one level deeper than its deepest item. -/
theorem depth_list {items : List Document} : (list items).depth = depthOfItems items + 1 := by
  rw [depth]

/-- A list is within a depth when all its items are. -/
theorem depthOfItems_le_iff {items : List Document} {room : Nat} :
    depthOfItems items ≤ room ↔ ∀ item ∈ items, item.depth ≤ room := by
  -- The depth of the items is the greatest of theirs.
  induction items with
  | nil => simp [depthOfItems]
  | cons item rest ih => rw [depthOfItems, Nat.max_le, List.forall_mem_cons, ih]

/-- An item is within the depth of its list. -/
theorem depth_lt_of_mem {items : List Document} {item : Document} (member : item ∈ items) :
    item.depth < (list items).depth := by
  -- A list is one deeper than the deepest of its items.
  rw [depth_list, Nat.lt_succ_iff]
  exact depthOfItems_le_iff.mp (Nat.le_refl _) item member

end Document

namespace MessagePack

/-- A storable document may stand wherever there is room for its lists. -/
theorem Storable.shallow {room depth : Nat} {document : Document} (storable : Storable room document)
    (fits : document.depth ≤ depth) : Storable depth document := by
  -- By induction on the document: a list leaves the room less one to its items.
  induction storable generalizing depth with
  | null => exact .null
  | natural bounded => exact .natural bounded
  | negative negative bounded => exact .negative negative bounded
  | text bounded => exact .text bounded
  | list bounded _ ih =>
    rw [Document.depth_list] at fits
    obtain ⟨depth, rfl⟩ : ∃ less, depth = less + 1 := ⟨depth - 1, by omega⟩
    have inside := Document.depthOfItems_le_iff.mp (Nat.le_of_succ_le_succ fits)
    exact .list bounded fun item member => ih item member (inside item member)

/-- Items one of which is too deep are not read. -/
theorem readItems_deep {depth room : Nat} {items : List Document} (storable : ∀ item ∈ items, Storable room item)
    (fails : ∀ item ∈ items, depth < item.depth → ∀ rest, decode depth (encode item ++ rest) = none)
    (deep : depth < Document.depthOfItems items) (rest : List UInt8) :
    readItems (decode depth) items.length (encodeItems items ++ rest) = none := by
  -- The first item that is too deep ends the reading, and those in front of it are read.
  induction items with
  | nil => cases deep
  | cons item others ih =>
    rw [encodeItems, List.append_assoc, List.length_cons, readItems]
    by_cases own : depth < item.depth
    · rw [fails item (by simp) own]
      rfl
    · simp only [Document.depthOfItems] at deep
      have lost := ih (fun other member => storable other (by simp [member]))
        (fun other member => fails other (by simp [member])) (by omega)
      have shallow : Storable depth item := (storable item (by simp)).shallow (by omega)
      simp [decode_encode shallow, lost]

/-- A document that is too deep is not decoded, whatever follows it. -/
theorem decode_deep {room depth : Nat} {document : Document} (storable : Storable room document)
    (deep : depth < document.depth) (rest : List UInt8) : decode depth (encode document ++ rest) = none := by
  -- By induction on the document: the room runs out at some list within it.
  induction storable generalizing depth rest with
  | null | natural | negative | text => simp [Document.depth] at deep
  | list bounded each ih =>
    rw [Document.depth_list] at deep
    rw [encode, List.append_assoc]
    cases depth with
    | zero => exact readValue_listHead bounded _
    | succ depth =>
      rw [decode, readValue_listHead bounded, Option.bind_some, readList,
        readItems_deep each (fun item member own => ih item member own) (by omega)]
      rfl

/-- A storable document is read back exactly when its lists are within the limit. -/
theorem decode?_encode_iff {room : Nat} {document : Document} (storable : Storable room document) :
    decode? (encode document) = some document ↔ document.depth ≤ nestingLimit := by
  -- Beyond the limit nothing is decoded, and up to it the document has room.
  constructor
  · intro read
    by_contra deep
    have lost := decode_deep storable (by omega : nestingLimit < document.depth) []
    rw [List.append_nil] at lost
    rw [decode?, lost] at read
    cases read
  · exact fun fits => decode?_encode (storable.shallow fits)

end MessagePack

/-- A captured error is exactly as deep as its chain is long. -/
theorem CapturedError.depth_toDocument (error : CapturedError) :
    (error.toDocument .compact).depth = error.chain.length := by
  -- The other fields of a level are no lists.
  have flat : ∀ option, (Document.ofOption Document.text option).depth = 0 := by
    intro option
    cases option <;> simp [Document.ofOption, Document.depth]
  induction error with
  | root level => simp [toDocument, Document.record, levelFields, Document.depth, Document.depthOfItems, flat, chain]
  | caused level cause ih =>
    simp [toDocument, Document.record, levelFields, Document.depth, Document.depthOfItems, flat, chain, ih]

namespace Subscription

/-- A subscription that could be written if there was room for a chain of so many errors. -/
structure Sized (row : Subscription) (links : Nat) : Prop where
  id : Sizable row.id
  group : Sizable row.group
  position : row.position < UInt64.size
  retryAttempt : row.retryAttempt < UInt32.size
  message : ∀ error, row.error = some error → Sizable error.message
  chain : ∀ error, row.error = some error → ∀ captured, error.context = some captured →
    (∀ level ∈ captured.chain, level.Writable) ∧ captured.chain.length ≤ links

variable {row : Subscription} {links : Nat}

/-- The chain of a subscription stands in two lists more. -/
theorem Sized.storable (sized : row.Sized links) : Storable (links + 2) (row.toDocument .compact) := by
  -- One list is the row, the other one is its error.
  refine storable_deeper sized.id sized.group sized.position sized.retryAttempt fun error own => ?_
  refine SubscriptionError.storable_deeper (sized.message error own) fun captured kept => ?_
  obtain ⟨levels, length⟩ := sized.chain error own captured kept
  exact (CapturedError.storable_toDocument levels).deeper length

/-- A subscription is deeper than the chain of its failure is long. -/
theorem chain_le_depth {error : SubscriptionError} {captured : CapturedError} (own : row.error = some error)
    (kept : error.context = some captured) : captured.chain.length + 2 ≤ (row.toDocument .compact).depth := by
  -- The chain is a list in the error, and the error is a list in the row.
  have inner : (captured.toDocument .compact).depth < (error.toDocument .compact).depth :=
    Document.depth_lt_of_mem (by simp [kept, Document.ofOption])
  have outer : (error.toDocument .compact).depth < (row.toDocument .compact).depth :=
    Document.depth_lt_of_mem (by simp [own, Document.ofOption])
  rw [captured.depth_toDocument] at inner
  omega

end Subscription

namespace FileFormat

variable {rows : List Subscription} {links : Nat}

/-- One chain that is too long makes a file unreadable, whatever the other subscriptions in it are. -/
theorem decode_deep (sized : ∀ row ∈ rows, row.Sized links) (count : rows.length < UInt32.size)
    (bytes : (payload rows).length < UInt64.size) {row : Subscription} (member : row ∈ rows) {error : SubscriptionError}
    (own : row.error = some error) {captured : CapturedError} (kept : error.context = some captured)
    (deep : MessagePack.nestingLimit < captured.chain.length + 3) : decode (encode rows) = .error .deserialization := by
  -- The file is read as one document, whose lists are too deep where the chain is.
  have storable : Storable (links + 3) (.list (rows.map (Subscription.toDocument .compact))) := by
    refine .list (by simpa using count) fun item present => ?_
    obtain ⟨other, stored, rfl⟩ := List.mem_map.mp present
    exact (sized other stored).storable
  have within := Document.depth_lt_of_mem (List.mem_map_of_mem (f := Subscription.toDocument .compact) member)
  have nested := Subscription.chain_le_depth own kept
  have lost := MessagePack.decode_deep storable (by omega : MessagePack.nestingLimit < _) []
  rw [List.append_nil] at lost
  rw [decode_encode_payload bytes, readPayload, payload, MessagePack.decode?, lost]
  rfl

end FileFormat

end EventFeed
