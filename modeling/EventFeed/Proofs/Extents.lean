import EventFeed.Proofs.Nesting
import Mathlib.Algebra.Order.BigOperators.Group.List
import Mathlib.Algebra.Order.Ring.Nat

/-! Extents: how many bytes documents take at most, and so how many subscriptions a file has room for. -/

namespace EventFeed

namespace MessagePack

/-- So many bytes suffice for one error of a chain, with all its texts. -/
def levelRoom : Nat := 2 ^ 35

theorem length_listHead (length : Nat) : (listHead length).length ≤ 5 := by
  -- The head is one byte, three or five.
  unfold listHead
  split
  · simp
  split <;> simp

theorem length_textHead (length : Nat) : (textHead length).length ≤ 5 := by
  -- The head is one byte, two, three or five.
  unfold textHead
  split
  · simp
  split
  · simp
  split <;> simp

/-- A text takes its bytes, and the mark and the length in front of them. -/
theorem length_encodeText (text : String) : (encodeText text).length ≤ text.utf8ByteSize + 5 := by
  -- A text is its head and its bytes.
  have head := length_textHead text.toUTF8.toList.length
  have body : text.toUTF8.toList.length = text.utf8ByteSize := by
    rw [length_toList, String.toUTF8_eq_toByteArray, String.size_toByteArray]
  simp only [encodeText, List.length_append]
  omega

theorem length_encodeNatural (value : Nat) : (encodeNatural value).length ≤ 9 := by
  -- Four marks have a length of their own, and the last one has eight bytes behind it.
  unfold encodeNatural
  iterate 4
    split
    · simp
  simp

theorem length_encodeNegative (value : Int) : (encodeNegative value).length ≤ 9 := by
  -- Four marks have a length of their own, and the last one has eight bytes behind it.
  unfold encodeNegative
  iterate 4
    split
    · simp
  simp

/-- A list takes its head and what its items take. -/
theorem length_encode_list (items : List Document) :
    (encode (.list items)).length ≤ ((items.map encode).map List.length).sum + 5 := by
  -- The items are written one behind another, and the head in front of them.
  have body : (encodeItems items).length = ((items.map encode).map List.length).sum := by
    induction items with
    | nil => rfl
    | cons item rest ih => simp [encodeItems, ih]
  have head := length_listHead items.length
  rw [encode, List.length_append, body]
  omega

/-- An optional value takes no more than a value. -/
theorem length_encode_ofOption {α : Type} {write : α → Document} {option : Option α} {room : Nat} (positive : 0 < room)
    (each : ∀ value, option = some value → (encode (write value)).length ≤ room) :
    (encode (.ofOption write option)).length ≤ room := by
  -- No value takes one byte.
  cases option with
  | none => exact positive
  | some value => exact each value rfl

end MessagePack

open MessagePack (encode levelRoom length_encodeText length_encodeNatural length_encode_list length_encode_ofOption)

theorem Status.length_encode (status : Status) : (encode status.toDocument).length ≤ 20 := by
  cases status <;> exact Nat.le_trans (length_encodeText _) (by decide)

theorem RunMode.length_encode (mode : RunMode) : (encode mode.toDocument).length ≤ 20 := by
  cases mode <;> exact Nat.le_trans (length_encodeText _) (by decide)

/-- A point in time takes no more than a number. -/
theorem Subscription.length_encode_timestamp (point : Timestamp) : (encode (timestampDocument point)).length ≤ 9 := by
  -- A point in time is written as a natural number, or as a negative one.
  unfold timestampDocument Document.ofInt
  split
  · exact length_encodeNatural _
  · rename_i negative
    rw [encode, if_neg negative]
    exact MessagePack.length_encodeNegative _

/-- A text that can be written takes little more than its length can count. -/
theorem Sizable.length_encode {text : String} (sizable : Sizable text) :
    (encode (.text text)).length < UInt32.size + 5 :=
  Nat.lt_of_le_of_lt (length_encodeText text) (Nat.add_lt_add_right sizable 5)

/-- So does an optional one. -/
theorem length_encode_text? {option : Option String} (sizable : ∀ text, option = some text → Sizable text) :
    (encode (.ofOption .text option)).length < UInt32.size + 5 := by
  -- No text takes one byte, and a text is short enough.
  refine Nat.lt_succ_of_le (length_encode_ofOption (by decide) fun text own => ?_)
  exact Nat.le_of_lt_succ (sizable text own).length_encode

/-- Each error of a chain takes so many bytes at most. -/
theorem CapturedError.length_encode {error : CapturedError} (levels : ∀ level ∈ error.chain, level.Writable) :
    (encode (error.toDocument .compact)).length ≤ error.chain.length * levelRoom := by
  -- A level has four texts, and its cause.
  have fields : ∀ level : ErrorLevel, level.Writable → ∀ cause,
      (encode (.list ((levelFields level ++ [("cause", cause)]).map Prod.snd))).length + 1 ≤
        levelRoom + (encode cause).length := by
    intro level writable cause
    have message := writable.message.length_encode
    have code := length_encode_text? writable.code
    have location := length_encode_text? writable.location
    have trace := length_encode_text? writable.trace
    have whole := length_encode_list ((levelFields level ++ [("cause", cause)]).map Prod.snd)
    simp only [levelFields, List.cons_append, List.nil_append, List.map_cons, List.map_nil, List.sum_cons, List.sum_nil,
      levelRoom, UInt32.size] at *
    omega
  induction error with
  | root level =>
    have whole := fields level (levels level (by simp [chain])) .null
    have nothing : (encode .null).length = 1 := rfl
    rw [nothing] at whole
    rw [chain, List.length_singleton, Nat.one_mul]
    exact Nat.le_of_succ_le_succ whole
  | caused level cause ih =>
    have whole := fields level (levels level (by simp [chain])) (cause.toDocument .compact)
    have inside := ih fun other member => levels other (by simp [chain, member])
    simp only [chain, List.length_cons, Nat.succ_mul]
    exact Nat.le_trans (Nat.le_of_succ_le whole) (by omega)

/-- A kept failure takes so many bytes for each error of its chain, and as many for everything else. -/
theorem SubscriptionError.length_encode {error : SubscriptionError} (message : Sizable error.message) {links : Nat}
    (chain : ∀ captured, error.context = some captured →
      (∀ level ∈ captured.chain, level.Writable) ∧ captured.chain.length ≤ links) :
    (encode (error.toDocument .compact)).length ≤ (links + 1) * levelRoom := by
  -- A failure is a list of three: its text, its status and what was captured.
  have text := message.length_encode
  have previous := error.previous.length_encode
  have captured : (encode (.ofOption (CapturedError.toDocument .compact) error.context)).length ≤
      links * levelRoom + 1 := by
    refine length_encode_ofOption (by omega) fun captured kept => ?_
    obtain ⟨levels, length⟩ := chain captured kept
    have most := Nat.mul_le_mul_right levelRoom length
    exact Nat.le_trans (CapturedError.length_encode levels) (Nat.le_succ_of_le most)
  refine Nat.le_trans (length_encode_list _) ?_
  simp only [List.map_cons, List.map_nil, List.sum_cons, List.sum_nil, Nat.succ_mul, levelRoom, UInt32.size]
    at text captured ⊢
  omega

/-- A subscription takes the bytes of its names and of its failure, and few more. -/
theorem Subscription.length_encode {row : Subscription} {weight : Nat}
    (failure : ∀ error, row.error = some error → (encode (error.toDocument .compact)).length ≤ weight) :
    (encode (row.toDocument .compact)).length ≤ row.id.utf8ByteSize + row.group.utf8ByteSize + weight + 100 := by
  -- A subscription is a list of eight fields, and all but three of them take few bytes.
  have id : (encode (.text row.id)).length ≤ _ := length_encodeText row.id
  have group : (encode (.text row.group)).length ≤ _ := length_encodeText row.group
  have runMode := row.runMode.length_encode
  have status := row.status.length_encode
  have position : (encode (.natural row.position)).length ≤ 9 := length_encodeNatural row.position
  have kept : (encode (.ofOption (SubscriptionError.toDocument .compact) row.error)).length ≤ weight + 1 :=
    length_encode_ofOption (by omega) fun error own => Nat.le_succ_of_le (failure error own)
  have retries : (encode (.natural row.retryAttempt)).length ≤ 9 := length_encodeNatural row.retryAttempt
  have saved : (encode (.ofOption timestampDocument row.lastSavedAt)).length ≤ 9 :=
    length_encode_ofOption (by omega) fun point _ => length_encode_timestamp point
  refine Nat.le_trans (length_encode_list _) ?_
  simp only [List.map_cons, List.map_nil, List.sum_cons, List.sum_nil]
  omega

namespace FileFormat

/-- The payload takes what its subscriptions take, and the head of a list. -/
theorem length_payload {rows : List Subscription} {room : Nat}
    (each : ∀ row ∈ rows, (MessagePack.encode (row.toDocument .compact)).length ≤ room) :
    (payload rows).length ≤ rows.length * room + 5 := by
  -- The payload is a list, and none of its items takes more than the room.
  refine Nat.le_trans (length_encode_list _) (Nat.add_le_add_right ?_ 5)
  have most : ∀ length ∈ ((rows.map (Subscription.toDocument .compact)).map MessagePack.encode).map List.length,
      length ≤ room := by
    simp only [List.mem_map, forall_exists_index, and_imp, forall_apply_eq_imp_iff₂]
    exact each
  simpa using List.sum_le_card_nsmul _ _ most

end FileFormat

end EventFeed
