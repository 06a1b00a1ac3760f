import Mathlib.Algebra.Group.Basic
import EventFeed.Store.Checksum

/-! The checksum tells any two payloads of one length apart that differ in a single byte: every step of it
can be undone. -/

namespace EventFeed

namespace Checksum

/-- The lowest bit of a state. -/
def lowest (state : UInt32) : Bool := state.toBitVec.getLsbD 0

/-- The lowest bit decides whether the generator is taken in. -/
theorem and_one_iff (state : UInt32) : state &&& 1 = 1 ↔ lowest state = true := by
  -- A conjunction with one keeps the lowest bit and nothing else.
  have bits : (state &&& 1).toBitVec = BitVec.setWidth 32 (BitVec.ofBool (lowest state)) := by
    rw [UInt32.toBitVec_and]
    exact BitVec.and_one_eq_setWidth_ofBool_getLsbD
  rw [← UInt32.toBitVec_inj, bits]
  cases lowest state <;> decide

/-- A shift, as an operation on bits. -/
theorem toBitVec_shift (state : UInt32) :
    (shift state).toBitVec = state.toBitVec >>> 1 ^^^ if lowest state then generator.toBitVec else 0 := by
  -- The generator is taken in just when the lowest bit is set.
  unfold shift
  by_cases set : lowest state = true
  · rw [if_pos ((and_one_iff state).mpr set), if_pos set, UInt32.toBitVec_xor]
    simp
  · rw [if_neg fun own => set ((and_one_iff state).mp own), if_neg set]
    simp

/-- What was shifted out stands in the highest bit of what is left. -/
theorem msb_shift (state : UInt32) : (shift state).toBitVec.getLsbD 31 = lowest state := by
  -- The shift leaves that bit free, and the generator has it set.
  rw [toBitVec_shift, BitVec.getLsbD_xor, BitVec.getLsbD_ushiftRight]
  cases lowest state <;> simp [generator]

/-- A shift can be undone. -/
theorem shift_injective : Function.Injective shift := by
  -- The highest bit tells what the lowest one was, and with it whether the generator was taken in.
  intro former latter same
  have lowest_eq : lowest former = lowest latter := by rw [← msb_shift, same, msb_shift]
  have others : former.toBitVec >>> 1 = latter.toBitVec >>> 1 := by
    have bits := congrArg UInt32.toBitVec same
    rw [toBitVec_shift, toBitVec_shift, lowest_eq] at bits
    exact (BitVec.xor_left_inj _).mp bits
  -- The lowest bit and the other bits make up the state.
  refine UInt32.toBitVec_inj.mp (BitVec.eq_of_getLsbD_eq fun index _ => ?_)
  cases index with
  | zero => exact lowest_eq
  | succ index =>
    have bit := congrArg (BitVec.getLsbD · index) others
    simpa [Nat.add_comm] using bit

/-- Shifts can be undone. -/
theorem repeat_shift_injective (count : Nat) : Function.Injective (Nat.repeat shift count) := by
  -- The last shift is undone first.
  induction count with
  | zero => exact fun _ _ same => same
  | succ count ih => exact fun _ _ same => ih (shift_injective same)

/-- Taking in the same byte keeps two states apart. -/
theorem absorb_injective (byte : UInt8) : Function.Injective (absorb · byte) := by
  -- The shifts are undone, and then the byte is taken out again.
  intro former latter same
  have before := repeat_shift_injective 8 same
  exact (UInt32.xor_left_inj _).mp before

/-- Two different bytes take a state to different states. -/
theorem absorb_injective_byte (state : UInt32) : Function.Injective (absorb state) := by
  -- The shifts are undone, and then the state is taken out; a byte is not cut off by being widened.
  intro former latter same
  have before := (UInt32.xor_right_inj _).mp (repeat_shift_injective 8 same)
  simpa using congrArg UInt32.toUInt8 before

/-- Taking in the same bytes keeps two states apart. -/
theorem foldl_absorb_injective (bytes : List UInt8) : Function.Injective (bytes.foldl absorb) := by
  -- Two states that are kept apart by the first byte are kept apart by the other ones.
  induction bytes with
  | nil => exact fun _ _ same => same
  | cons byte rest ih => exact fun _ _ same => absorb_injective byte (ih same)

/-- Changing one byte changes the checksum. -/
theorem ofBytes_set_ne {bytes : List UInt8} {index : Nat} {byte : UInt8} (changed : bytes.set index byte ≠ bytes) :
    ofBytes (bytes.set index byte) ≠ ofBytes bytes := by
  -- Both run alike up to the byte, are apart behind it, and stay so.
  intro same
  have present : index < bytes.length := by
    by_contra beyond
    exact changed (List.set_eq_of_length_le (Nat.not_lt.mp beyond))
  have former : bytes.set index byte = bytes.take index ++ byte :: bytes.drop (index + 1) :=
    List.set_eq_take_append_cons_drop.trans (if_pos present)
  have latter : bytes.take index ++ bytes[index] :: bytes.drop (index + 1) = bytes := by simp
  have both : ofBytes (bytes.take index ++ byte :: bytes.drop (index + 1)) =
      ofBytes (bytes.take index ++ bytes[index] :: bytes.drop (index + 1)) := by
    rw [← former, same, latter]
  simp only [ofBytes, UInt32.xor_left_inj, List.foldl_append, List.foldl_cons] at both
  have equal : byte = bytes[index] := absorb_injective_byte _ (foldl_absorb_injective _ both)
  rw [former, equal, latter] at changed
  exact changed rfl

end Checksum

end EventFeed
