import EtherNetIP.Library.ReflectedCrc
import EtherNetIP.Modbus.FrameWrites

/-! The tables of the RTU checksum are those of the CRC with the polynomial 0xA001. -/

set_option autoImplicit false

namespace EtherNetIP.Modbus

open EtherNetIP.Library

def crcPolynomial : BitVec 16 := 0xA001

def crcWord (crc : UInt8 × UInt8) : BitVec 16 := crc.2.toBitVec ++ crc.1.toBitVec

def bitwiseCrc (message : List UInt8) : BitVec 16 :=
  crcOctets crcPolynomial 0xFFFF (message.map UInt8.toBitVec)

section Tables

theorem tables_eq (index : UInt8) : crcShifts crcPolynomial 8 (index.toBitVec.setWidth 16) =
    (auchCRCLo.getD index.toNat 0).toBitVec ++ (auchCRCHi.getD index.toNat 0).toBitVec := by
  have all : (List.range 256).all (fun index => crcShifts crcPolynomial 8 (BitVec.ofNat 16 index) ==
      (auchCRCLo.getD index 0).toBitVec ++ (auchCRCHi.getD index 0).toBitVec) = true := by decide +kernel
  have entry := List.all_eq_true.mp all index.toNat (List.mem_range.mpr index.toNat_lt)
  have same : index.toBitVec.setWidth 16 = BitVec.ofNat 16 index.toNat := by
    apply BitVec.eq_of_toNat_eq
    rw [BitVec.toNat_setWidth, BitVec.toNat_ofNat]
    rfl
  rw [same]
  exact beq_iff_eq.mp entry

theorem append_shiftRight (high low : BitVec 8) : (high ++ low) >>> 8 = (0#8 ++ high : BitVec 16) := by
  apply BitVec.eq_of_getLsbD_eq
  intro bit inside
  rw [BitVec.getLsbD_ushiftRight, BitVec.getLsbD_append, BitVec.getLsbD_append, if_neg (by omega),
    Nat.add_sub_cancel_left]
  by_cases low : bit < 8
  · rw [if_pos low]
  · rw [if_neg low, BitVec.getLsbD_of_ge _ _ (Nat.le_of_not_lt low), BitVec.getLsbD_zero]

theorem crcWord_crcStep (crc : UInt8 × UInt8) (nextByte : UInt8) :
    crcWord (crcStep crc nextByte) = crcOctet crcPolynomial (crcWord crc) nextByte.toBitVec := by
  have low : (crcWord crc).setWidth 8 ^^^ nextByte.toBitVec = (crc.1 ^^^ nextByte).toBitVec := by
    unfold crcWord
    rw [BitVec.setWidth_append_eq_right]
    rfl
  have shifted : crcWord crc >>> 8 = (0#8 ++ crc.2.toBitVec : BitVec 16) := append_shiftRight _ _
  rw [crcOctet_eq, low, tables_eq, shifted, BitVec.xor_append, BitVec.zero_xor]
  rfl

theorem crcWord_foldl (crc : UInt8 × UInt8) (message : List UInt8) :
    crcWord (message.foldl crcStep crc) = crcOctets crcPolynomial (crcWord crc) (message.map UInt8.toBitVec) := by
  induction message generalizing crc with
  | nil => rfl
  | cons nextByte message ih =>
      have further := ih (crcStep crc nextByte)
      rw [crcWord_crcStep] at further
      exact further

/-- What the tables give is what the bits give, at every offset and length. -/
theorem crcWord_calculateCRC (data : List UInt8) (offset len : Nat) :
    crcWord (calculateCRC data offset len) = bitwiseCrc ((data.take len).drop offset) :=
  crcWord_foldl (0xFF, 0xFF) _

theorem crcWord_injective {crc other : UInt8 × UInt8} (same : crcWord crc = crcWord other) : crc = other := by
  unfold crcWord at same
  have low := congrArg (BitVec.setWidth 8) same
  rw [BitVec.setWidth_append_eq_right, BitVec.setWidth_append_eq_right] at low
  have high := congrArg (fun word : BitVec 16 => word >>> 8) same
  rw [append_shiftRight, append_shiftRight] at high
  have upper := congrArg (BitVec.setWidth 8) high
  rw [BitVec.setWidth_append_eq_right, BitVec.setWidth_append_eq_right] at upper
  exact Prod.ext (UInt8.toBitVec_inj.mp low) (UInt8.toBitVec_inj.mp upper)

end Tables

section Frames

theorem lowFirst_crcWord (crc : UInt8 × UInt8) :
    lowFirst 2 (crcWord crc) = [crc.1, crc.2].map UInt8.toBitVec := by
  unfold lowFirst lowFirst lowFirst crcWord
  rw [BitVec.setWidth_append_eq_right, append_shiftRight, BitVec.setWidth_append_eq_right]
  rfl

theorem bitwiseCrc_with_own (message : List UInt8) :
    bitwiseCrc (message ++ [(calculateCRC message 0 message.length).1, (calculateCRC message 0 message.length).2]) =
      0#16 := by
  have own := crcWord_calculateCRC message 0 message.length
  rw [List.take_length, List.drop_zero] at own
  unfold bitwiseCrc at own ⊢
  rw [List.map_append, ← lowFirst_crcWord, own]
  exact crcOctets_with_own (by decide) _ _

theorem bitwiseCrc_burst {front burst other behind : List Bool} {message changed : List UInt8}
    (bits : (message.map UInt8.toBitVec).flatMap octetBits = front ++ burst ++ behind)
    (changedBits : (changed.map UInt8.toBitVec).flatMap octetBits = front ++ other ++ behind)
    (long : burst.length = other.length) (short : burst.length ≤ 16)
    (same : bitwiseCrc message = bitwiseCrc changed) : message = changed := by
  unfold bitwiseCrc at same
  rw [crcOctets_eq_bits (by decide), crcOctets_eq_bits (by decide), bits, changedBits] at same
  have equal := burst_determined (by decide) long short same
  rw [equal, ← changedBits] at bits
  exact (List.map_inj_right fun _ _ => UInt8.toBitVec_inj.mp).mp (octets_of_bits bits)

theorem bitwiseCrc_eq_zero_iff (message : List UInt8) (low high : UInt8) :
    bitwiseCrc (message ++ [low, high]) = 0#16 ↔ (low, high) = calculateCRC message 0 message.length := by
  have own := bitwiseCrc_with_own message
  constructor
  · intro zero
    have split (low high : UInt8) : ((message ++ [low, high]).map UInt8.toBitVec).flatMap octetBits =
        (message.map UInt8.toBitVec).flatMap octetBits ++ [low.toBitVec, high.toBitVec].flatMap octetBits ++ [] := by
      rw [List.map_append, List.flatMap_append, List.append_nil]
      rfl
    have same := bitwiseCrc_burst (split low high)
      (split (calculateCRC message 0 message.length).1 (calculateCRC message 0 message.length).2) rfl
      (by simp [octetBits]) (zero.trans own.symm)
    have last := List.append_cancel_left same
    rw [List.cons.injEq, List.cons.injEq] at last
    exact Prod.ext last.1 last.2.1
  · intro same
    rw [← same] at own
    exact own

/-- The tables compute the CRC-16 of the serial line, low octet first, and a message with its own CRC behind it has
the CRC zero. -/
theorem calculateCRC_correct (data : List UInt8) (len : Nat) :
    crcWord (calculateCRC data 0 len) = bitwiseCrc (data.take len) ∧
      let crc := calculateCRC data 0 data.length
      calculateCRC (data ++ [crc.1, crc.2]) 0 (data.length + 2) = (0, 0) := by
  refine ⟨crcWord_calculateCRC data 0 len, ?_⟩
  apply crcWord_injective
  have whole := bitwiseCrc_with_own data
  rw [crcWord_calculateCRC, List.drop_zero, List.take_of_length_le (by simp)]
  rw [whole]
  rfl

/-- In every array the first octets have the bitwise CRC, its low octet first, and with it behind them they have the CRC
zero, whatever else the array holds. -/
theorem calculateCRC_bitwise (data behind : List UInt8) (len : Nat) :
    let crc := calculateCRC data 0 len
    let word := bitwiseCrc (data.take len)
    crc.1.toBitVec = word.setWidth 8 ∧ crc.2.toBitVec = (word >>> 8).setWidth 8 ∧
      calculateCRC (data.take len ++ crc.1 :: crc.2 :: behind) 0 ((data.take len).length + 2) = (0, 0) := by
  intro crc word
  have own : crcWord crc = word := crcWord_calculateCRC data 0 len
  have same : crc = calculateCRC (data.take len) 0 (data.take len).length := by
    apply crcWord_injective
    rw [own, crcWord_calculateCRC, List.drop_zero, List.take_length]
  refine ⟨?_, ?_, ?_⟩
  · rw [← own, crcWord, BitVec.setWidth_append_eq_right]
  · rw [← own, crcWord, append_shiftRight, BitVec.setWidth_append_eq_right]
  · have whole := bitwiseCrc_with_own (data.take len)
    rw [← same] at whole
    have front : (data.take len ++ crc.1 :: crc.2 :: behind).take ((data.take len).length + 2) =
        data.take len ++ [crc.1, crc.2] := by
      rw [List.take_length_add_append]
      rfl
    apply crcWord_injective
    rw [crcWord_calculateCRC, List.drop_zero, front, whole]
    rfl

end Frames

end EtherNetIP.Modbus
