import EtherNetIP.Modbus.DataStreams

/-! The bits of a BitVector by their indices, in both access modes. -/

set_option autoImplicit false

namespace EtherNetIP.Modbus

namespace BitVector

/-- With the most significant bit first the eight bits of an octet are turned round. -/
def translateIndex (msbAccess : Bool) (index : Int) : Except Throwable Int :=
  if msbAccess then
    let offsets : List Int := if (index.tdiv 4).tmod 2 ≠ 0 then [-1, -3, -5, -7] else [7, 5, 3, 1]
    if index.tmod 4 < 0 then throw .indexOutOfBoundsException
    else (offsets[(index.tmod 4).toNat]?).elim (throw .indexOutOfBoundsException) fun offset => pure (index + offset)
  else return index

def locate (vector : BitVector) (index : Int) : Except Throwable (Nat × Nat) := do
  let translated ← translateIndex vector.msbAccess index
  if translated < 0 ∨ translated ≥ vector.data.length * 8 then throw .indexOutOfBoundsException
  else return ((translated / 8).toNat, (translated % 8).toNat)

def getBit (vector : BitVector) (index : Int) : Except Throwable Bool := do
  let (byteIndex, bitIndex) ← vector.locate index
  return (vector.data.getD byteIndex 0).toNat.testBit bitIndex

def withBit (bits : UInt8) (bitIndex : Nat) (set : Bool) : UInt8 :=
  let mask := (1 : UInt8) <<< bitIndex.toUInt8
  if set then bits ||| mask else bits &&& ~~~mask

def setBit (vector : BitVector) (index : Int) (set : Bool) : Except Throwable BitVector := do
  let (byteIndex, bitIndex) ← vector.locate index
  return { vector with data := vector.data.modify byteIndex fun bits => withBit bits bitIndex set }

section LeastSignificantFirst

variable {data : List UInt8} {size index : Int}

theorem locate_lsb (positive : 0 ≤ index) : (createBitVectorOfSize data size).locate index =
    if index < data.length * 8 then .ok ((index / 8).toNat, (index % 8).toNat)
    else .error .indexOutOfBoundsException := by
  change (if index < 0 ∨ index ≥ data.length * 8 then throw Throwable.indexOutOfBoundsException
    else pure ((index / 8).toNat, (index % 8).toNat)) = _
  by_cases inside : index < data.length * 8
  · rw [if_pos inside, if_neg (by omega)]
    rfl
  · rw [if_neg inside, if_pos (by omega)]
    rfl

theorem getBit_isOk (positive : 0 ≤ index) :
    (∃ bit, (createBitVectorOfSize data size).getBit index = .ok bit) ↔ index < data.length * 8 := by
  unfold getBit
  rw [locate_lsb positive]
  by_cases inside : index < data.length * 8
  · rw [if_pos inside]
    exact iff_of_true ⟨_, rfl⟩ inside
  · rw [if_neg inside]
    exact iff_of_false (fun ⟨_, read⟩ => nomatch read) inside

end LeastSignificantFirst

end BitVector

end EtherNetIP.Modbus
