import EtherNetIP.Library.Outcome
import EtherNetIP.Modbus.BitSequences

/-! The indices of a BitVector with the number of its bits in an int.

The constructor and the factories make vectors of at most 2^28 octets. With just
so many the number of bits is negative as an int, and no index is accepted. The
announced size is checked by `forceSize` only.
-/

set_option autoImplicit false

namespace EtherNetIP.Modbus

open Library

namespace BitVector.Ints

def isInt (value : Int) : Prop := -2 ^ 31 ≤ value ∧ value < 2 ^ 31

/-- `data.length * 8` as an int. -/
def bitCount (data : List UInt8) : Int := Int.bmod (data.length * 8) (2 ^ 32)

def byteIndex (vector : BitVector) (index : Int) : Except Throwable Int :=
  if index < 0 ∨ index ≥ bitCount vector.data then throw .indexOutOfBoundsException else return index.tdiv 8

def bitIndex (vector : BitVector) (index : Int) : Except Throwable Int :=
  if index < 0 ∨ index ≥ bitCount vector.data then throw .indexOutOfBoundsException else return index.tmod 8

def getBit (vector : BitVector) (index : Int) : Except Throwable Bool := do
  let index ← translateIndex vector.msbAccess index
  let byteNum ← byteIndex vector index
  let bitNum ← bitIndex vector index
  return (vector.data.getD byteNum.toNat 0).toNat.testBit bitNum.toNat

def setBit (vector : BitVector) (index : Int) (b : Bool) : Except Throwable BitVector := do
  let index ← translateIndex vector.msbAccess index
  let byteNum ← byteIndex vector index
  let bitNum ← bitIndex vector index
  return { vector with data := vector.data.modify byteNum.toNat fun bits => withBit bits bitNum.toNat b }

def createBitVector (data : List UInt8) : Except Throwable BitVector := do
  let bv ← ofSize (bitCount data)
  bv.setBytes data

def createBitVectorOfSize (data : List UInt8) (size : Int) : Except Throwable BitVector := do
  let bv ← ofSize (bitCount data)
  let bv ← bv.setBytes data
  return { bv with size }

def forceSize (vector : BitVector) (size : Int) : Except Throwable BitVector :=
  if size > bitCount vector.data then .error .illegalArgumentException else .ok { vector with size }

/-- The vectors there are: what the constructor and the factories make, and what the methods make of them. -/
inductive Made : BitVector → Prop
  | ofSize {size : Int} {vector : BitVector} : isInt size → ofSize size = .ok vector → Made vector
  | createBitVector {data : List UInt8} {vector : BitVector} : data.length < 2 ^ 31 →
      createBitVector data = .ok vector → Made vector
  | createBitVectorOfSize {data : List UInt8} {size : Int} {vector : BitVector} : data.length < 2 ^ 31 → isInt size →
      createBitVectorOfSize data size = .ok vector → Made vector
  | setBit {vector changed : BitVector} {index : Int} {b : Bool} : Made vector → isInt index →
      setBit vector index b = .ok changed → Made changed
  | toggleAccess {vector : BitVector} (b : Bool) : Made vector → Made (vector.toggleAccess b)
  | setBytes {vector changed : BitVector} {data : List UInt8} : Made vector →
      vector.setBytes data = .ok changed → Made changed
  | setBytesOfSize {vector changed : BitVector} {data : List UInt8} {size : Int} : Made vector → isInt size →
      vector.setBytesOfSize data size = .ok changed → Made changed
  | forceSize {vector changed : BitVector} {size : Int} : Made vector → isInt size →
      forceSize vector size = .ok changed → Made changed

/-- The bits of a vector by their indices: two indices never share a bit, setting one changes that one, and every index
below the size is accepted. -/
structure IndexesBits (vector : BitVector) : Prop where
  translated : ∀ index : Nat, index < 8 * vector.byteSize → ∃ place : Nat, place < 8 * vector.byteSize ∧
    translateIndex vector.msbAccess index = .ok (place : Int) ∧ place / 8 = index / 8
  injective : ∀ index other : Nat, index < 8 * vector.byteSize → other < 8 * vector.byteSize →
    translateIndex vector.msbAccess index = translateIndex vector.msbAccess other → index = other
  surjective : ∀ place : Nat, place < 8 * vector.byteSize → ∃ index : Nat, index < 8 * vector.byteSize ∧
    translateIndex vector.msbAccess index = .ok (place : Int)
  written : ∀ index : Nat, index < 8 * vector.byteSize → ∀ b, ∃ changed, setBit vector index b = .ok changed ∧
    getBit changed index = .ok b ∧ ∀ other : Int, other ≠ index →
      (getBit changed other).toOption = (getBit vector other).toOption
  accepted : ∀ index : Int, 0 ≤ index → index < vector.size →
    (∃ bit, getBit vector index = .ok bit) ∧ ∀ b, ∃ changed, setBit vector index b = .ok changed

section Octets

variable {vector changed : BitVector}

theorem octets_ofSize {size : Int} (int : isInt size) (made : ofSize size = .ok vector) :
    vector.data.length ≤ 2 ^ 28 := by
  obtain ⟨-, most⟩ := int
  unfold BitVector.ofSize at made
  generalize counted : (if size.tmod 8 > 0 then size.tdiv 8 + 1 else size.tdiv 8) = octets at made
  dsimp only at made
  by_cases negative : octets < 0
  · rw [if_pos negative] at made
    cases made
  · rw [if_neg negative] at made
    cases made
    rw [List.length_replicate, ← counted]
    have parts := Int.mul_tdiv_add_tmod size 8
    have rest := Int.lt_tmod_of_pos size (by decide : (0 : Int) < 8)
    split <;> omega

theorem octets_setBytes {data : List UInt8} (copied : vector.setBytes data = .ok changed) :
    changed.data.length = vector.data.length := by
  unfold BitVector.setBytes at copied
  split at copied
  · cases copied
    rw [List.length_append, List.length_drop]
    omega
  · cases copied

theorem octets_setBit {index : Int} {b : Bool} (written : setBit vector index b = .ok changed) :
    changed.data.length = vector.data.length := by
  obtain ⟨translated, -, placed⟩ := bind_eq_ok.mp written
  obtain ⟨byteNum, -, placed⟩ := bind_eq_ok.mp placed
  obtain ⟨bitNum, -, done⟩ := bind_eq_ok.mp placed
  cases done
  exact List.length_modify ..

theorem isInt_bitCount (data : List UInt8) : isInt (bitCount data) :=
  ⟨Int.le_bmod (by decide), Int.bmod_lt (by decide)⟩

theorem octets_le (made : Made vector) : vector.data.length ≤ 2 ^ 28 := by
  induction made with
  | ofSize int made => exact octets_ofSize int made
  | createBitVector array made =>
      obtain ⟨bv, sized, copied⟩ := bind_eq_ok.mp made
      exact (octets_setBytes copied).trans_le (octets_ofSize (isInt_bitCount _) sized)
  | createBitVectorOfSize array int made =>
      obtain ⟨bv, sized, rest⟩ := bind_eq_ok.mp made
      obtain ⟨filled, copied, done⟩ := bind_eq_ok.mp rest
      cases done
      exact (octets_setBytes copied).trans_le (octets_ofSize (isInt_bitCount _) sized)
  | setBit made int written ih => exact (octets_setBit written).trans_le ih
  | toggleAccess b made ih => exact ih
  | setBytes made copied ih => exact (octets_setBytes copied).trans_le ih
  | setBytesOfSize made int copied ih =>
      obtain ⟨filled, filling, done⟩ := bind_eq_ok.mp copied
      cases done
      exact (octets_setBytes filling).trans_le ih
  | forceSize made int forced ih =>
      unfold forceSize at forced
      split at forced
      · cases forced
      · cases forced
        exact ih

end Octets

section Indices

variable {vector : BitVector} {index : Int}

theorem bitCount_of_few {data : List UInt8} (few : data.length < 2 ^ 28) : bitCount data = data.length * 8 :=
  Int.bmod_eq_of_le_mul_two (by omega) (by omega)

theorem bitCount_of_full {data : List UInt8} (full : data.length = 2 ^ 28) : bitCount data = -2 ^ 31 := by
  have whole := congrArg (fun octets : Nat => Int.bmod (octets * 8) (2 ^ 32)) full
  exact whole.trans (by decide +kernel)

theorem getBit_of_few (few : vector.data.length < 2 ^ 28) (index : Int) :
    getBit vector index = vector.getBit index := by
  unfold getBit BitVector.getBit locate
  cases translateIndex vector.msbAccess index with
  | error fault => rfl
  | ok place =>
      simp only [byteIndex, bitIndex, bitCount_of_few few, ok_bind]
      by_cases outside : place < 0 ∨ place ≥ vector.data.length * 8
      · rw [if_pos outside, if_pos outside, if_pos outside]
        rfl
      · rw [if_neg outside, if_neg outside, if_neg outside]
        have positive : 0 ≤ place := by omega
        change Except.ok _ = Except.ok _
        rw [Int.tdiv_eq_ediv_of_nonneg positive, Int.tmod_eq_emod_of_nonneg positive]

theorem setBit_of_few (few : vector.data.length < 2 ^ 28) (index : Int) (b : Bool) :
    setBit vector index b = vector.setBit index b := by
  unfold setBit BitVector.setBit locate
  cases translateIndex vector.msbAccess index with
  | error fault => rfl
  | ok place =>
      simp only [byteIndex, bitIndex, bitCount_of_few few, ok_bind]
      by_cases outside : place < 0 ∨ place ≥ vector.data.length * 8
      · rw [if_pos outside, if_pos outside, if_pos outside]
        rfl
      · rw [if_neg outside, if_neg outside, if_neg outside]
        have positive : 0 ≤ place := by omega
        change Except.ok _ = Except.ok _
        rw [Int.tdiv_eq_ediv_of_nonneg positive, Int.tmod_eq_emod_of_nonneg positive]

theorem refused_of_full (full : vector.data.length = 2 ^ 28) (index : Int) (b : Bool) :
    ¬ ∃ changed, setBit vector index b = .ok changed := by
  rintro ⟨changed, written⟩
  obtain ⟨place, -, placed⟩ := bind_eq_ok.mp written
  obtain ⟨byteNum, found, -⟩ := bind_eq_ok.mp placed
  unfold byteIndex at found
  rw [bitCount_of_full full, if_pos (by omega)] at found
  cases found

theorem ok_of_toOption {α : Type} {computation : Except Throwable α} {value : α}
    (returned : computation.toOption = some value) : computation = .ok value := by
  cases computation with
  | error fault => cases returned
  | ok other =>
      cases returned
      rfl

theorem getBit_isOk_iff (few : vector.data.length < 2 ^ 28) :
    (∃ bit, getBit vector index = .ok bit) ↔ vector.view.Inside index := by
  rw [getBit_of_few few]
  have viewed := getBit_view vector index
  unfold BitSequence.get at viewed
  by_cases inside : vector.view.Inside index
  · rw [if_pos inside] at viewed
    exact iff_of_true ⟨_, ok_of_toOption viewed⟩ inside
  · rw [if_neg inside] at viewed
    refine iff_of_false ?_ inside
    rintro ⟨bit, read⟩
    rw [read] at viewed
    cases viewed

end Indices

section Claims

variable {vector : BitVector}

theorem inside_of_lt {index : Nat} (inside : index < 8 * vector.byteSize) : vector.view.Inside index := by
  change 0 ≤ (index : Int) ∧ (index : Int) < ((vector.data.length : Nat) : Int) * 8
  unfold byteSize at inside
  omega

/-- As long as the number of bits is an int, only the announced size can lead outside. -/
theorem indexesBits_of_few (few : vector.data.length < 2 ^ 28) (size : vector.size ≤ 8 * vector.data.length) :
    IndexesBits vector where
  translated index inside := by
    refine ⟨BitSequence.place vector.msbAccess index, ?_, translateIndex_eq .., BitSequence.place_octet ..⟩
    have bounds := @BitSequence.place_lt vector.msbAccess index vector.byteSize
    omega
  injective index other _ _ same := by
    rw [translateIndex_eq, translateIndex_eq] at same
    injection same with same
    exact BitSequence.place_injective (Int.ofNat.inj same)
  surjective place inside := by
    refine ⟨BitSequence.place vector.msbAccess place, ?_, ?_⟩
    · have bounds := @BitSequence.place_lt vector.msbAccess place vector.byteSize
      omega
    · rw [translateIndex_eq, BitSequence.place_place]
  written index inside b := by
    obtain ⟨changed, written, read⟩ := setBit_inside (inside_of_lt inside) b
    have same : changed.data.length < 2 ^ 28 := by
      rw [← setBit_of_few few] at written
      rwa [octets_setBit written]
    refine ⟨changed, (setBit_of_few few _ _).trans written, ?_, fun other different => ?_⟩
    · rw [getBit_of_few same]
      exact ok_of_toOption ((read index).trans (if_pos rfl))
    · rw [getBit_of_few same, getBit_of_few few]
      exact (read other).trans (if_neg different)
  accepted index positive below := by
    have inside : vector.view.Inside index := by
      change 0 ≤ index ∧ index < ((vector.data.length : Nat) : Int) * 8
      omega
    refine ⟨(getBit_isOk_iff few).mpr inside, fun b => ?_⟩
    obtain ⟨changed, written, -⟩ := setBit_inside inside b
    exact ⟨changed, (setBit_of_few few _ _).trans written⟩

/-- A vector indexes its bits as it should just if their number is an int and the announced size does not exceed it. -/
theorem indexesBits_iff (made : Made vector) :
    IndexesBits vector ↔ vector.data.length < 2 ^ 28 ∧ vector.size ≤ 8 * vector.data.length := by
  refine ⟨fun indexes => ?_, fun ⟨few, size⟩ => indexesBits_of_few few size⟩
  have few : vector.data.length < 2 ^ 28 := by
    apply Nat.lt_of_le_of_ne (octets_le made)
    intro full
    obtain ⟨changed, written, -⟩ := indexes.written 0 (by unfold byteSize; omega) true
    exact refused_of_full full 0 true ⟨changed, written⟩
  refine ⟨few, Int.not_lt.mp fun beyond => ?_⟩
  -- the index behind the last bit is below the size
  obtain ⟨read, -⟩ := indexes.accepted (8 * vector.data.length) (by omega) beyond
  have inside := ((getBit_isOk_iff few).mp read).2
  change 8 * (vector.data.length : Int) < ((vector.data.length : Nat) : Int) * 8 at inside
  omega

/-- Sixteen bits, the most significant of each octet first. -/
theorem indexesBits_msb : ∃ vector, Made vector ∧ vector.msbAccess = true ∧ vector.size = 16 ∧ IndexesBits vector := by
  have made := Made.toggleAccess true (@Made.ofSize 16 _ ⟨by decide, by decide⟩ rfl)
  exact ⟨_, made, rfl, rfl, (indexesBits_iff made).mpr ⟨by decide, by decide⟩⟩

/-- One octet with nine bits announced, as it is made of a request to write coils. -/
theorem not_indexesBits_of_size : Made ⟨9, [0], false⟩ ∧ ¬ IndexesBits ⟨9, [0], false⟩ := by
  refine ⟨@Made.createBitVectorOfSize [0] 9 _ (by decide) ⟨by decide, by decide⟩ rfl, fun indexes => ?_⟩
  obtain ⟨⟨bit, read⟩, -⟩ := indexes.accepted 8 (by decide) (by decide)
  cases read

end Claims

end BitVector.Ints

end EtherNetIP.Modbus
