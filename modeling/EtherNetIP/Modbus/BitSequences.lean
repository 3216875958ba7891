import EtherNetIP.Modbus.BitVectors

/-! A BitVector as a sequence of bits that can be turned round inside its octets.

The translated index is a place of the same octet, in either access mode, and
every method of the class does to the octets what its counterpart does to the
sequence. Arrays are shorter than 2^28 octets, so that the number of their bits
is an int.
-/

set_option autoImplicit false

namespace EtherNetIP.Modbus

/-- The bits of so many octets by their places, the direction in which an octet is indexed, and the announced size. -/
structure BitSequence where
  octets : Nat
  bits : Nat → Bool
  msbFirst : Bool
  size : Int

namespace BitSequence

def place (msbFirst : Bool) (index : Nat) : Nat := if msbFirst then 8 * (index / 8) + (7 - index % 8) else index

/-- The indices of bits there are; the announced size has no part in it. -/
def Inside (sequence : BitSequence) (index : Int) : Prop := 0 ≤ index ∧ index < sequence.octets * 8

instance (sequence : BitSequence) (index : Int) : Decidable (sequence.Inside index) :=
  inferInstanceAs (Decidable (_ ∧ _))

def get (sequence : BitSequence) (index : Int) : Option Bool :=
  if sequence.Inside index then some (sequence.bits (place sequence.msbFirst index.toNat)) else none

def set (sequence : BitSequence) (index : Int) (value : Bool) : Option BitSequence :=
  if sequence.Inside index then
    some { sequence with bits := Function.update sequence.bits (place sequence.msbFirst index.toNat) value }
  else none

def overwrite (sequence : BitSequence) (octets : Nat) (bits : Nat → Bool) : Option BitSequence :=
  if octets ≤ sequence.octets then
    some { sequence with bits := fun position => if position < octets * 8 then bits position else sequence.bits position }
  else none

def announce (sequence : BitSequence) (size : Int) : Option BitSequence :=
  if size ≤ sequence.octets * 8 then some { sequence with size } else none

def turn (sequence : BitSequence) : BitSequence := { sequence with msbFirst := !sequence.msbFirst }

section Places

variable {msbFirst : Bool} {index other : Nat}

theorem place_octet (msbFirst : Bool) (index : Nat) : place msbFirst index / 8 = index / 8 := by
  unfold place
  split <;> omega

theorem place_place (msbFirst : Bool) (index : Nat) : place msbFirst (place msbFirst index) = index := by
  unfold place
  split <;> omega

theorem place_injective (same : place msbFirst index = place msbFirst other) : index = other := by
  rw [← place_place msbFirst index, same, place_place]

theorem place_lt {octets : Nat} : place msbFirst index < octets * 8 ↔ index < octets * 8 := by
  have octet := place_octet msbFirst index
  omega

end Places

end BitSequence

namespace BitVector

inductive Edit where
  | setBit (index : Int) (b : Bool)
  | toggleAccess (b : Bool)
  | setBytes (data : List UInt8)
  | setBytesOfSize (data : List UInt8) (size : Int)
  | forceSize (size : Int)

/-- The argument is not looked at. -/
def toggleAccess (vector : BitVector) (_ : Bool) : BitVector := { vector with msbAccess := !vector.msbAccess }

/-- The store keeps its length; nothing is copied from an array that is longer. -/
def setBytes (vector : BitVector) (data : List UInt8) : Except Throwable BitVector :=
  if data.length ≤ vector.data.length then .ok { vector with data := data ++ vector.data.drop data.length }
  else .error .indexOutOfBoundsException

def setBytesOfSize (vector : BitVector) (data : List UInt8) (size : Int) : Except Throwable BitVector := do
  let vector ← vector.setBytes data
  return { vector with size }

def forceSize (vector : BitVector) (size : Int) : Except Throwable BitVector :=
  if size > vector.data.length * 8 then .error .illegalArgumentException else .ok { vector with size }

def edit (vector : BitVector) : Edit → Except Throwable BitVector
  | .setBit index b => vector.setBit index b
  | .toggleAccess b => .ok (vector.toggleAccess b)
  | .setBytes data => vector.setBytes data
  | .setBytesOfSize data size => vector.setBytesOfSize data size
  | .forceSize size => vector.forceSize size

/-- A method that throws has changed nothing. -/
def after (vector : BitVector) (change : Edit) : BitVector := (vector.edit change).toOption.getD vector

def packedBit (data : List UInt8) (position : Nat) : Bool := (data.getD (position / 8) 0).toNat.testBit (position % 8)

def view (vector : BitVector) : BitSequence := ⟨vector.data.length, packedBit vector.data, vector.msbAccess, vector.size⟩

end BitVector

def BitSequence.edit (sequence : BitSequence) : BitVector.Edit → Option BitSequence
  | .setBit index b => sequence.set index b
  | .toggleAccess _ => some sequence.turn
  | .setBytes data => sequence.overwrite data.length (BitVector.packedBit data)
  | .setBytesOfSize data size =>
    (sequence.overwrite data.length (BitVector.packedBit data)).map fun sequence => { sequence with size }
  | .forceSize size => sequence.announce size

def BitSequence.after (sequence : BitSequence) (change : BitVector.Edit) : BitSequence :=
  (sequence.edit change).getD sequence

theorem BitSequence.get_set {sequence after : BitSequence} {index : Int} {value : Bool}
    (set : sequence.set index value = some after) (other : Int) :
    after.get other = if other = index then some value else sequence.get other := by
  unfold BitSequence.set at set
  by_cases inside : sequence.Inside index
  · rw [if_pos inside] at set
    cases set
    by_cases same : other = index
    · rw [if_pos same, same]
      unfold BitSequence.get
      exact (if_pos inside).trans (congrArg some (Function.update_self ..))
    · rw [if_neg same]
      unfold BitSequence.get
      by_cases there : sequence.Inside other
      · rw [if_pos there]
        refine (if_pos there).trans (congrArg some (Function.update_of_ne ?_ _ _))
        intro meets
        have equal := place_injective meets
        have first := inside.1
        have second := there.1
        omega
      · rw [if_neg there]
        exact if_neg there
  · rw [if_neg inside] at set
    cases set

namespace BitVector

section Indices

variable {vector : BitVector} {index : Int}

/-- The two tables hold the way from a bit of an octet to the one it is turned into. -/
theorem offset_eq (bit : Fin 8) :
    (if ((bit.val / 4 % 2 : Nat) : Int) ≠ 0 then [-1, -3, -5, -7] else [7, 5, 3, 1] : List Int)[bit.val % 4]? =
      some (7 - 2 * (bit.val : Int)) := by
  revert bit
  decide

theorem translateIndex_eq (msbAccess : Bool) (index : Nat) :
    translateIndex msbAccess index = .ok (BitSequence.place msbAccess index : Nat) := by
  cases msbAccess with
  | false => rfl
  | true =>
      have half : index / 4 % 2 = index % 8 / 4 % 2 := by omega
      have rest : index % 4 = index % 8 % 4 := by omega
      have offset := offset_eq ⟨index % 8, Nat.mod_lt _ (by decide)⟩
      dsimp only at offset
      rw [← half, ← rest] at offset
      have positive : ¬ (index : Int).tmod 4 < 0 := by
        change ¬ ((index % 4 : Nat) : Int) < 0
        omega
      unfold translateIndex
      rw [if_pos rfl]
      dsimp only
      rw [if_neg positive]
      change Option.elim ((if ((index / 4 % 2 : Nat) : Int) ≠ 0 then _ else _ : List Int)[index % 4]?) _ _ = _
      rw [offset]
      have turned : (index : Int) + (7 - 2 * ((index % 8 : Nat) : Int)) = (BitSequence.place true index : Nat) := by
        unfold BitSequence.place
        rw [if_pos rfl]
        omega
      exact congrArg Except.ok turned

theorem translateIndex_negative (msbAccess : Bool) (negative : index < 0) :
    translateIndex msbAccess index = .error .indexOutOfBoundsException ∨
      ∃ translated < 0, translateIndex msbAccess index = .ok translated := by
  cases msbAccess with
  | false => exact .inr ⟨index, negative, rfl⟩
  | true =>
      obtain ⟨distance, rfl⟩ : ∃ distance : Nat, index = -distance := ⟨(-index).toNat, by omega⟩
      have rest : (-(distance : Int)).tmod 4 = -((distance % 4 : Nat) : Int) := Int.neg_tmod _ _
      have half : ((-(distance : Int)).tdiv 4).tmod 2 = -((distance / 4 % 2 : Nat) : Int) := by
        rw [Int.neg_tdiv, Int.neg_tmod]
        rfl
      unfold translateIndex
      rw [if_pos rfl]
      dsimp only
      rw [rest, half]
      by_cases multiple : distance % 4 = 0
      · -- a multiple of four, which has the first entry of its table
        rw [multiple, if_neg (by decide)]
        right
        by_cases odd : distance / 4 % 2 = 0
        · rw [odd, if_neg (by decide)]
          exact ⟨-(distance : Int) + 7, by omega, rfl⟩
        · rw [if_pos (by omega)]
          exact ⟨-(distance : Int) + -1, by omega, rfl⟩
      · exact .inl (if_pos (by omega))

theorem locate_eq (vector : BitVector) (index : Int) : vector.locate index =
    if vector.view.Inside index then
      .ok (BitSequence.place vector.msbAccess index.toNat / 8, BitSequence.place vector.msbAccess index.toNat % 8)
    else .error .indexOutOfBoundsException := by
  unfold locate
  by_cases negative : index < 0
  · have outside : ¬ vector.view.Inside index := fun inside => absurd inside.1 (by omega)
    rw [if_neg outside]
    rcases translateIndex_negative vector.msbAccess negative with refused | ⟨translated, below, moved⟩
    · rw [refused]
      rfl
    · rw [moved]
      exact if_pos (.inl below)
  · obtain ⟨position, rfl⟩ : ∃ position : Nat, index = position := ⟨index.toNat, by omega⟩
    have bounds := @BitSequence.place_lt vector.msbAccess position vector.data.length
    rw [translateIndex_eq]
    have same : vector.view.Inside (position : Int) ↔ position < vector.data.length * 8 := by
      unfold BitSequence.Inside view
      dsimp only
      omega
    by_cases inside : position < vector.data.length * 8
    · rw [if_pos (same.mpr inside)]
      have reached := bounds.mpr inside
      exact if_neg (by omega)
    · rw [if_neg (mt same.mp inside)]
      have missed := mt bounds.mp inside
      exact if_pos (by omega)

end Indices

section Octets

theorem testBit_mask (bit other : Fin 8) :
    ((1 : UInt8) <<< bit.val.toUInt8).toNat.testBit other.val = decide (other = bit) := by
  revert bit other
  decide

theorem testBit_withBit (bits : UInt8) (bit other : Fin 8) (set : Bool) :
    (withBit bits bit.val set).toNat.testBit other.val = if other = bit then set else bits.toNat.testBit other.val := by
  have mask := testBit_mask bit other
  unfold withBit
  generalize (1 : UInt8) <<< bit.val.toUInt8 = chosen at mask ⊢
  cases set with
  | true =>
      rw [if_pos rfl, UInt8.toNat_or, Nat.testBit_or, mask]
      by_cases same : other = bit
      · simp [same]
      · simp [same]
  | false =>
      rw [if_neg (by decide), UInt8.toNat_and, Nat.testBit_and]
      have inverted : (~~~chosen).toNat.testBit other.val = !chosen.toNat.testBit other.val := by
        change (~~~chosen.toBitVec).getLsbD other.val = !chosen.toBitVec.getLsbD other.val
        rw [BitVec.getLsbD_not]
        simp [other.isLt]
      rw [inverted, mask]
      by_cases same : other = bit
      · simp [same]
      · simp [same]

theorem packedBit_modify {data : List UInt8} {octet : Nat} (inside : octet < data.length) (bit : Fin 8) (set : Bool)
    (position : Nat) : packedBit (data.modify octet fun bits => withBit bits bit.val set) position =
      if position = octet * 8 + bit.val then set else packedBit data position := by
  unfold packedBit
  have other := testBit_withBit (data.getD octet 0) bit ⟨position % 8, Nat.mod_lt _ (by decide)⟩ set
  have place : position = octet * 8 + bit.val ↔ position / 8 = octet ∧ position % 8 = bit.val := by
    have low := bit.isLt
    omega
  by_cases here : position / 8 = octet
  · rw [here, List.getD_eq_getElem?_getD, List.getElem?_modify_eq, List.getElem?_eq_getElem inside]
    rw [List.getD_eq_getElem?_getD, List.getElem?_eq_getElem inside] at other
    refine other.trans ?_
    simp only [Fin.ext_iff, place, here, true_and, List.getD_eq_getElem?_getD, List.getElem?_eq_getElem inside]
  · rw [if_neg fun same => here (place.mp same).1, List.getD_eq_getElem?_getD,
      List.getElem?_modify_ne _ _ (Ne.symm here), ← List.getD_eq_getElem?_getD]

theorem packedBit_append (front behind : List UInt8) (position : Nat) :
    packedBit (front ++ behind) position =
      if position < front.length * 8 then packedBit front position
      else packedBit behind (position - front.length * 8) := by
  unfold packedBit
  by_cases inside : position < front.length * 8
  · rw [if_pos inside, List.getD_eq_getElem?_getD, List.getElem?_append_left (by omega), List.getD_eq_getElem?_getD]
  · rw [if_neg inside, List.getD_eq_getElem?_getD, List.getElem?_append_right (by omega), List.getD_eq_getElem?_getD]
    have octet : position / 8 - front.length = (position - front.length * 8) / 8 := by omega
    have bit : position % 8 = (position - front.length * 8) % 8 := by omega
    rw [octet, bit]

theorem packedBit_drop (data : List UInt8) (count position : Nat) :
    packedBit (data.drop count) position = packedBit data (count * 8 + position) := by
  unfold packedBit
  have octet : (count * 8 + position) / 8 = count + position / 8 := by omega
  have bit : (count * 8 + position) % 8 = position % 8 := by omega
  rw [List.getD_eq_getElem?_getD, List.getElem?_drop, octet, bit, List.getD_eq_getElem?_getD]

end Octets

section Refinement

variable {vector : BitVector}

theorem getBit_view (vector : BitVector) (index : Int) : (vector.getBit index).toOption = vector.view.get index := by
  unfold getBit BitSequence.get
  rw [locate_eq]
  by_cases inside : vector.view.Inside index
  · rw [if_pos inside, if_pos inside]
    rfl
  · rw [if_neg inside, if_neg inside]
    rfl

theorem setBit_view (vector : BitVector) (index : Int) (b : Bool) :
    (vector.setBit index b).toOption.map view = vector.view.set index b := by
  unfold setBit BitSequence.set
  rw [locate_eq]
  by_cases inside : vector.view.Inside index
  · rw [if_pos inside, if_pos inside]
    change some _ = some _
    have reached : BitSequence.place vector.msbAccess index.toNat < vector.data.length * 8 := by
      have bounds := inside.2
      have positive := inside.1
      apply BitSequence.place_lt.mpr
      change index < ((vector.data.length : Nat) : Int) * 8 at bounds
      omega
    have same : packedBit (vector.data.modify (BitSequence.place vector.msbAccess index.toNat / 8) fun bits =>
          withBit bits (BitSequence.place vector.msbAccess index.toNat % 8) b) =
        Function.update (packedBit vector.data) (BitSequence.place vector.msbAccess index.toNat) b := by
      funext position
      have octet : BitSequence.place vector.msbAccess index.toNat / 8 < vector.data.length := by omega
      have changed := packedBit_modify octet
        ⟨BitSequence.place vector.msbAccess index.toNat % 8, Nat.mod_lt _ (by decide)⟩ b position
      dsimp only at changed
      rw [changed, Function.update_apply, Nat.div_add_mod']
    unfold view
    dsimp only
    rw [List.length_modify, same]
  · rw [if_neg inside, if_neg inside]
    rfl

theorem setBytes_view (vector : BitVector) (data : List UInt8) :
    (vector.setBytes data).toOption.map view = vector.view.overwrite data.length (packedBit data) := by
  unfold setBytes BitSequence.overwrite
  by_cases fits : data.length ≤ vector.data.length
  · have inside : data.length ≤ vector.view.octets := fits
    rw [if_pos fits, if_pos inside]
    have length : (data ++ vector.data.drop data.length).length = vector.data.length := by
      rw [List.length_append, List.length_drop]
      omega
    have same : packedBit (data ++ vector.data.drop data.length) = fun position =>
        if position < data.length * 8 then packedBit data position else packedBit vector.data position := by
      funext position
      rw [packedBit_append]
      by_cases front : position < data.length * 8
      · rw [if_pos front, if_pos front]
      · rw [if_neg front, if_neg front, packedBit_drop]
        congr 1
        omega
    change some _ = some _
    unfold view
    dsimp only
    rw [length, same]
  · have outside : ¬ data.length ≤ vector.view.octets := fits
    rw [if_neg fits, if_neg outside]
    rfl

theorem forceSize_view (vector : BitVector) (size : Int) :
    (vector.forceSize size).toOption.map view = vector.view.announce size := by
  unfold forceSize BitSequence.announce
  by_cases admitted : size ≤ vector.view.octets * 8
  · have within : ¬ size > vector.data.length * 8 := Int.not_lt.mpr admitted
    rw [if_pos admitted, if_neg within]
    rfl
  · have beyond : size > vector.data.length * 8 := Int.not_le.mp admitted
    rw [if_neg admitted, if_pos beyond]
    rfl

/-- Every method does to the octets what its counterpart does to the sequence, and throws just if that is undefined. -/
theorem edit_view (vector : BitVector) (change : Edit) :
    (vector.edit change).toOption.map view = vector.view.edit change := by
  cases change with
  | setBit index b => exact setBit_view vector index b
  | toggleAccess b => rfl
  | setBytes data => exact setBytes_view vector data
  | setBytesOfSize data size =>
      have copied := setBytes_view vector data
      change (vector.setBytesOfSize data size).toOption.map view =
        (vector.view.overwrite data.length (packedBit data)).map fun sequence => { sequence with size }
      unfold setBytesOfSize
      rw [← copied]
      cases vector.setBytes data with
      | error fault => rfl
      | ok stored => rfl
  | forceSize size => exact forceSize_view vector size

theorem view_after (vector : BitVector) (change : Edit) : (vector.after change).view = vector.view.after change := by
  have step := edit_view vector change
  unfold after BitSequence.after
  rw [← step]
  cases vector.edit change with
  | error fault => rfl
  | ok changed => rfl

theorem view_foldl (vector : BitVector) (changes : List Edit) :
    (changes.foldl after vector).view = changes.foldl BitSequence.after vector.view := by
  induction changes generalizing vector with
  | nil => rfl
  | cons change changes ih =>
      rw [List.foldl_cons, List.foldl_cons, ih, view_after]

/-- Whatever has been done to a vector, in either access mode and with any announced size, its bits are those of the
sequence to which the same has been done. -/
theorem bits_after_edits (vector : BitVector) (changes : List Edit) (index : Int) :
    ((changes.foldl after vector).getBit index).toOption = (changes.foldl BitSequence.after vector.view).get index ∧
      ∀ b, ((changes.foldl after vector).setBit index b).toOption.isSome =
        decide ((changes.foldl BitSequence.after vector.view).Inside index) := by
  rw [← view_foldl]
  refine ⟨getBit_view _ index, fun b => ?_⟩
  have set := congrArg Option.isSome (setBit_view (changes.foldl after vector) index b)
  rw [Option.isSome_map] at set
  rw [set]
  unfold BitSequence.set
  split <;> simp_all

theorem setBit_inside {vector : BitVector} {index : Int} (inside : vector.view.Inside index) (b : Bool) :
    ∃ changed, vector.setBit index b = .ok changed ∧ ∀ other, (changed.getBit other).toOption =
      if other = index then some b else (vector.getBit other).toOption := by
  have set := setBit_view vector index b
  cases written : vector.setBit index b with
  | error fault =>
      rw [written] at set
      unfold BitSequence.set at set
      rw [if_pos inside] at set
      cases set
  | ok changed =>
      refine ⟨changed, rfl, fun other => ?_⟩
      rw [written] at set
      rw [getBit_view, getBit_view]
      exact BitSequence.get_set set.symm other

/-- A bit that has been set is read as it is set, every other is read as before, and an index is refused just if the
octets do not reach so far. -/
theorem setBit_getBit (vector : BitVector) (index : Int) (b : Bool) :
    if vector.view.Inside index then
      ∃ changed, vector.setBit index b = .ok changed ∧ ∀ other, (changed.getBit other).toOption =
        if other = index then some b else (vector.getBit other).toOption
    else (vector.setBit index b).toOption = none ∧ (vector.getBit index).toOption = none := by
  by_cases inside : vector.view.Inside index
  · rw [if_pos inside]
    exact setBit_inside inside b
  · have set := setBit_view vector index b
    rw [if_neg inside]
    unfold BitSequence.set at set
    rw [if_neg inside] at set
    refine ⟨Option.map_eq_none_iff.mp set, ?_⟩
    rw [getBit_view]
    exact if_neg inside

end Refinement

end BitVector

end EtherNetIP.Modbus
