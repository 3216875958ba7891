import Mathlib.Algebra.Order.Ring.Int
import Mathlib.Data.List.GetD

/-! Cyclic redundancy checks that take the lowest bit first.

The check word of any width is shifted towards its low end, one bit of the
message at a time; when a one falls out the polynomial is added. Shifting is
linear, so that a table of the words of one octet is enough to shift by eight
bits at once. When the polynomial has its top bit no two words are shifted to
the same one, and words as long as the check word are told apart.
-/

set_option autoImplicit false

namespace EtherNetIP.Library

variable {width : Nat}

def crcShift (polynomial crc : BitVec width) : BitVec width :=
  if crc.getLsbD 0 then (crc >>> 1) ^^^ polynomial else crc >>> 1

def crcShifts (polynomial : BitVec width) : Nat → BitVec width → BitVec width
  | 0, crc => crc
  | count + 1, crc => crcShifts polynomial count (crcShift polynomial crc)

def crcOctet (polynomial crc : BitVec width) (octet : BitVec 8) : BitVec width :=
  crcShifts polynomial 8 (crc ^^^ octet.setWidth width)

def crcOctets (polynomial crc : BitVec width) (octets : List (BitVec 8)) : BitVec width :=
  octets.foldl (crcOctet polynomial) crc

def lowFirst : Nat → BitVec width → List (BitVec 8)
  | 0, _ => []
  | count + 1, word => word.setWidth 8 :: lowFirst count (word >>> 8)

section Linear

variable {polynomial : BitVec width}

theorem crcShift_xor (left right : BitVec width) :
    crcShift polynomial (left ^^^ right) = crcShift polynomial left ^^^ crcShift polynomial right := by
  unfold crcShift
  rw [BitVec.getLsbD_xor, BitVec.ushiftRight_xor_distrib]
  cases left.getLsbD 0 with
  | false =>
      cases right.getLsbD 0 with
      | false => rfl
      | true => exact BitVec.xor_assoc ..
  | true =>
      cases right.getLsbD 0 with
      | false =>
          change left >>> 1 ^^^ right >>> 1 ^^^ polynomial = left >>> 1 ^^^ polynomial ^^^ right >>> 1
          rw [BitVec.xor_assoc, BitVec.xor_comm (right >>> 1), ← BitVec.xor_assoc]
      | true =>
          -- the polynomial is added twice
          change left >>> 1 ^^^ right >>> 1 = left >>> 1 ^^^ polynomial ^^^ (right >>> 1 ^^^ polynomial)
          have twice : polynomial ^^^ (polynomial ^^^ right >>> 1) = right >>> 1 := by
            rw [← BitVec.xor_assoc, BitVec.xor_self, BitVec.zero_xor]
          rw [BitVec.xor_comm (right >>> 1) polynomial, BitVec.xor_assoc, twice]

theorem crcShifts_xor (count : Nat) (left right : BitVec width) :
    crcShifts polynomial count (left ^^^ right) =
      crcShifts polynomial count left ^^^ crcShifts polynomial count right := by
  induction count generalizing left right with
  | zero => rfl
  | succ count ih =>
      simp only [crcShifts]
      rw [crcShift_xor]
      exact ih _ _

theorem crcShifts_of_clear {count : Nat} {word : BitVec width} (clear : ∀ bit < count, word.getLsbD bit = false) :
    crcShifts polynomial count word = word >>> count := by
  induction count generalizing word with
  | zero => exact (BitVec.ushiftRight_zero word).symm
  | succ count ih =>
      have once : crcShift polynomial word = word >>> 1 := by
        unfold crcShift
        rw [clear 0 (Nat.succ_pos count)]
        rfl
      have behind : ∀ bit < count, (word >>> 1).getLsbD bit = false := by
        intro bit inside
        rw [BitVec.getLsbD_ushiftRight]
        exact clear (1 + bit) (by omega)
      simp only [crcShifts]
      rw [once, ih behind, ← BitVec.shiftRight_add, Nat.add_comm]

def lowPart (count : Nat) (word : BitVec width) : BitVec width := (word.setWidth count).setWidth width

/-- The part above is shifted, and the low part is what the table has to know. -/
theorem crcShifts_split (count : Nat) (word : BitVec width) :
    crcShifts polynomial count word = (word >>> count) ^^^ crcShifts polynomial count (lowPart count word) := by
  have parts : word = ((word >>> count) <<< count) ^^^ lowPart count word := by
    apply BitVec.eq_of_getLsbD_eq
    intro bit inside
    simp only [lowPart, BitVec.getLsbD_xor, BitVec.getLsbD_shiftLeft, BitVec.getLsbD_ushiftRight,
      BitVec.getLsbD_setWidth, inside, decide_true, Bool.true_and]
    by_cases low : bit < count
    · simp [low]
    · simp [low, Nat.add_sub_cancel' (Nat.le_of_not_lt low)]
  have clear : ∀ bit < count, ((word >>> count) <<< count).getLsbD bit = false := by
    intro bit low
    simp [BitVec.getLsbD_shiftLeft, low]
  have back : (word >>> count) <<< count >>> count = word >>> count := by
    apply BitVec.eq_of_getLsbD_eq
    intro bit inside
    simp only [BitVec.getLsbD_shiftLeft, BitVec.getLsbD_ushiftRight]
    by_cases fits : count + bit < width
    · simp [fits]
    · simp [BitVec.getLsbD_of_ge word (count + bit) (by omega)]
  calc crcShifts polynomial count word
      = crcShifts polynomial count (((word >>> count) <<< count) ^^^ lowPart count word) := by rw [← parts]
    _ = _ := by rw [crcShifts_xor, crcShifts_of_clear clear, back]

/-- An octet at once: the word without its low octet, and the table's word of the octet that falls out. -/
theorem crcOctet_eq (crc : BitVec width) (octet : BitVec 8) :
    crcOctet polynomial crc octet =
      (crc >>> 8) ^^^ crcShifts polynomial 8 ((crc.setWidth 8 ^^^ octet).setWidth width) := by
  have low : lowPart 8 (crc ^^^ octet.setWidth width) =
      (crc.setWidth 8 ^^^ octet).setWidth width := by
    apply BitVec.eq_of_getLsbD_eq
    intro bit inside
    simp only [lowPart, BitVec.getLsbD_setWidth, BitVec.getLsbD_xor, inside, decide_true, Bool.true_and]
    by_cases octets : bit < 8
    · simp [octets]
    · simp [octets, BitVec.getLsbD_of_ge octet bit (by omega)]
  have gone : octet.setWidth width >>> 8 = 0 := by
    apply BitVec.eq_of_getLsbD_eq
    intro bit inside
    simp [BitVec.getLsbD_ushiftRight]
  unfold crcOctet
  rw [crcShifts_split, low, BitVec.ushiftRight_xor_distrib, gone]
  simp

end Linear

section Residue

variable {polynomial : BitVec width}

theorem crcOctets_append (crc : BitVec width) (front behind : List (BitVec 8)) :
    crcOctets polynomial crc (front ++ behind) = crcOctets polynomial (crcOctets polynomial crc front) behind :=
  List.foldl_append

theorem crcShifts_zero (count : Nat) : crcShifts polynomial count (BitVec.ofNat width 0) = BitVec.ofNat width 0 := by
  rw [crcShifts_of_clear fun _ _ => BitVec.getLsbD_zero, BitVec.zero_ushiftRight]

theorem crcOctet_own (crc : BitVec width) : crcOctet polynomial crc (crc.setWidth 8) = crc >>> 8 := by
  have none : (crc.setWidth 8 ^^^ crc.setWidth 8).setWidth width = BitVec.ofNat width 0 := by simp
  rw [crcOctet_eq, none, crcShifts_zero, BitVec.xor_zero]

theorem crcOctets_own (count : Nat) (crc : BitVec width) :
    crcOctets polynomial crc (lowFirst count crc) = crc >>> (8 * count) := by
  induction count generalizing crc with
  | zero => exact (BitVec.ushiftRight_zero crc).symm
  | succ count ih =>
      have first : crcOctets polynomial crc (lowFirst (count + 1) crc) =
          crcOctets polynomial (crcOctet polynomial crc (crc.setWidth 8)) (lowFirst count (crc >>> 8)) := rfl
      rw [first, crcOctet_own, ih, ← BitVec.shiftRight_add, Nat.mul_succ, Nat.add_comm]

theorem crcOctets_with_own {count : Nat} (whole : width ≤ 8 * count) (crc : BitVec width) (octets : List (BitVec 8)) :
    crcOctets polynomial crc (octets ++ lowFirst count (crcOctets polynomial crc octets)) = BitVec.ofNat width 0 := by
  rw [crcOctets_append, crcOctets_own]
  apply BitVec.eq_of_getLsbD_eq
  intro bit _
  rw [BitVec.getLsbD_ushiftRight, BitVec.getLsbD_of_ge _ _ (by omega), BitVec.getLsbD_zero]

end Residue

section Bits

variable {polynomial : BitVec width}

def crcBits (polynomial crc : BitVec width) (bits : List Bool) : BitVec width :=
  bits.foldl (fun crc bit => crcShift polynomial (crc ^^^ (BitVec.ofBool bit).setWidth width)) crc

/-- The bits of an octet in the order in which they are sent. -/
def octetBits (octet : BitVec 8) : List Bool := (List.range 8).map octet.getLsbD

/-- The word that has the bits from its low end on. -/
def packed (width : Nat) : List Bool → BitVec width
  | [] => BitVec.ofNat width 0
  | bit :: bits => (BitVec.ofBool bit).setWidth width ^^^ (packed width bits <<< 1)

theorem getLsbD_packed {bits : List Bool} {bit : Nat} (inside : bit < width) :
    (packed width bits).getLsbD bit = bits.getD bit false := by
  induction bits generalizing bit with
  | nil => simp [packed]
  | cons first bits ih =>
      cases bit with
      | zero => simp [packed, inside]
      | succ bit =>
          have further := ih (Nat.lt_of_succ_lt inside)
          have shifted : (packed width (first :: bits)).getLsbD (bit + 1) = (packed width bits).getLsbD bit := by
            simp only [packed, BitVec.getLsbD_xor, BitVec.getLsbD_setWidth, BitVec.getLsbD_shiftLeft, inside,
              decide_true, Bool.true_and]
            simp
          rw [shifted, further, List.getD_cons_succ]

theorem crcBits_eq {bits : List Bool} (short : bits.length ≤ width) (crc : BitVec width) :
    crcBits polynomial crc bits = crcShifts polynomial bits.length (crc ^^^ packed width bits) := by
  induction bits generalizing crc with
  | nil => exact (BitVec.xor_zero).symm
  | cons bit bits ih =>
      have shorter : bits.length < width := short
      have clear : ∀ position < 1, (packed width bits <<< 1).getLsbD position = false := by
        intro position low
        simp [BitVec.getLsbD_shiftLeft, low]
      -- the bits further behind have not reached the low end when they are shifted once
      have behind : crcShift polynomial (packed width bits <<< 1) = packed width bits := by
        have once := @crcShifts_of_clear width polynomial 1 _ clear
        rw [crcShifts, crcShifts] at once
        rw [once]
        apply BitVec.eq_of_getLsbD_eq
        intro position inside
        rw [BitVec.getLsbD_ushiftRight, BitVec.getLsbD_shiftLeft]
        by_cases top : 1 + position < width
        · simp [top]
        · have last : bits.length ≤ position := by omega
          rw [getLsbD_packed inside, List.getD_eq_default _ _ last]
          simp [top]
      calc crcBits polynomial crc (bit :: bits)
          = crcBits polynomial (crcShift polynomial (crc ^^^ (BitVec.ofBool bit).setWidth width)) bits := rfl
        _ = crcShifts polynomial bits.length
              (crcShift polynomial (crc ^^^ (BitVec.ofBool bit).setWidth width) ^^^ packed width bits) :=
            ih (Nat.le_of_lt shorter) _
        _ = crcShifts polynomial bits.length
              (crcShift polynomial (crc ^^^ ((BitVec.ofBool bit).setWidth width ^^^ packed width bits <<< 1))) := by
            rw [← BitVec.xor_assoc, crcShift_xor (_ ^^^ _) (packed width bits <<< 1), behind]

theorem crcBits_append (crc : BitVec width) (front behind : List Bool) :
    crcBits polynomial crc (front ++ behind) = crcBits polynomial (crcBits polynomial crc front) behind :=
  List.foldl_append

theorem octetBits_injective {octet other : BitVec 8} (same : octetBits octet = octetBits other) : octet = other := by
  apply BitVec.eq_of_getLsbD_eq
  intro bit inside
  exact List.map_inj_left.mp same bit (List.mem_range.mpr inside)

theorem octets_of_bits {octets others : List (BitVec 8)}
    (same : octets.flatMap octetBits = others.flatMap octetBits) : octets = others := by
  have length (octet : BitVec 8) : (octetBits octet).length = 8 := by simp [octetBits]
  induction octets generalizing others with
  | nil =>
      cases others with
      | nil => rfl
      | cons other others =>
          have none := congrArg List.length same
          rw [List.flatMap_cons, List.length_append, length, List.flatMap_nil, List.length_nil] at none
          omega
  | cons octet octets ih =>
      cases others with
      | nil =>
          have none := congrArg List.length same
          rw [List.flatMap_cons, List.length_append, length, List.flatMap_nil, List.length_nil] at none
          omega
      | cons other others =>
          rw [List.flatMap_cons, List.flatMap_cons] at same
          obtain ⟨first, rest⟩ := List.append_inj same ((length octet).trans (length other).symm)
          rw [octetBits_injective first, ih rest]

theorem crcOctets_eq_bits (wide : 8 ≤ width) (crc : BitVec width) (octets : List (BitVec 8)) :
    crcOctets polynomial crc octets = crcBits polynomial crc (octets.flatMap octetBits) := by
  have one : ∀ (crc : BitVec width) (octet : BitVec 8),
      crcOctet polynomial crc octet = crcBits polynomial crc (octetBits octet) := by
    intro crc octet
    have same : octet.setWidth width = packed width (octetBits octet) := by
      apply BitVec.eq_of_getLsbD_eq
      intro position inside
      rw [getLsbD_packed inside, BitVec.getLsbD_setWidth, octetBits, List.getD_eq_getElem?_getD, List.getElem?_map]
      by_cases low : position < 8
      · simp [inside, low]
      · simp [inside, low, BitVec.getLsbD_of_ge octet position (Nat.le_of_not_lt low)]
    have length : (octetBits octet).length = 8 := by simp [octetBits]
    rw [crcBits_eq (by omega), length, ← same]
    rfl
  induction octets generalizing crc with
  | nil => rfl
  | cons octet octets ih =>
      rw [List.flatMap_cons, crcBits_append, ← one]
      exact ih _

end Bits

section Bursts

variable {polynomial : BitVec width}

/-- With its top bit in the polynomial a word can be told from the word it is shifted to. -/
theorem crcShift_injective (top : polynomial.getLsbD (width - 1) = true) {left right : BitVec width}
    (same : crcShift polynomial left = crcShift polynomial right) : left = right := by
  have difference : crcShift polynomial (left ^^^ right) = BitVec.ofNat width 0 := by
    rw [crcShift_xor, same, BitVec.xor_self]
  have shifted : (left ^^^ right).getLsbD 0 = false ∧ (left ^^^ right) >>> 1 = BitVec.ofNat width 0 := by
    unfold crcShift at difference
    cases low : (left ^^^ right).getLsbD 0 with
    | false => exact ⟨rfl, by simpa [low] using difference⟩
    | true =>
        rw [low, if_pos rfl] at difference
        -- the top bit of a shifted word is zero
        have last := congrArg (·.getLsbD (width - 1)) difference
        have positive : 0 < width := by
          by_contra none
          rw [BitVec.getLsbD_of_ge _ _ (by omega)] at low
          cases low
        simp [BitVec.getLsbD_ushiftRight, top, BitVec.getLsbD_of_ge _ (1 + (width - 1)) (show width ≤ _ by omega)] at last
  have zero : left ^^^ right = BitVec.ofNat width 0 := by
    apply BitVec.eq_of_getLsbD_eq
    intro position _
    rw [BitVec.getLsbD_zero]
    cases position with
    | zero => exact shifted.1
    | succ position =>
        have bit := congrArg (·.getLsbD position) shifted.2
        rwa [BitVec.getLsbD_ushiftRight, BitVec.getLsbD_zero, Nat.add_comm] at bit
  exact BitVec.xor_eq_zero_iff.mp zero

theorem crcShifts_injective (top : polynomial.getLsbD (width - 1) = true) {count : Nat} {left right : BitVec width}
    (same : crcShifts polynomial count left = crcShifts polynomial count right) : left = right := by
  induction count generalizing left right with
  | zero => exact same
  | succ count ih => exact crcShift_injective top (ih same)

theorem crcBits_injective (top : polynomial.getLsbD (width - 1) = true) {bits : List Bool} {left right : BitVec width}
    (same : crcBits polynomial left bits = crcBits polynomial right bits) : left = right := by
  induction bits generalizing left right with
  | nil => exact same
  | cons bit bits ih => exact (BitVec.xor_left_inj _).mp (crcShift_injective top (ih same))

/-- Bits that are no more than the check word has are determined by it. -/
theorem burst_determined (top : polynomial.getLsbD (width - 1) = true) {crc : BitVec width}
    {front burst other behind : List Bool} (long : burst.length = other.length) (short : burst.length ≤ width)
    (same : crcBits polynomial crc (front ++ burst ++ behind) = crcBits polynomial crc (front ++ other ++ behind)) :
    burst = other := by
  rw [crcBits_append, crcBits_append _ (front ++ other)] at same
  have inside := crcBits_injective top same
  have otherShort : other.length ≤ width := by omega
  rw [crcBits_append, crcBits_append _ front, crcBits_eq short, crcBits_eq otherShort, long] at inside
  have words : packed width burst = packed width other := (BitVec.xor_right_inj _).mp (crcShifts_injective top inside)
  apply List.ext_getElem long
  intro position here there
  have bit := congrArg (·.getLsbD position) words
  rw [getLsbD_packed (by omega), getLsbD_packed (by omega), List.getD_eq_getElem _ _ here,
    List.getD_eq_getElem _ _ there] at bit
  exact bit

end Bursts

end EtherNetIP.Library
