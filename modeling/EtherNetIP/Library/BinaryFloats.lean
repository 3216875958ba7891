import Mathlib.Algebra.Order.Ring.Int

/-! The bits of the floating point number that is nearest to a whole number.

The exponent tells where the most significant bit of the number is. Below it
stand as many bits as the format has room for, with one added at most where
others have been cut off.
-/

set_option autoImplicit false

open Float.Model Float.Model.UnpackedFloat

namespace EtherNetIP.Library

variable {format : Format} {number : Nat} {sign : Sign}

/-- The bits of the number from the most significant one on, and zeros if there are too few. -/
def leadingBits (count number : Nat) : Nat :=
  number * 2 ^ (count - number.log2) / 2 ^ (number.log2 - count)

section LeadingBits

variable {count : Nat}

theorem two_pow_le_leadingBits (nonzero : number ≠ 0) : 2 ^ count ≤ leadingBits count number := by
  unfold leadingBits
  rw [Nat.le_div_iff_mul_le (Nat.two_pow_pos _), ← Nat.pow_add]
  calc 2 ^ (count + (number.log2 - count)) = 2 ^ (number.log2 + (count - number.log2)) := by congr 1; omega
    _ = 2 ^ number.log2 * 2 ^ (count - number.log2) := Nat.pow_add ..
    _ ≤ number * 2 ^ (count - number.log2) := Nat.mul_le_mul_right _ (Nat.log2_self_le nonzero)

theorem leadingBits_lt : leadingBits count number < 2 ^ (count + 1) := by
  unfold leadingBits
  rw [Nat.div_lt_iff_lt_mul (Nat.two_pow_pos _), ← Nat.pow_add]
  calc number * 2 ^ (count - number.log2) < 2 ^ (number.log2 + 1) * 2 ^ (count - number.log2) :=
        Nat.mul_lt_mul_of_pos_right Nat.lt_log2_self (Nat.two_pow_pos _)
    _ = 2 ^ (number.log2 + 1 + (count - number.log2)) := (Nat.pow_add ..).symm
    _ = 2 ^ (count + 1 + (number.log2 - count)) := by congr 1; omega

theorem leadingBits_of_long (long : count ≤ number.log2) :
    leadingBits count number = number / 2 ^ (number.log2 - count) := by
  rw [leadingBits, Nat.sub_eq_zero_of_le long, Nat.pow_zero, Nat.mul_one]

theorem testBit_leadingBits (position : Nat) : (leadingBits count number).testBit position =
    (decide (count ≤ position + number.log2) && number.testBit (position + number.log2 - count)) := by
  rw [leadingBits, Nat.testBit_div_two_pow, Nat.testBit_mul_two_pow]
  by_cases within : count ≤ position + number.log2
  · have same : position + (number.log2 - count) - (count - number.log2) = position + number.log2 - count := by omega
    rw [same]
    congr 1
    rw [decide_eq_decide]
    omega
  · have outside : ¬ count - number.log2 ≤ position + (number.log2 - count) := by omega
    rw [decide_eq_false within, decide_eq_false outside, Bool.false_and, Bool.false_and]

theorem exists_carry (number : Nat) : ∃ place, (number + 1).testBit place = true ∧
    (∀ below < place, (number + 1).testBit below = false) ∧
    ∀ above, place < above → (number + 1).testBit above = number.testBit above := by
  induction number using Nat.strongRecOn with
  | ind number ih =>
      by_cases even : number % 2 = 0
      · have half : (number + 1) / 2 = number / 2 := by omega
        refine ⟨0, ?_, fun below within => absurd within (Nat.not_lt_zero _), fun above beyond => ?_⟩
        · rw [Nat.testBit_zero, decide_eq_true]
          omega
        · obtain ⟨above, rfl⟩ := Nat.exists_eq_add_of_lt beyond
          rw [Nat.zero_add, Nat.testBit_succ, Nat.testBit_succ, half]
      · have half : (number + 1) / 2 = number / 2 + 1 := by omega
        obtain ⟨place, set, clear, kept⟩ := ih (number / 2) (by omega)
        refine ⟨place + 1, ?_, fun below within => ?_, fun above beyond => ?_⟩
        · rw [Nat.testBit_succ, half, set]
        · cases below with
          | zero =>
              rw [Nat.testBit_zero, decide_eq_false]
              omega
          | succ below => rw [Nat.testBit_succ, half, clear below (by omega)]
        · obtain ⟨above, rfl⟩ := Nat.exists_eq_add_of_lt beyond
          rw [Nat.testBit_succ, Nat.testBit_succ, half, kept _ (by omega)]

end LeadingBits

section Rounding

theorem mantissa_shiftRight (extended : ExtendedMantissa) (amount : Nat) :
    (extended >>> amount).mantissa = extended.mantissa / 2 ^ amount := by
  induction amount with
  | zero => exact (Nat.div_one _).symm
  | succ amount ih =>
      change (extended >>> amount).mantissa / 2 = _
      rw [ih, Nat.div_div_eq_div_mul, Nat.pow_succ]

theorem roundedMantissa_eq (extended : ExtendedMantissa) :
    ∃ up ≤ 1, extended.roundedMantissa = extended.mantissa + up := by
  obtain ⟨mantissa, roundBit, stickyBit⟩ := extended
  cases roundBit with
  | false =>
      refine ⟨0, by decide, ?_⟩
      cases stickyBit <;> rfl
  | true =>
      cases stickyBit with
      | false => exact ⟨mantissa % 2, by omega, rfl⟩
      | true => exact ⟨1, by decide, rfl⟩

theorem mantissaBits_eq : format.mantissaBits = 1 + format.mantissaBitsWithoutImplicit := rfl

theorem targetExponent_eq (wide : 2 ≤ format.exponentBits) {total : Int} (large : 1 ≤ total) :
    format.targetExponent total = total - 1 - format.mantissaBitsWithoutImplicit := by
  have range : (2 : Int) ≤ 2 ^ (format.exponentBits - 1) :=
    calc (2 : Int) = ((2 ^ 1 : Nat) : Int) := rfl
      _ ≤ ((2 ^ (format.exponentBits - 1) : Nat) : Int) :=
          Int.ofNat_le.mpr (Nat.pow_le_pow_right (by decide) (by omega))
      _ = 2 ^ (format.exponentBits - 1) := by rw [Int.natCast_pow]; rfl
  have bits := @mantissaBits_eq format
  unfold Format.targetExponent Format.minExponent
  omega

theorem log2_shiftLeft (nonzero : number ≠ 0) (amount : Nat) : (number <<< amount).log2 = number.log2 + amount := by
  have positive : number <<< amount ≠ 0 := by
    rw [Nat.shiftLeft_eq]
    exact Nat.mul_ne_zero nonzero (Nat.ne_of_gt (Nat.two_pow_pos _))
  rw [Nat.log2_eq_iff positive, Nat.shiftLeft_eq, Nat.add_right_comm, Nat.pow_add, Nat.pow_add]
  exact ⟨Nat.mul_le_mul_right _ (Nat.log2_self_le nonzero),
    Nat.mul_lt_mul_of_pos_right Nat.lt_log2_self (Nat.two_pow_pos _)⟩

theorem shift_leadingBits (wide : 2 ≤ format.exponentBits) (nonzero : number ≠ 0) :
    let decreased := decreaseExponent number 0 (format.targetExponent (totalExponent number 0))
    ∃ extended : ExtendedMantissa, extended.mantissa = leadingBits format.mantissaBitsWithoutImplicit number ∧
      (number.log2 ≤ format.mantissaBitsWithoutImplicit → extended.roundedMantissa = extended.mantissa) ∧
      shiftToTargetExponent format decreased.1 decreased.2 .exact =
        (extended, (number.log2 : Int) - format.mantissaBitsWithoutImplicit) := by
  dsimp only
  have target : format.targetExponent (totalExponent number 0) =
      number.log2 - format.mantissaBitsWithoutImplicit := by
    rw [totalExponent, targetExponent_eq wide (by omega)]
    omega
  have amount : ((0 : Int) - (number.log2 - format.mantissaBitsWithoutImplicit)).toNat =
      format.mantissaBitsWithoutImplicit - number.log2 := by omega
  rw [target]
  unfold decreaseExponent shiftToTargetExponent shiftToExponent
  dsimp only
  rw [amount, totalExponent, log2_shiftLeft nonzero, targetExponent_eq wide (by omega)]
  refine ⟨_, ?_, fun short => ?_, Prod.ext rfl ?_⟩
  · rw [mantissa_shiftRight, leadingBits, ← Nat.shiftLeft_eq]
    congr 2
    omega
  · have nothing : ((number.log2 + (format.mantissaBitsWithoutImplicit - number.log2) : Nat) + 1 +
        (0 - (format.mantissaBitsWithoutImplicit - number.log2 : Nat)) - 1 - format.mantissaBitsWithoutImplicit -
        (0 - (format.mantissaBitsWithoutImplicit - number.log2 : Nat)) : Int).toNat = 0 := by omega
    rw [nothing]
    rfl
  · dsimp only
    omega

theorem shiftToTargetExponent_exact (mantissa : Nat) {exponent : Int}
    (fits : format.targetExponent (totalExponent mantissa exponent) = exponent) :
    shiftToTargetExponent format mantissa exponent .exact = (⟨mantissa, false, false⟩, exponent) := by
  unfold shiftToTargetExponent shiftToExponent
  dsimp only
  rw [fits, Int.sub_self]
  exact congrArg (Prod.mk _) (Int.add_zero exponent)

/-- A mantissa that has become too long by the rounding is a power of two, which loses one zero. -/
theorem shiftToTargetExponent_full {exponent : Int} (wide : 2 ≤ format.exponentBits)
    (large : 0 ≤ exponent + format.mantissaBitsWithoutImplicit) :
    ∃ carried : ExtendedMantissa, carried.mantissa = 2 ^ format.mantissaBitsWithoutImplicit ∧
      shiftToTargetExponent format (2 ^ (format.mantissaBitsWithoutImplicit + 1)) exponent .exact =
        (carried, exponent + 1) := by
  have once : (((format.mantissaBitsWithoutImplicit + 1 : Nat) : Int) + 1 + exponent - 1 -
      format.mantissaBitsWithoutImplicit - exponent).toNat = 1 := by omega
  unfold shiftToTargetExponent shiftToExponent
  dsimp only
  rw [totalExponent, Nat.log2_two_pow, targetExponent_eq wide (by omega), once]
  refine ⟨_, ?_, rfl⟩
  rw [mantissa_shiftRight, Nat.pow_one, Nat.pow_succ]
  exact Nat.mul_div_cancel _ (by decide)

theorem toNat_pack_finite {mantissa biased : Nat} {exponent : Int} (positive : 0 < mantissa)
    (least : 2 ^ format.mantissaBitsWithoutImplicit ≤ mantissa)
    (most : mantissa < 2 ^ (format.mantissaBitsWithoutImplicit + 1))
    (exponent_ : exponent + format.exponentBias + format.mantissaBitsWithoutImplicit = biased + 1)
    (inRange : biased + 2 < 2 ^ format.exponentBits) :
    (UnpackedFloat.pack format (.finite sign mantissa exponent positive)).toNat =
      sign.toBitVec.toNat * 2 ^ (format.exponentBits + format.mantissaBitsWithoutImplicit) +
        (biased * 2 ^ format.mantissaBitsWithoutImplicit + mantissa) := by
  have normal : mantissa.log2 + 1 = format.mantissaBits := by
    rw [(Nat.log2_eq_iff (by omega)).mpr ⟨least, most⟩, mantissaBits_eq, Nat.add_comm]
  have biased_ : (exponent + format.exponentBias + format.mantissaBitsWithoutImplicit).toNat = biased + 1 := by omega
  have rest : mantissa % 2 ^ format.mantissaBitsWithoutImplicit = mantissa - 2 ^ format.mantissaBitsWithoutImplicit := by
    rw [Nat.pow_succ] at most
    rw [Nat.mod_eq_sub_mod least, Nat.mod_eq_of_lt (by omega)]
  unfold UnpackedFloat.pack
  dsimp only
  rw [biased_, if_neg (by omega), if_pos normal, packComponents, BitVec.toNat_append, BitVec.toNat_append,
    BitVec.toNat_ofNat, BitVec.toNat_ofNat, rest, Nat.mod_eq_of_lt (by omega),
    ← Nat.shiftLeft_add_eq_or_of_lt (by omega), ← Nat.shiftLeft_add_eq_or_of_lt (by rw [Nat.pow_succ] at most; omega),
    Nat.shiftLeft_eq, Nat.shiftLeft_eq, Nat.add_mul, Nat.pow_add, Nat.mul_assoc, Nat.add_mul, Nat.one_mul]
  omega

/-- A number is packed as its exponent, its leading bits and one more at most. -/
theorem toNat_pack_round (wide : 2 ≤ format.exponentBits) (nonzero : number ≠ 0)
    (inRange : number.log2 + format.exponentBias + 2 < 2 ^ format.exponentBits) :
    ∃ up ≤ 1, (number.log2 ≤ format.mantissaBitsWithoutImplicit → up = 0) ∧
      (UnpackedFloat.pack format (round format sign number 0)).toNat =
        sign.toBitVec.toNat * 2 ^ (format.exponentBits + format.mantissaBitsWithoutImplicit) +
          ((number.log2 + format.exponentBias - 1) * 2 ^ format.mantissaBitsWithoutImplicit +
            (leadingBits format.mantissaBitsWithoutImplicit number + up)) := by
  have range : 2 ^ 1 ≤ 2 ^ (format.exponentBits - 1) := Nat.pow_le_pow_right (by decide) (by omega)
  have bias : 1 ≤ format.exponentBias := by
    rw [Format.exponentBias]
    omega
  obtain ⟨extended, mantissa, exact_, shifted⟩ := shift_leadingBits wide nonzero
  obtain ⟨up, one, rounded⟩ := roundedMantissa_eq extended
  have least := @two_pow_le_leadingBits number format.mantissaBitsWithoutImplicit nonzero
  have most := @leadingBits_lt number format.mantissaBitsWithoutImplicit
  rw [mantissa] at rounded exact_
  refine ⟨up, one, fun short => by rw [exact_ short] at rounded; omega, ?_⟩
  unfold UnpackedFloat.round roundWithAccuracy
  dsimp only
  rw [shifted]
  dsimp only
  rw [rounded]
  by_cases full : leadingBits format.mantissaBitsWithoutImplicit number + up <
      2 ^ (format.mantissaBitsWithoutImplicit + 1)
  · have log : (leadingBits format.mantissaBitsWithoutImplicit number + up).log2 =
        format.mantissaBitsWithoutImplicit := (Nat.log2_eq_iff (by omega)).mpr ⟨by omega, full⟩
    have fits : format.targetExponent (totalExponent (leadingBits format.mantissaBitsWithoutImplicit number + up)
        (number.log2 - format.mantissaBitsWithoutImplicit)) = number.log2 - format.mantissaBitsWithoutImplicit := by
      rw [totalExponent, log, targetExponent_eq wide (by omega)]
      omega
    rw [shiftToTargetExponent_exact _ fits]
    dsimp only
    rw [dif_neg (by omega)]
    exact toNat_pack_finite _ (by omega) full (by omega) (by omega)
  · -- The mantissa has become too long by the rounding: it is a power of two now.
    have power : leadingBits format.mantissaBitsWithoutImplicit number + up =
        2 ^ (format.mantissaBitsWithoutImplicit + 1) := by omega
    obtain ⟨carried, mantissa_, shiftedAgain⟩ := @shiftToTargetExponent_full format
      (number.log2 - format.mantissaBitsWithoutImplicit) wide (by omega)
    rw [power, shiftedAgain]
    dsimp only
    rw [dif_neg (by rw [mantissa_]; exact Nat.ne_of_gt (Nat.two_pow_pos _))]
    have above : 2 ^ format.mantissaBitsWithoutImplicit < 2 ^ (format.mantissaBitsWithoutImplicit + 1) :=
      Nat.pow_lt_pow_right (by decide) (Nat.lt_succ_self _)
    rw [@toNat_pack_finite format sign carried.mantissa (number.log2 + format.exponentBias) _ _ (by omega) (by omega)
      (by omega) inRange, mantissa_]
    obtain ⟨biased, next⟩ := Nat.exists_eq_add_of_le' (Nat.le_add_left_of_le bias)
    rw [next, Nat.add_sub_cancel, Nat.add_mul, Nat.one_mul, Nat.pow_succ]
    omega

end Rounding

section Conversions

theorem ofInt_eq {integer : Int} (nonzero : integer ≠ 0) : UnpackedFloat.ofInt format integer =
    round format (if integer < 0 then .negative else .positive) integer.natAbs 0 := by
  unfold UnpackedFloat.ofInt UnpackedFloat.normalize
  by_cases negative : integer < 0
  · rw [if_pos negative, Int.compare_eq_lt.mpr negative]
    dsimp only
    congr 1
    omega
  · rw [if_neg negative, Int.compare_eq_gt.mpr (by omega)]
    dsimp only
    congr 1
    omega

theorem toNat_ofUInt64 {integer : UInt64} (nonzero : integer.toNat ≠ 0) :
    ∃ up ≤ 1, (integer.toNat.log2 ≤ 52 → up = 0) ∧ (Float.Model.ofUInt64 integer).toBits.toNat =
      (integer.toNat.log2 + 1022) * 2 ^ 52 + (leadingBits 52 integer.toNat + up) := by
  have small : integer.toNat.log2 < 64 := (Nat.log2_lt nonzero).mpr integer.toNat_lt
  obtain ⟨up, one, exact_, packed⟩ := @toNat_pack_round Format.binary64 integer.toNat .positive (by decide) nonzero
    (by change integer.toNat.log2 + 1023 + 2 < 2048; omega)
  refine ⟨up, one, exact_, ?_⟩
  have converted : UnpackedFloat.ofUInt64 Format.binary64 integer = round Format.binary64 .positive integer.toNat 0 :=
    (ofInt_eq (by omega)).trans (by rw [if_neg (by omega)]; rfl)
  change (UnpackedFloat.pack Format.binary64 (UnpackedFloat.ofUInt64 Format.binary64 integer)).toNat = _
  rw [converted, packed]
  change 0 * _ + ((integer.toNat.log2 + 1023 - 1) * 2 ^ 52 + (leadingBits 52 integer.toNat + up)) = _
  omega

theorem toNat_ofInt32 {integer : Int32} (nonzero : integer.toInt ≠ 0) :
    ∃ up ≤ 1, (Float32.Model.ofInt32 integer).toBits.toNat = (if integer.toInt < 0 then 2 ^ 31 else 0) +
      ((integer.toInt.natAbs.log2 + 126) * 2 ^ 23 + (leadingBits 23 integer.toInt.natAbs + up)) := by
  have least := integer.le_toInt
  have most := integer.toInt_lt
  have nonzero_ : integer.toInt.natAbs ≠ 0 := by omega
  have small : integer.toInt.natAbs.log2 < 32 := (Nat.log2_lt nonzero_).mpr (by omega)
  obtain ⟨up, one, -, packed⟩ := @toNat_pack_round Format.binary32 integer.toInt.natAbs
    (if integer.toInt < 0 then .negative else .positive) (by decide) nonzero_
    (by change integer.toInt.natAbs.log2 + 127 + 2 < 256; omega)
  refine ⟨up, one, ?_⟩
  change (UnpackedFloat.pack Format.binary32 (UnpackedFloat.ofInt Format.binary32 integer.toInt)).toNat = _
  rw [ofInt_eq nonzero, packed]
  change _ + ((integer.toInt.natAbs.log2 + 127 - 1) * 2 ^ 23 + (leadingBits 23 integer.toInt.natAbs + up)) = _
  split
  · change 1 * 2 ^ 31 + _ = _
    omega
  · change 0 * 2 ^ 31 + _ = _
    omega

end Conversions

end EtherNetIP.Library
