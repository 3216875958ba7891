import Mathlib.Data.Nat.Bitwise
import EtherNetIP.Library.BinaryFloats
import EtherNetIP.Cip.AttributeEncoding

/-! Floating point numbers that are decoded as the whole numbers their octets are.

Hardly any keeps its bits. The number of four octets has to be the nearest
floating point number to itself, read as an integer. The one of eight octets is
besides read from the other end, so that a bit of the result is a bit of the
number at another place, and from the bits of the exponent on all follow.
-/

set_option autoImplicit false

namespace EtherNetIP

open Library

section Four

/-- The numbers of four octets that are the bits of the float nearest to them. -/
def keptReals : List UInt32 := [0, 0x4E9D3A75, 0xCE46E46E]

variable {received : UInt32}

theorem toInt_toInt32 : received.toInt32.toInt =
    if 2 * received.toNat < 2 ^ 32 then (received.toNat : Int) else received.toNat - 2 ^ 32 :=
  BitVec.toInt_eq_toNat_cond received.toBitVec

theorem toNat_ne_of_changed (kept : realOfDint received = received) {near : UInt32} (changed : realOfDint near ≠ near) :
    received.toNat ≠ near.toNat :=
  fun same => changed (UInt32.toNat_inj.mp same ▸ kept)

theorem toNat_of_positive (nonzero : received.toNat ≠ 0) (positive : received.toNat < 2 ^ 31)
    (kept : realOfDint received = received) : received.toNat = 0x4E9D3A75 := by
  have integer : received.toInt32.toInt = received.toNat := by rw [toInt_toInt32, if_pos (by omega)]
  obtain ⟨up, one, bits⟩ := @toNat_ofInt32 received.toInt32 (by omega)
  rw [integer, Int.natAbs_natCast, if_neg (by omega), Nat.zero_add] at bits
  have same : (Float32.Model.ofInt32 received.toInt32).toBits.toNat = received.toNat := congrArg UInt32.toNat kept
  rw [same] at bits
  have least := @two_pow_le_leadingBits received.toNat 23 nonzero
  have most := @Nat.lt_log2_self received.toNat
  have size : received.toNat.log2 < 31 := (Nat.log2_lt nonzero).mpr positive
  have exponent : received.toNat.log2 = 30 := by
    by_cases first : received.toNat.log2 = 0
    · rw [first] at most bits
      omega
    · by_contra
      have fewer := Nat.pow_le_pow_right (by decide : 0 < 2) (by omega : received.toNat.log2 + 1 ≤ 30)
      omega
  rw [leadingBits_of_long (by omega), exponent] at bits
  have below : received.toNat ≠ 0x4E9D3A74 := toNat_ne_of_changed kept (by decide +kernel : realOfDint 0x4E9D3A74 ≠ _)
  omega

theorem toNat_of_negative (negative : 2 ^ 31 ≤ received.toNat) (kept : realOfDint received = received) :
    received.toNat = 0xCE46E46E := by
  have small := received.toNat_lt
  have integer : received.toInt32.toInt = received.toNat - 2 ^ 32 := by rw [toInt_toInt32, if_neg (by omega)]
  obtain ⟨up, one, bits⟩ := @toNat_ofInt32 received.toInt32 (by omega)
  have same : (Float32.Model.ofInt32 received.toInt32).toBits.toNat = received.toNat := congrArg UInt32.toNat kept
  rw [same, integer, if_pos (by omega)] at bits
  obtain ⟨size, size_⟩ : ∃ size : Nat, ((received.toNat : Int) - 2 ^ 32).natAbs = size := ⟨_, rfl⟩
  rw [size_] at bits
  have nonzero : size ≠ 0 := by omega
  have atLeast := Nat.log2_self_le nonzero
  have most := @Nat.lt_log2_self size
  have least := @two_pow_le_leadingBits size 23 nonzero
  have last := @leadingBits_lt size 23
  have exponent : size.log2 = 29 := by
    by_cases large : 30 ≤ size.log2
    · have more := Nat.pow_le_pow_right (by decide : 0 < 2) large
      omega
    · by_contra
      have fewer := Nat.pow_le_pow_right (by decide : 0 < 2) (by omega : size.log2 + 1 ≤ 29)
      omega
  rw [leadingBits_of_long (by omega), exponent] at bits
  have above : received.toNat ≠ 0xCE46E46F := toNat_ne_of_changed kept (by decide +kernel : realOfDint 0xCE46E46F ≠ _)
  omega

theorem realOfDint_eq_self_iff : realOfDint received = received ↔ received ∈ keptReals := by
  constructor
  · intro kept
    have same {number : UInt32} (equal : received.toNat = number.toNat) : received = number := UInt32.toNat_inj.mp equal
    by_cases zero : received.toNat = 0
    · rw [@same 0 zero]
      exact .head _
    by_cases positive : received.toNat < 2 ^ 31
    · rw [@same 0x4E9D3A75 (toNat_of_positive zero positive kept)]
      exact .tail _ (.head _)
    · rw [@same 0xCE46E46E (toNat_of_negative (by omega) kept)]
      exact .tail _ (.tail _ (.head _))
  · intro member
    have all : keptReals.all (fun received => realOfDint received == received) = true := by decide +kernel
    exact eq_of_beq (List.all_eq_true.mp all _ member)

end Four

section Turned

def turned (data : UInt64) : UInt64 := (getLintFromMessage.run (addLintToMessage data)).1

def turnedPlace (place : Nat) : Nat := 8 * (7 - place / 8) + place % 8

theorem octet_lintOfOctets (first second third fourth fifth sixth seventh eighth : CipOctet) {octet : Nat}
    (within : octet < 8) :
    (lintOfOctets first second third fourth fifth sixth seventh eighth).toNat / 2 ^ (8 * octet) % 256 =
      (octetAt [eighth, seventh, sixth, fifth, fourth, third, second, first] octet).toNat := by
  rw [toNat_lintOfOctets]
  have bounds := And.intro first.toNat_lt (And.intro second.toNat_lt (And.intro third.toNat_lt
    (And.intro fourth.toNat_lt (And.intro fifth.toNat_lt (And.intro sixth.toNat_lt
      (And.intro seventh.toNat_lt eighth.toNat_lt))))))
  have cases_ : octet = 0 ∨ octet = 1 ∨ octet = 2 ∨ octet = 3 ∨ octet = 4 ∨ octet = 5 ∨ octet = 6 ∨ octet = 7 := by omega
  rcases cases_ with rfl | rfl | rfl | rfl | rfl | rfl | rfl | rfl
  · change _ = eighth.toNat
    omega
  · change _ = seventh.toNat
    omega
  · change _ = sixth.toNat
    omega
  · change _ = fifth.toNat
    omega
  · change _ = fourth.toNat
    omega
  · change _ = third.toNat
    omega
  · change _ = second.toNat
    omega
  · change _ = first.toNat
    omega

theorem octet_turned (data : UInt64) {octet : Nat} (within : octet < 8) :
    (turned data).toNat / 2 ^ (8 * octet) % 256 = data.toNat / 2 ^ (8 * (7 - octet)) % 256 := by
  have shifted (amount : UInt64) (places : amount.toNat < 64) :
      (data >>> amount).toUInt8.toNat = data.toNat / 2 ^ amount.toNat % 256 := by
    rw [UInt64.toNat_toUInt8, UInt64.toNat_shiftRight, Nat.mod_eq_of_lt places, Nat.shiftRight_eq_div_pow]
  have whole : data.toUInt8.toNat = data.toNat / 2 ^ 0 % 256 := by
    rw [Nat.pow_zero, Nat.div_one]
    exact UInt64.toNat_toUInt8 ..
  refine (octet_lintOfOctets _ _ _ _ _ _ _ _ within).trans ?_
  have cases_ : octet = 0 ∨ octet = 1 ∨ octet = 2 ∨ octet = 3 ∨ octet = 4 ∨ octet = 5 ∨ octet = 6 ∨ octet = 7 := by omega
  rcases cases_ with rfl | rfl | rfl | rfl | rfl | rfl | rfl | rfl
  · exact shifted 56 (by decide)
  · exact shifted 48 (by decide)
  · exact shifted 40 (by decide)
  · exact shifted 32 (by decide)
  · exact shifted 24 (by decide)
  · exact shifted 16 (by decide)
  · exact shifted 8 (by decide)
  · exact whole

theorem testBit_octet (number place : Nat) :
    number.testBit place = (number / 2 ^ (8 * (place / 8)) % 256).testBit (place % 8) := by
  have same : 8 * (place / 8) + place % 8 = place := Nat.div_add_mod ..
  have within : place % 8 < 8 := Nat.mod_lt _ (by decide)
  change _ = (_ % 2 ^ 8).testBit _
  rw [Nat.testBit_mod_two_pow, decide_eq_true within, Bool.true_and, Nat.testBit_div_two_pow, Nat.add_comm, same]

theorem testBit_turned (data : UInt64) {place : Nat} (within : place < 64) :
    (turned data).toNat.testBit place = data.toNat.testBit (turnedPlace place) := by
  have octet : turnedPlace place / 8 = 7 - place / 8 := by
    rw [turnedPlace]
    omega
  have bit : turnedPlace place % 8 = place % 8 := by
    rw [turnedPlace]
    omega
  rw [testBit_octet, octet_turned data (by omega), testBit_octet data.toNat, octet, bit]

theorem turned_injective {data other : UInt64} (same : turned data = turned other) : data = other := by
  apply UInt64.toNat_inj.mp
  apply Nat.eq_of_testBit_eq
  intro place
  by_cases within : place < 64
  · have there : turnedPlace (turnedPlace place) = place := by
      unfold turnedPlace
      omega
    have inside : turnedPlace place < 64 := by
      rw [turnedPlace]
      omega
    rw [← there, ← testBit_turned data inside, same, testBit_turned other inside]
  · have long (number : UInt64) : number.toNat.testBit place = false :=
      Nat.testBit_lt_two_pow (Nat.lt_of_lt_of_le number.toNat_lt (Nat.pow_le_pow_right (by decide) (by omega)))
    rw [long, long]

theorem addLintToMessage_injective {data other : UInt64} (same : addLintToMessage data = addLintToMessage other) :
    data = other :=
  turned_injective (congrArg (fun message => (getLintFromMessage.run message).1) same)

theorem exists_lint (data : List CipOctet) : ∃ number, octets 8 data = addLintToMessage number := by
  refine ⟨(getLintFromMessage.run (octets 8 (octets 8 data).reverse)).1, ?_⟩
  have whole := octets_of_length (octets 8 data).reverse
  rw [List.length_reverse, octets_length] at whole
  rw [encode_lint, whole, List.reverse_reverse]

theorem turnedPlace_lt {place : Nat} (within : place < 64) : turnedPlace place < 64 := by
  rw [turnedPlace]
  omega

end Turned

section Eight

/-- The numbers of eight octets whose octets, read from the other end, are a number with this double. -/
def keptLreals : List UInt64 := [0, 0x43EBBEFFFFFFF7DD]

/-- Where a bit of the double comes from: it is known, or it is the bit at another place. The number read has its most
significant bit at the exponent, and the rounding may have set a bit and cleared those below it. -/
def bitSource (exponent : Nat) (carry : Option Nat) (place : Nat) : Bool ⊕ Nat :=
  if 52 ≤ place then .inl ((exponent + 1023).testBit (place - 52))
  else if carry.any (place ≤ ·) then .inl (carry == some place)
  else if place + exponent < 52 then .inl false
  else .inr (turnedPlace (place + exponent - 52))

def bitFrom (exponent : Nat) (carry : Option Nat) : Nat → Nat → Option Bool
  | 0, _ => none
  | steps + 1, place =>
      match bitSource exponent carry place with
      | .inl bit => some bit
      | .inr other => bitFrom exponent carry steps other

def HasSources (number exponent : Nat) (carry : Option Nat) : Prop :=
  ∀ place < 64, match bitSource exponent carry place with
    | .inl bit => number.testBit place = bit
    | .inr other => other < 64 ∧ number.testBit place = number.testBit other

def Clashes (exponent : Nat) (carry : Option Nat) : Prop :=
  ∃ place : Fin 64, exponent ≤ place ∧
    bitFrom exponent carry 50 (turnedPlace place) = some (decide (place.val ≠ exponent))

instance (exponent : Nat) (carry : Option Nat) : Decidable (Clashes exponent carry) := Nat.decidableExistsFin _

def Resolves (exponent : Nat) (carry : Option Nat) : Prop :=
  (∀ place : Fin 64, (bitFrom exponent carry 50 place).isSome) ∧
    let number := UInt64.ofNat (Nat.ofBits fun place : Fin 64 => (bitFrom exponent carry 50 place).getD false)
    (lrealOfLint (turned number) = number → number ∈ keptLreals)

instance (exponent : Nat) (carry : Option Nat) : Decidable (Resolves exponent carry) :=
  inferInstanceAs (Decidable (_ ∧ _))

def possibleCarries (exponent : Nat) : List (Option Nat) :=
  none :: if 52 < exponent then (List.range 16).map some else []

theorem clashes_or_resolves :
    ∀ exponent : Fin 64, ∀ carry ∈ possibleCarries exponent, Clashes exponent carry ∨ Resolves exponent carry := by
  decide +kernel

variable {number exponent : Nat} {carry : Option Nat} {data : UInt64}

theorem testBit_of_bitFrom (sources : HasSources number exponent carry) (steps : Nat) {place : Nat} {bit : Bool}
    (within : place < 64) (found : bitFrom exponent carry steps place = some bit) : number.testBit place = bit := by
  induction steps generalizing place with
  | zero => cases found
  | succ steps ih =>
      have source := sources place within
      unfold bitFrom at found
      cases kind : bitSource exponent carry place with
      | inl known =>
          rw [kind] at source found
          exact source.trans (Option.some.inj found)
      | inr other =>
          rw [kind] at source found
          exact source.2.trans (ih source.1 found)

theorem not_clashes (sources : HasSources data.toNat (turned data).toNat.log2 carry) (nonzero : (turned data).toNat ≠ 0) :
    ¬ Clashes (turned data).toNat.log2 carry := by
  rintro ⟨place, above, found⟩
  have bit := testBit_of_bitFrom sources 50 (turnedPlace_lt place.isLt) found
  rw [← testBit_turned data place.isLt] at bit
  by_cases same : place.val = (turned data).toNat.log2
  · rw [same, Nat.testBit_log2 nonzero] at bit
    exact of_decide_eq_true bit.symm rfl
  · rw [decide_eq_true same, Nat.testBit_lt_two_pow] at bit
    · cases bit
    · exact (Nat.log2_lt nonzero).mp (by omega)

theorem kept_of_resolves (sources : HasSources data.toNat exponent carry) (resolves : Resolves exponent carry)
    (kept : lrealOfLint (turned data) = data) : data ∈ keptLreals := by
  have same : UInt64.ofNat (Nat.ofBits fun place : Fin 64 => (bitFrom exponent carry 50 place).getD false) = data := by
    rw [← UInt64.toNat_inj, UInt64.toNat_ofNat_of_lt' (Nat.ofBits_lt_two_pow _)]
    apply Nat.eq_of_testBit_eq
    intro place
    by_cases within : place < 64
    · obtain ⟨bit, found⟩ := Option.isSome_iff_exists.mp (resolves.1 ⟨place, within⟩)
      rw [Nat.testBit_ofBits_lt _ _ within, found]
      exact (testBit_of_bitFrom sources 50 within found).symm
    · have large : data.toNat < 2 ^ place :=
        Nat.lt_of_lt_of_le data.toNat_lt (Nat.pow_le_pow_right (by decide) (by omega))
      rw [Nat.testBit_ofBits_ge _ _ (by omega), Nat.testBit_lt_two_pow large]
  have number := resolves.2
  dsimp only at number
  rw [same] at number
  exact number kept

theorem testBit_low {high low place : Nat} (sum : number = high * 2 ^ 52 + low) (within : place < 52) :
    number.testBit place = low.testBit place := by
  have rests : number % 2 ^ 52 = low % 2 ^ 52 := by omega
  have bits := congrArg (Nat.testBit · place) rests
  rwa [Nat.testBit_mod_two_pow, Nat.testBit_mod_two_pow, decide_eq_true within, Bool.true_and, Bool.true_and] at bits

theorem testBit_high {high low place : Nat} (sum : number = high * 2 ^ 52 + low) (least : 2 ^ 52 ≤ low)
    (most : low < 2 ^ 53) (beyond : 52 ≤ place) : number.testBit place = (high + 1).testBit (place - 52) := by
  have quotient : number / 2 ^ 52 = high + 1 := by omega
  rw [← quotient, Nat.testBit_div_two_pow, Nat.sub_add_cancel beyond]

theorem hasSources_of_bits {low : Nat} (nonzero : (turned data).toNat ≠ 0)
    (sum : data.toNat = ((turned data).toNat.log2 + 1022) * 2 ^ 52 + low) (least : 2 ^ 52 ≤ low) (most : low < 2 ^ 53)
    (bits : ∀ place < 52, low.testBit place =
      if carry.any (place ≤ ·) then carry == some place
      else (leadingBits 52 (turned data).toNat).testBit place) :
    HasSources data.toNat (turned data).toNat.log2 carry := by
  intro place within
  have small : (turned data).toNat.log2 < 64 := (Nat.log2_lt nonzero).mpr (turned data).toNat_lt
  unfold bitSource
  by_cases high : 52 ≤ place
  · rw [if_pos high]
    exact testBit_high sum least most high
  · rw [if_neg high]
    have bit := (testBit_low sum (by omega)).trans (bits place (by omega))
    by_cases carried : carry.any (place ≤ ·)
    · rw [if_pos carried] at bit ⊢
      exact bit
    · rw [if_neg carried, testBit_leadingBits] at bit
      rw [if_neg carried]
      by_cases short : place + (turned data).toNat.log2 < 52
      · rw [decide_eq_false (by omega), Bool.false_and] at bit
        rw [if_pos short]
        exact bit
      · rw [decide_eq_true (by omega), Bool.true_and] at bit
        rw [if_neg short]
        refine ⟨turnedPlace_lt (by omega), bit.trans ?_⟩
        exact testBit_turned data (by omega)

/-- The most significant bit of a long number is read from one of the first sixteen. -/
theorem carry_le {low place : Nat} (nonzero : (turned data).toNat ≠ 0) (long : 52 < (turned data).toNat.log2)
    (sum : data.toNat = ((turned data).toNat.log2 + 1022) * 2 ^ 52 + low)
    (clear : ∀ below < place, low.testBit below = false) : place < 16 := by
  have small : (turned data).toNat.log2 < 64 := (Nat.log2_lt nonzero).mpr (turned data).toNat_lt
  have first : turnedPlace (turned data).toNat.log2 < 16 := by
    rw [turnedPlace]
    omega
  have set := Nat.testBit_log2 nonzero
  rw [testBit_turned data small, testBit_low sum (by omega)] at set
  by_contra beyond
  rw [clear _ (by omega)] at set
  cases set

theorem exists_sources (nonzero : (turned data).toNat ≠ 0) (kept : lrealOfLint (turned data) = data) :
    ∃ carry ∈ possibleCarries (turned data).toNat.log2, HasSources data.toNat (turned data).toNat.log2 carry := by
  obtain ⟨up, one, exact_, sum⟩ := toNat_ofUInt64 nonzero
  have same : (Float.Model.ofUInt64 (turned data)).toBits.toNat = data.toNat := congrArg UInt64.toNat kept
  rw [same] at sum
  have least := @two_pow_le_leadingBits (turned data).toNat 52 nonzero
  have most := @leadingBits_lt (turned data).toNat 52
  by_cases none_ : up = 0
  · rw [none_] at sum
    exact ⟨none, .head _, hasSources_of_bits nonzero sum least most fun place _ => rfl⟩
  · have up_ : up = 1 := by omega
    have long : 52 < (turned data).toNat.log2 := Nat.lt_of_not_le fun short => none_ (exact_ short)
    rw [up_] at sum
    obtain ⟨place, set, clear, above⟩ := exists_carry (leadingBits 52 (turned data).toNat)
    have early := carry_le nonzero long sum clear
    have bounded : leadingBits 52 (turned data).toNat + 1 < 2 ^ 53 := by
      by_contra power
      have full : leadingBits 52 (turned data).toNat + 1 = 2 ^ 53 := by omega
      rw [full, Nat.testBit_two_pow, decide_eq_true_eq] at set
      omega
    refine ⟨some place, ?_, hasSources_of_bits nonzero sum (by omega) bounded fun other within => ?_⟩
    · rw [possibleCarries, if_pos long]
      exact .tail _ (List.mem_map_of_mem (List.mem_range.mpr early))
    · rw [Option.any_some]
      rcases Nat.lt_trichotomy other place with below | rfl | beyond
      · rw [if_pos (decide_eq_true (by omega)), clear other below]
        symm
        simp only [Option.some_beq_some, beq_eq_false_iff_ne]
        omega
      · rw [if_pos (decide_eq_true (Nat.le_refl _)), set, beq_self_eq_true]
      · rw [if_neg (by rw [decide_eq_true_eq]; omega), above other beyond]

theorem lrealOfLint_turned_eq_self_iff : lrealOfLint (turned data) = data ↔ data ∈ keptLreals := by
  constructor
  · intro kept
    by_cases nonzero : (turned data).toNat = 0
    · have zero : turned data = 0 := UInt64.toNat_inj.mp nonzero
      rw [zero] at kept
      rw [← kept]
      decide +kernel
    · obtain ⟨carry, member, sources⟩ := exists_sources nonzero kept
      have small : (turned data).toNat.log2 < 64 := (Nat.log2_lt nonzero).mpr (turned data).toNat_lt
      rcases clashes_or_resolves ⟨_, small⟩ carry member with clashes | resolves
      · exact absurd clashes (not_clashes sources nonzero)
      · exact kept_of_resolves sources resolves kept
  · intro member
    have all : keptLreals.all (fun data => lrealOfLint (turned data) == data) = true := by decide +kernel
    exact eq_of_beq (List.all_eq_true.mp all _ member)

end Eight

end EtherNetIP
