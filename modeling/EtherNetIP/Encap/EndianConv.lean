import Mathlib.Algebra.Order.Ring.Int

/-! Little-endian reads from a received message and writes to a reply.

A read position is the list of octets from there on. The receive buffer is
cleared before each message, so a read past the received octets yields zero.
What is written is read back. Numbers of signed types are kept as the bits of
unsigned ones.
-/

set_option autoImplicit false

namespace EtherNetIP

abbrev CipOctet := UInt8

abbrev FromMessage := StateM (List CipOctet)

def getByteFromMessage : FromMessage UInt8 := do
  let message ← get
  set message.tail
  return message.headD 0

def getUsintFromMessage : FromMessage UInt8 := getByteFromMessage

def getSintFromMessage : FromMessage UInt8 := getByteFromMessage

def getBoolFromMessage : FromMessage UInt8 := getByteFromMessage

def getUintFromMessage : FromMessage UInt16 := do
  let low ← getByteFromMessage
  let high ← getByteFromMessage
  return low.toUInt16 ||| (high.toUInt16 <<< 8)

def getWordFromMessage : FromMessage UInt16 := getUintFromMessage

def getIntFromMessage : FromMessage UInt16 := getUintFromMessage

def getUdintFromMessage : FromMessage UInt32 := do
  let first ← getByteFromMessage
  let second ← getByteFromMessage
  let third ← getByteFromMessage
  let fourth ← getByteFromMessage
  return first.toUInt32 ||| (second.toUInt32 <<< 8) ||| (third.toUInt32 <<< 16) ||| (fourth.toUInt32 <<< 24)

def getDwordFromMessage : FromMessage UInt32 := getUdintFromMessage

def getDintFromMessage : FromMessage UInt32 := getUdintFromMessage

/-- The number of eight octets, the first of which is the most significant one. -/
def lintOfOctets (first second third fourth fifth sixth seventh eighth : CipOctet) : UInt64 :=
  ((first.toUInt64 <<< 56) &&& (0xFF00000000000000 : UInt64)) +
    ((second.toUInt64 <<< 48) &&& (0x00FF000000000000 : UInt64)) +
    ((third.toUInt64 <<< 40) &&& (0x0000FF0000000000 : UInt64)) +
    ((fourth.toUInt64 <<< 32) &&& (0x000000FF00000000 : UInt64)) +
    ((fifth.toUInt64 <<< 24) &&& (0x00000000FF000000 : UInt64)) +
    ((sixth.toUInt64 <<< 16) &&& (0x0000000000FF0000 : UInt64)) +
    ((seventh.toUInt64 <<< 8) &&& (0x000000000000FF00 : UInt64)) +
    (eighth.toUInt64 &&& (0x00000000000000FF : UInt64))

def getLintFromMessage : FromMessage UInt64 := do
  let first ← getByteFromMessage
  let second ← getByteFromMessage
  let third ← getByteFromMessage
  let fourth ← getByteFromMessage
  let fifth ← getByteFromMessage
  let sixth ← getByteFromMessage
  let seventh ← getByteFromMessage
  let eighth ← getByteFromMessage
  return lintOfOctets first second third fourth fifth sixth seventh eighth

def skipOctets (count : Nat) : FromMessage Unit := modify (List.drop count)

def addSintToMessage (data : UInt8) : List CipOctet := [data]

def addIntToMessage (data : UInt16) : List CipOctet := [data.toUInt8, (data >>> 8).toUInt8]

def addDintToMessage (data : UInt32) : List CipOctet :=
  [data.toUInt8, (data >>> 8).toUInt8, (data >>> 16).toUInt8, (data >>> 24).toUInt8]

/-- The first octet is the least significant one. -/
def addLintToMessage (data : UInt64) : List CipOctet :=
  [data.toUInt8, (data >>> 8).toUInt8, (data >>> 16).toUInt8, (data >>> 24).toUInt8, (data >>> 32).toUInt8,
    (data >>> 40).toUInt8, (data >>> 48).toUInt8, (data >>> 56).toUInt8]

theorem joinOctets16 (data : UInt16) :
    data.toUInt8.toUInt16 ||| (data >>> 8).toUInt8.toUInt16 <<< 8 = data := by
  apply UInt16.eq_of_toBitVec_eq
  apply BitVec.eq_of_getLsbD_eq
  intro i within
  change ((data.toBitVec.setWidth 8).setWidth 16 |||
    ((data.toBitVec >>> 8).setWidth 8).setWidth 16 <<< 8).getLsbD i = _
  simp only [BitVec.getLsbD_or, BitVec.getLsbD_shiftLeft, BitVec.getLsbD_setWidth, BitVec.getLsbD_ushiftRight]
  grind

theorem joinOctets32 (data : UInt32) :
    data.toUInt8.toUInt32 ||| (data >>> 8).toUInt8.toUInt32 <<< 8 ||| (data >>> 16).toUInt8.toUInt32 <<< 16 |||
      (data >>> 24).toUInt8.toUInt32 <<< 24 = data := by
  apply UInt32.eq_of_toBitVec_eq
  apply BitVec.eq_of_getLsbD_eq
  intro i within
  change ((data.toBitVec.setWidth 8).setWidth 32 ||| ((data.toBitVec >>> 8).setWidth 8).setWidth 32 <<< 8 |||
    ((data.toBitVec >>> 16).setWidth 8).setWidth 32 <<< 16 |||
    ((data.toBitVec >>> 24).setWidth 8).setWidth 32 <<< 24).getLsbD i = _
  simp only [BitVec.getLsbD_or, BitVec.getLsbD_shiftLeft, BitVec.getLsbD_setWidth, BitVec.getLsbD_ushiftRight]
  grind

theorem toNat_maskedOctet (octet : CipOctet) {place mask : UInt64} (within : place.toNat ≤ 56)
    (masks : mask = 0xFF <<< place) :
    (octet.toUInt64 <<< place &&& mask).toNat = octet.toNat * 2 ^ place.toNat := by
  have small : octet.toUInt64 &&& 0xFF = octet.toUInt64 := by
    apply UInt64.toNat_inj.mp
    rw [UInt64.toNat_and, UInt8.toNat_toUInt64]
    exact (Nat.and_two_pow_sub_one_eq_mod octet.toNat 8).trans (Nat.mod_eq_of_lt octet.toNat_lt)
  have bound : octet.toNat * 2 ^ place.toNat < 2 ^ 64 :=
    calc octet.toNat * 2 ^ place.toNat < 2 ^ 8 * 2 ^ place.toNat :=
          Nat.mul_lt_mul_of_pos_right octet.toNat_lt (Nat.two_pow_pos _)
      _ = 2 ^ (8 + place.toNat) := (Nat.pow_add ..).symm
      _ ≤ 2 ^ 64 := Nat.pow_le_pow_right (by decide) (by omega)
  rw [masks, ← UInt64.shiftLeft_and, small, UInt64.toNat_shiftLeft, UInt8.toNat_toUInt64,
    Nat.mod_eq_of_lt (by omega : place.toNat < 64), Nat.shiftLeft_eq, Nat.mod_eq_of_lt bound]

section Lint

variable (first second third fourth fifth sixth seventh eighth : CipOctet)

theorem toNat_lintOfOctets : (lintOfOctets first second third fourth fifth sixth seventh eighth).toNat =
    first.toNat * 2 ^ 56 + second.toNat * 2 ^ 48 + third.toNat * 2 ^ 40 + fourth.toNat * 2 ^ 32 +
      fifth.toNat * 2 ^ 24 + sixth.toNat * 2 ^ 16 + seventh.toNat * 2 ^ 8 + eighth.toNat := by
  have last : (eighth.toUInt64 &&& 0x00000000000000FF).toNat = eighth.toNat := by
    rw [UInt64.toNat_and, UInt8.toNat_toUInt64]
    exact (Nat.and_two_pow_sub_one_eq_mod eighth.toNat 8).trans (Nat.mod_eq_of_lt eighth.toNat_lt)
  have bounds := And.intro first.toNat_lt (And.intro second.toNat_lt (And.intro third.toNat_lt
    (And.intro fourth.toNat_lt (And.intro fifth.toNat_lt (And.intro sixth.toNat_lt
      (And.intro seventh.toNat_lt eighth.toNat_lt))))))
  simp only [lintOfOctets, UInt64.toNat_add, last,
    @toNat_maskedOctet first 56 0xFF00000000000000 (by decide) (by decide),
    @toNat_maskedOctet second 48 0x00FF000000000000 (by decide) (by decide),
    @toNat_maskedOctet third 40 0x0000FF0000000000 (by decide) (by decide),
    @toNat_maskedOctet fourth 32 0x000000FF00000000 (by decide) (by decide),
    @toNat_maskedOctet fifth 24 0x00000000FF000000 (by decide) (by decide),
    @toNat_maskedOctet sixth 16 0x0000000000FF0000 (by decide) (by decide),
    @toNat_maskedOctet seventh 8 0x000000000000FF00 (by decide) (by decide), UInt64.reduceToNat]
  omega

theorem addLintToMessage_lintOfOctets :
    addLintToMessage (lintOfOctets first second third fourth fifth sixth seventh eighth) =
      [eighth, seventh, sixth, fifth, fourth, third, second, first] := by
  have value := toNat_lintOfOctets first second third fourth fifth sixth seventh eighth
  have bounds := And.intro first.toNat_lt (And.intro second.toNat_lt (And.intro third.toNat_lt
    (And.intro fourth.toNat_lt (And.intro fifth.toNat_lt (And.intro sixth.toNat_lt
      (And.intro seventh.toNat_lt eighth.toNat_lt))))))
  simp only [addLintToMessage, List.cons.injEq, ← UInt8.toNat_inj, UInt64.toNat_toUInt8, UInt64.toNat_shiftRight,
    UInt64.reduceToNat, Nat.reduceMod, Nat.shiftRight_eq_div_pow, value, and_true]
  omega

end Lint

section RoundTrip

variable (message : List CipOctet)

theorem getByteFromMessage_add (data : UInt8) :
    getByteFromMessage.run (addSintToMessage data ++ message) = (data, message) := rfl

theorem getUintFromMessage_add (data : UInt16) :
    getUintFromMessage.run (addIntToMessage data ++ message) = (data, message) :=
  congrArg (·, message) (joinOctets16 data)

theorem getUdintFromMessage_add (data : UInt32) :
    getUdintFromMessage.run (addDintToMessage data ++ message) = (data, message) :=
  congrArg (·, message) (joinOctets32 data)

end RoundTrip

theorem run_bind_of_run {α β : Type} {read : FromMessage α} {next : α → FromMessage β}
    {message rest : List CipOctet} {value : α} (reads : read.run message = (value, rest)) :
    (read >>= next).run message = (next value).run rest := by
  rw [StateT.run_bind, reads]
  rfl

end EtherNetIP
