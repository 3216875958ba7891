import EtherNetIP.Encap.EndianConv

/-! Messages that are being written.

A message is a buffer with the position of the next octet and a count of those in
use. The count goes along with what is added, but not with every move of the
position, and it can be set back to overwrite what is there.
-/

set_option autoImplicit false

namespace EtherNetIP

def PC_OPENER_ETHERNET_BUFFER_SIZE : Nat := 512

structure EnipMessage where
  messageBuffer : List CipOctet
  currentMessagePosition : Nat
  usedMessageLength : UInt64
  deriving DecidableEq, Repr

namespace EnipMessage

def initialized : EnipMessage := ⟨List.replicate PC_OPENER_ETHERNET_BUFFER_SIZE 0, 0, 0⟩

/-- The octets are copied to the position, and the position and the count go behind them. -/
def add (octets : List CipOctet) (message : EnipMessage) : EnipMessage where
  messageBuffer := message.messageBuffer.take message.currentMessagePosition ++ octets ++
    message.messageBuffer.drop (message.currentMessagePosition + octets.length)
  currentMessagePosition := message.currentMessagePosition + octets.length
  usedMessageLength := message.usedMessageLength + UInt64.ofNat octets.length

/-- `MoveMessageNOctets` to octets that have been added before. -/
def moveBack (count : Nat) (message : EnipMessage) : EnipMessage :=
  { message with
    currentMessagePosition := message.currentMessagePosition - count
    usedMessageLength := message.usedMessageLength - UInt64.ofNat count }

section Adding

variable {message : EnipMessage} {octets : List CipOctet}

theorem add_nil (message : EnipMessage) : message.add [] = message := by
  simp [add]

theorem add_if (condition : Prop) [Decidable condition] (octets : List CipOctet) (message : EnipMessage) :
    (if condition then message.add octets else message) = message.add (if condition then octets else []) := by
  split
  · rfl
  · exact message.add_nil.symm

theorem add_within (within : message.currentMessagePosition ≤ message.messageBuffer.length) :
    (message.add octets).currentMessagePosition ≤ (message.add octets).messageBuffer.length := by
  simp only [add, List.length_append, List.length_take, List.length_drop]
  omega

theorem moveBack_within (within : message.currentMessagePosition ≤ message.messageBuffer.length) (count : Nat) :
    (message.moveBack count).currentMessagePosition ≤ (message.moveBack count).messageBuffer.length :=
  Nat.le_trans (Nat.sub_le ..) within

theorem add_add (within : message.currentMessagePosition ≤ message.messageBuffer.length)
    (first second : List CipOctet) : (message.add first).add second = message.add (first ++ second) := by
  have length : (message.messageBuffer.take message.currentMessagePosition ++ first).length =
      message.currentMessagePosition + first.length := by
    simp only [List.length_append, List.length_take]
    omega
  unfold add
  dsimp only
  congr 1
  · rw [List.take_left' length, ← List.drop_drop, List.drop_left' length, List.drop_drop, List.length_append,
      List.append_assoc _ first, Nat.add_assoc]
  · rw [List.length_append, Nat.add_assoc]
  · rw [List.length_append, UInt64.ofNat_add, UInt64.add_assoc]

/-- Octets that are moved back over are written anew, if as many follow at least. -/
theorem add_moveBack (within : message.currentMessagePosition ≤ message.messageBuffer.length)
    {first old new : List CipOctet} (covered : old.length ≤ new.length) :
    ((message.add (first ++ old)).moveBack old.length).add new = message.add (first ++ new) := by
  have length : (message.messageBuffer.take message.currentMessagePosition ++ first).length =
      message.currentMessagePosition + first.length := by
    simp only [List.length_append, List.length_take]
    omega
  have position : message.currentMessagePosition + (first.length + old.length) - old.length =
      message.currentMessagePosition + first.length := by omega
  unfold add moveBack
  dsimp only
  rw [List.length_append, position, List.length_append]
  congr 1
  · have behind (rest : List CipOctet) :
        message.messageBuffer.take message.currentMessagePosition ++ (first ++ old) ++ rest =
          message.messageBuffer.take message.currentMessagePosition ++ first ++ (old ++ rest) := by
      simp only [List.append_assoc]
    rw [behind, List.take_left' length, ← List.drop_drop, List.drop_left' length, List.drop_append,
      List.drop_eq_nil_of_le covered, List.nil_append, List.drop_drop, List.append_assoc _ first]
    congr 2
    omega
  · rw [Nat.add_assoc]
  · rw [UInt64.ofNat_add, UInt64.ofNat_add, ← UInt64.add_assoc, UInt64.add_sub_cancel, UInt64.add_assoc]

theorem initialized_within : initialized.currentMessagePosition ≤ initialized.messageBuffer.length := Nat.zero_le _

theorem initialized_add (octets : List CipOctet) :
    (initialized.add octets).messageBuffer =
      octets ++ List.replicate (PC_OPENER_ETHERNET_BUFFER_SIZE - octets.length) 0 := by
  simp [initialized, add]

theorem initialized_add_used {octets : List CipOctet} (fits : octets.length ≤ PC_OPENER_ETHERNET_BUFFER_SIZE) :
    (initialized.add octets).usedMessageLength.toNat = octets.length := by
  have small : octets.length < 2 ^ 64 := Nat.lt_of_le_of_lt fits (by decide)
  simp only [initialized, add, UInt64.zero_add]
  exact UInt64.toNat_ofNat_of_lt' small

end Adding

end EnipMessage

end EtherNetIP
