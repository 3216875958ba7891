import EtherNetIP.Cip.AnnouncedOctets
import EtherNetIP.Cip.Admission

/-! How much of a Forward Open decides about it in front of its path.

The checks look at the types of both directions, the triad and the trigger. Each
is one field of the header, so what a request is refused for tells how far the
octets go that have it refused.
-/

set_option autoImplicit false

namespace EtherNetIP

open Library CipConnectionObject

section Octets

variable {own data other : List CipOctet} {count position : Nat}

theorem octetAt_completion_front (inside : position < count) (last : CipOctet) :
    octetAt (completion own count last) position = octetAt own position := by
  unfold completion
  rw [octetAt_append ((octets_length count own).symm ▸ inside)]
  unfold octetAt octets
  rw [List.getD_eq_getElem?_getD, List.getElem?_map, List.getElem?_range inside]
  rfl

theorem octets_completion (own : List CipOctet) (count : Nat) (last : CipOctet) :
    octets count (completion own count last) = octets count own :=
  octets_congr fun _ inside => octetAt_completion_front inside last

theorem octets_drop {first : Nat} (same : octets (first + count) data = octets (first + count) other) :
    octets count (data.drop first) = octets count (other.drop first) := by
  refine octets_congr fun position inside => ?_
  rw [octetAt_drop, octetAt_drop]
  exact octetAt_octets (by omega) same

end Octets

section Fields

variable {config : Configuration} {data : List CipOctet}

def octetConnectionType (octet : CipOctet) : ConnectionObjectConnectionType :=
  getConnectionType (octet.toUInt32 <<< 8) false

theorem getConnectionType_last16 (low high : UInt8) :
    getConnectionType (low.toUInt16 ||| high.toUInt16 <<< 8).toUInt32 false = octetConnectionType high := by
  have shifted : ((low.toUInt16 ||| high.toUInt16 <<< 8).toUInt32 >>> 13) &&& (3 : UInt32) = ((high.toUInt32 <<< 8) >>> 13) &&& 3 := by
    apply UInt32.eq_of_toBitVec_eq
    apply BitVec.eq_of_getLsbD_eq
    intro i within
    change ((((low.toBitVec.setWidth 16 ||| high.toBitVec.setWidth 16 <<< 8).setWidth 32) >>> 13) &&& 3#32).getLsbD i =
      (((high.toBitVec.setWidth 32 <<< 8) >>> 13) &&& 3#32).getLsbD i
    simp only [BitVec.getLsbD_and, BitVec.getLsbD_or, BitVec.getLsbD_shiftLeft, BitVec.getLsbD_setWidth,
      BitVec.getLsbD_ushiftRight]
    grind
  unfold octetConnectionType getConnectionType
  dsimp only
  rw [if_neg Bool.false_ne_true, shifted]

theorem getConnectionType_last32 (first second third fourth : UInt8) :
    getConnectionType (first.toUInt32 ||| second.toUInt32 <<< 8 ||| third.toUInt32 <<< 16 ||| fourth.toUInt32 <<< 24)
      true = octetConnectionType fourth := by
  have shifted : ((first.toUInt32 ||| second.toUInt32 <<< 8 ||| third.toUInt32 <<< 16 |||
      fourth.toUInt32 <<< 24) >>> 29) &&& (3 : UInt32) = ((fourth.toUInt32 <<< 8) >>> 13) &&& 3 := by
    apply UInt32.eq_of_toBitVec_eq
    apply BitVec.eq_of_getLsbD_eq
    intro i within
    change ((((first.toBitVec.setWidth 32 ||| second.toBitVec.setWidth 32 <<< 8 ||| third.toBitVec.setWidth 32 <<< 16 |||
      fourth.toBitVec.setWidth 32 <<< 24)) >>> 29) &&& 3#32).getLsbD i =
      (((fourth.toBitVec.setWidth 32 <<< 8) >>> 13) &&& 3#32).getLsbD i
    simp only [BitVec.getLsbD_and, BitVec.getLsbD_or, BitVec.getLsbD_shiftLeft, BitVec.getLsbD_setWidth,
      BitVec.getLsbD_ushiftRight]
    grind
  unfold octetConnectionType getConnectionType
  dsimp only
  rw [if_pos rfl, if_neg Bool.false_ne_true, shifted]

theorem getByteFromMessage_rest (data : List CipOctet) : (getByteFromMessage.run data).2 = data.drop 1 :=
  List.drop_one.symm

theorem getUdintFromMessage_rest (data : List CipOctet) : (getUdintFromMessage.run data).2 = data.drop 4 := by
  change data.tail.tail.tail.tail = _
  simp only [← List.drop_one, List.drop_drop]

theorem readNetworkConnectionParameters_rest (isLfo : Bool) (data : List CipOctet) :
    ((readNetworkConnectionParameters isLfo).run data).2 = data.drop (if isLfo then 4 else 2) := by
  cases isLfo with
  | false => exact getUintFromMessage_rest data
  | true =>
      unfold readNetworkConnectionParameters
      rw [if_pos rfl, if_pos rfl]
      exact getUdintFromMessage_rest data

theorem run_bind_rest {α β : Type} (read : FromMessage α) (next : α → FromMessage β) (message : List CipOctet) :
    (read >>= next).run message = (next (read.run message).1).run (read.run message).2 := rfl

theorem readForwardOpenHeader_fields (isLfo : Bool) (data : List CipOctet) :
    ((readForwardOpenHeader isLfo).run data).1 =
      { oToTConnectionId := (getUdintFromMessage.run (data.drop 2)).1
        tToOConnectionId := (getUdintFromMessage.run (data.drop 6)).1
        connectionSerialNumber := (getUintFromMessage.run (data.drop 10)).1
        originatorVendorId := (getUintFromMessage.run (data.drop 12)).1
        originatorSerialNumber := (getUdintFromMessage.run (data.drop 14)).1
        connectionTimeoutMultiplier := (getByteFromMessage.run (data.drop 18)).1
        oToTRequestedPacketInterval := (getUdintFromMessage.run (data.drop 22)).1
        oToTNetworkConnectionParameters := ((readNetworkConnectionParameters isLfo).run (data.drop 26)).1
        tToORequestedPacketInterval := (getUdintFromMessage.run (data.drop (if isLfo then 30 else 28))).1
        tToONetworkConnectionParameters :=
          ((readNetworkConnectionParameters isLfo).run (data.drop (if isLfo then 34 else 32))).1
        transportClassTrigger := (getByteFromMessage.run (data.drop (if isLfo then 38 else 34))).1 } := by
  have skipped (data : List CipOctet) : ((skipOctets 3).run data).2 = data.drop 3 := rfl
  unfold readForwardOpenHeader getUsintFromMessage
  simp only [run_bind_rest, getByteFromMessage_rest, getUintFromMessage_rest, getUdintFromMessage_rest, skipped,
    readNetworkConnectionParameters_rest, List.drop_drop]
  cases isLfo <;> rfl

theorem readForwardOpenHeader_rest (isLfo : Bool) (data : List CipOctet) :
    ((readForwardOpenHeader isLfo).run data).2 = data.drop (headerOctets isLfo) := by
  have skipped (data : List CipOctet) : ((skipOctets 3).run data).2 = data.drop 3 := rfl
  unfold readForwardOpenHeader getUsintFromMessage
  simp only [run_bind_rest, getByteFromMessage_rest, getUintFromMessage_rest, getUdintFromMessage_rest, skipped,
    readNetworkConnectionParameters_rest, List.drop_drop]
  cases isLfo <;> rfl

theorem octetAt_zero (data : List CipOctet) : (getByteFromMessage.run data).1 = octetAt data 0 := by
  cases data <;> rfl

theorem getConnectionType_read (isLfo : Bool) (data : List CipOctet) :
    getConnectionType ((readNetworkConnectionParameters isLfo).run data).1 isLfo =
      octetConnectionType (octetAt data (if isLfo then 3 else 1)) := by
  cases isLfo with
  | false =>
      obtain _ | ⟨low, _ | ⟨high, rest⟩⟩ := data
      · exact getConnectionType_last16 0 0
      · exact getConnectionType_last16 low 0
      · exact getConnectionType_last16 low high
  | true =>
      obtain _ | ⟨first, _ | ⟨second, _ | ⟨third, _ | ⟨fourth, rest⟩⟩⟩⟩ := data
      · exact getConnectionType_last32 0 0 0 0
      · exact getConnectionType_last32 first 0 0 0
      · exact getConnectionType_last32 first second 0 0
      · exact getConnectionType_last32 first second third 0
      · exact getConnectionType_last32 first second third fourth

end Fields

def oToTTypeOctet (isLfo : Bool) : Nat := if isLfo then 29 else 27

def tToOTypeOctet (isLfo : Bool) : Nat := if isLfo then 37 else 33

def triggerOctet (isLfo : Bool) : Nat := if isLfo then 38 else 34

/-- The octets that decide about a request, up to the check it fails; one that passes them all needs the size of
its path too. -/
def frontOctets (isLfo : Bool) : Option UInt16 → Nat
  | none => headerOctets isLfo + 1
  | some extendedStatus =>
      if extendedStatus = ExtendedStatus.errorInvalidOToTConnectionType then oToTTypeOctet isLfo + 1
      else if extendedStatus = ExtendedStatus.errorTransportClassAndTriggerCombinationNotSupported then
        triggerOctet isLfo + 1
      else tToOTypeOctet isLfo + 1

namespace Stack

section Verdict

variable {config : Configuration} {isLfo : Bool} {request : Request} {connectionNumber : UInt16}
  {data other : List CipOctet} {stack first second : Stack config}

def readInto (isLfo : Bool) (request : Request) (connectionNumber : UInt16) (data : List CipOctet)
    (stack : Stack config) : Stack config :=
  { stack with
    addressInfoItems := request.addressInfoItems
    dummy :=
      { ({ stack.dummy with isLargeForwardOpen := isLfo } : CipConnectionObject).initializeFromMessage
          ((readForwardOpenHeader isLfo).run data).1 connectionNumber with
        associatedEncapsulationSession := request.encapsulationSession
        originatorAddress := request.originatorAddress } }

/-- Whether there is a number for the connection does not depend on the octets. -/
theorem readForwardOpen_eq (isLfo : Bool) (request : Request) (data : List CipOctet) (stack : Stack config) :
    stack.readForwardOpen isLfo { request with data } =
      (({ stack with addressInfoItems := request.addressInfoItems } :
        Stack config).generateRandomConnectionNumber request.randomNumbers).map fun connectionNumber =>
          (data.drop (headerOctets isLfo), stack.readInto isLfo request connectionNumber data) := by
  have rest := readForwardOpenHeader_rest isLfo data
  unfold readForwardOpen readInto
  dsimp only
  rw [← rest]
  cases ({ stack with addressInfoItems := request.addressInfoItems } :
    Stack config).generateRandomConnectionNumber request.randomNumbers <;> rfl

theorem readInto_oToT : (stack.readInto isLfo request connectionNumber data).dummy.getOToTConnectionType =
    octetConnectionType (octetAt data (oToTTypeOctet isLfo)) := by
  unfold getOToTConnectionType readInto initializeFromMessage
  dsimp only
  rw [readForwardOpenHeader_fields]
  dsimp only
  rw [getConnectionType_read, octetAt_drop]
  cases isLfo <;> rfl

theorem readInto_tToO : (stack.readInto isLfo request connectionNumber data).dummy.getTToOConnectionType =
    octetConnectionType (octetAt data (tToOTypeOctet isLfo)) := by
  unfold getTToOConnectionType readInto initializeFromMessage
  dsimp only
  rw [readForwardOpenHeader_fields]
  dsimp only
  rw [getConnectionType_read, octetAt_drop]
  cases isLfo <;> rfl

theorem readInto_trigger : (stack.readInto isLfo request connectionNumber data).dummy.transportClassTrigger =
    octetAt data (triggerOctet isLfo) := by
  unfold readInto initializeFromMessage
  dsimp only
  rw [readForwardOpenHeader_fields]
  dsimp only
  rw [octetAt_zero, octetAt_drop]
  cases isLfo <;> rfl

theorem readInto_triad :
    addConnectionTriad (stack.readInto isLfo request connectionNumber data).dummy.connectionTriad =
      octets 8 (data.drop 10) := by
  rw [← addConnectionTriad_read]
  unfold connectionTriad readInto initializeFromMessage
  dsimp only
  rw [readForwardOpenHeader_fields]
  refine congrArg addConnectionTriad ?_
  change _ = (⟨(getUintFromMessage.run (data.drop 10)).1,
    (getUintFromMessage.run (getUintFromMessage.run (data.drop 10)).2).1,
    (getUdintFromMessage.run (getUintFromMessage.run (getUintFromMessage.run (data.drop 10)).2).2).1⟩ : ConnectionTriad)
  rw [getUintFromMessage_rest, getUintFromMessage_rest, List.drop_drop, List.drop_drop]

structure AlikeInFront (first second : Stack config) : Prop where
  table : SameTable first second
  oToT : second.dummy.getOToTConnectionType = first.dummy.getOToTConnectionType
  tToO : second.dummy.getTToOConnectionType = first.dummy.getTToOConnectionType
  triad : second.dummy.connectionTriad = first.dummy.connectionTriad

theorem AlikeInFront.existing (alike : AlikeInFront first second) :
    second.checkForExistingConnection second.dummy = first.checkForExistingConnection first.dummy := by
  have fields := ConnectionTriad.mk.injEq .. ▸ alike.triad
  unfold checkForExistingConnection findConnection equalConnectionTriad
  rw [alike.table.1, alike.table.2, fields.1, fields.2.1, fields.2.2]

theorem AlikeInFront.refusalInFront (alike : AlikeInFront first second)
    (trigger : second.dummy.getProductionTrigger = first.dummy.getProductionTrigger) :
    second.refusalInFront request = first.refusalInFront request := by
  unfold Stack.refusalInFront isNullRequest
  rw [alike.oToT, alike.tToO, alike.existing, trigger]

theorem AlikeInFront.refused (alike : AlikeInFront first second) {extendedStatus : UInt16}
    (refused : first.refusalInFront request = some extendedStatus)
    (early : extendedStatus ≠ ExtendedStatus.errorTransportClassAndTriggerCombinationNotSupported) :
    second.refusalInFront request = some extendedStatus := by
  unfold Stack.refusalInFront isNullRequest at refused ⊢
  rw [alike.oToT, alike.tToO, alike.existing]
  split_ifs at refused ⊢
  all_goals first
    | exact refused
    | exact absurd (Option.some.inj refused).symm early

theorem refusalInFront_oToT :
    stack.refusalInFront request = some ExtendedStatus.errorInvalidOToTConnectionType ↔
      stack.dummy.getOToTConnectionType = .invalid := by
  unfold refusalInFront
  by_cases invalid : stack.dummy.getOToTConnectionType = .invalid
  · rw [if_pos invalid]
    exact iff_of_true rfl invalid
  · rw [if_neg invalid]
    refine iff_of_false ?_ invalid
    split_ifs <;> decide

theorem refusalInFront_tToO (valid : stack.dummy.getOToTConnectionType ≠ .invalid) :
    stack.refusalInFront request = some ExtendedStatus.errorInvalidTToOConnectionType ↔
      stack.dummy.getTToOConnectionType = .invalid := by
  unfold refusalInFront
  rw [if_neg valid]
  by_cases invalid : stack.dummy.getTToOConnectionType = .invalid
  · rw [if_pos invalid]
    exact iff_of_true rfl invalid
  · rw [if_neg invalid]
    refine iff_of_false ?_ invalid
    split_ifs <;> decide

theorem refusalInFront_trigger (refused : stack.refusalInFront request =
      some ExtendedStatus.errorTransportClassAndTriggerCombinationNotSupported) :
    stack.dummy.getProductionTrigger = .invalid := by
  unfold refusalInFront at refused
  split_ifs at refused with _ _ _ _ _ invalid
  all_goals first
    | exact invalid
    | exact absurd (Option.some.inj refused) (by decide)

theorem additionalStatus_inFront {extendedStatus : UInt16} (refused : stack.refusalInFront request = some extendedStatus)
    (object : CipConnectionObject) :
    additionalStatus object ⟨kCipErrorConnectionFailure, extendedStatus⟩ = [extendedStatus] := by
  have wrongSize : extendedStatus ≠ ExtendedStatus.errorInvalidOToTConnectionSize ∧
      extendedStatus ≠ ExtendedStatus.errorInvalidTToOConnectionSize := by
    unfold refusalInFront at refused
    split_ifs at refused
    all_goals
      cases refused
      decide
  have itsSize : ¬(kCipErrorConnectionFailure = kCipErrorNotEnoughData ∨ kCipErrorConnectionFailure = kCipErrorTooMuchData) := by
    decide
  unfold additionalStatus
  rw [if_neg itsSize, if_neg wrongSize.1, if_neg wrongSize.2]

theorem readInto_alikeInFront (same : octets (tToOTypeOctet isLfo + 1) data = octets (tToOTypeOctet isLfo + 1) other) :
    AlikeInFront (stack.readInto isLfo request connectionNumber data)
      (stack.readInto isLfo request connectionNumber other) where
  table := ⟨rfl, rfl⟩
  oToT := by
    rw [readInto_oToT, readInto_oToT, octetAt_octets (by cases isLfo <;> decide) same]
  tToO := by
    rw [readInto_tToO, readInto_tToO, octetAt_octets (by omega) same]
  triad := by
    apply addConnectionTriad_injective
    rw [readInto_triad, readInto_triad]
    exact (octets_drop (octets_mono (by cases isLfo <;> decide) same)).symm

theorem refusalInFront_header (same : octets (headerOctets isLfo) data = octets (headerOctets isLfo) other) :
    (stack.readInto isLfo request connectionNumber other).refusalInFront request =
      (stack.readInto isLfo request connectionNumber data).refusalInFront request := by
  refine (readInto_alikeInFront (octets_mono ?_ same)).refusalInFront ?_
  · cases isLfo <;> decide
  · unfold getProductionTrigger
    rw [readInto_trigger, readInto_trigger, octetAt_octets (by cases isLfo <;> decide) same]

/-- Octets that agree as far as the verdict over the ones needs them lead to the same verdict. -/
theorem refusalInFront_settled
    (same : octets (frontOctets isLfo ((stack.readInto isLfo request connectionNumber data).refusalInFront request)) data =
      octets (frontOctets isLfo ((stack.readInto isLfo request connectionNumber data).refusalInFront request)) other) :
    (stack.readInto isLfo request connectionNumber other).refusalInFront request =
      (stack.readInto isLfo request connectionNumber data).refusalInFront request := by
  cases verdict : (stack.readInto isLfo request connectionNumber data).refusalInFront request with
  | none =>
      rw [verdict] at same
      exact (refusalInFront_header (octets_mono (Nat.le_succ _) same)).trans verdict
  | some extendedStatus =>
      rw [verdict] at same
      unfold frontOctets at same
      dsimp only at same
      split_ifs at same with oToT last
      · rw [oToT] at verdict ⊢
        have invalid := refusalInFront_oToT.mp verdict
        rw [readInto_oToT, octetAt_octets (by omega) same, ← readInto_oToT] at invalid
        exact refusalInFront_oToT.mpr invalid
      · exact (refusalInFront_header (octets_mono (by cases isLfo <;> decide) same)).trans verdict
      · exact (readInto_alikeInFront same).refused verdict last

def refusedInFront (isLfo : Bool) (data : List CipOctet) (extendedStatus : UInt16) : Response where
  replyService := 0x80 ||| if isLfo then kLargeForwardOpen else kForwardOpen
  generalStatus := kCipErrorConnectionFailure
  additionalStatus := [extendedStatus]
  message := octets 8 (data.drop 10) ++ addSintToMessage 0 ++ addSintToMessage 0
  addressInfoItems := []

theorem forwardOpenRoutine_inFront {extendedStatus : UInt16}
    (number : ({ stack with addressInfoItems := request.addressInfoItems } :
      Stack config).generateRandomConnectionNumber request.randomNumbers = .ok connectionNumber)
    (refused : (stack.readInto isLfo request connectionNumber data).refusalInFront request = some extendedStatus) :
    ∃ after : Stack config, stack.forwardOpenRoutine isLfo { request with data } =
      .ok (refusedInFront isLfo data extendedStatus, after) ∧ after.connections = stack.connections := by
  unfold forwardOpenRoutine
  rw [readForwardOpen_eq, number]
  change ∃ after, answerForwardOpen ((stack.readInto isLfo request connectionNumber data).checkForwardOpen
    { request with data } _) = _ ∧ _
  have refuses : (stack.readInto isLfo request connectionNumber data).refusalInFront { request with data } =
    some extendedStatus := refused
  rw [checkForwardOpen_eq, refuses]
  refine ⟨_, congrArg Except.ok (Prod.ext ?_ rfl), rfl⟩
  have status := additionalStatus_inFront refused (stack.readInto isLfo request connectionNumber data).dummy
  unfold refusedInFront
  rw [← readInto_triad, ← status]
  rfl

theorem forwardOpenRoutine_passes
    (number : ({ stack with addressInfoItems := request.addressInfoItems } :
      Stack config).generateRandomConnectionNumber request.randomNumbers = .ok connectionNumber)
    (passes : (stack.readInto isLfo request connectionNumber data).refusalInFront request = none) :
    stack.forwardOpenRoutine isLfo { request with data } =
      answerForwardOpen ((stack.readInto isLfo request connectionNumber data).parseConnectionPath request
        (data.drop (headerOctets isLfo)) >>= openConnection request.network) := by
  unfold forwardOpenRoutine
  rw [readForwardOpen_eq, number]
  change answerForwardOpen ((stack.readInto isLfo request connectionNumber data).checkForwardOpen
    { request with data } _) = _
  have passed : (stack.readInto isLfo request connectionNumber data).refusalInFront { request with data } = none := passes
  rw [checkForwardOpen_eq, passed]
  rfl

end Verdict

end Stack

end EtherNetIP
